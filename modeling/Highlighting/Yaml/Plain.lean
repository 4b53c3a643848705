import Highlighting.Document
import Highlighting.Text.Words
import Highlighting.Unicode.RangeSet

/-! What a YAML scalar can be read as: that depends on its text, its tag and whether it is plain. -/
namespace Highlighting.Yaml

open Words (digit?)

def isNull (text : String) : Bool := ["null", "Null", "NULL", "~"].contains text

def bool? (text : String) : Option Bool :=
  if ["true", "True", "TRUE"].contains text then some true
  else if ["false", "False", "FALSE"].contains text then some false
  else none

def digitOf? (base : Nat) (c : Char) : Option Nat := (Unicode.hexDigit? c).filter (· < base)

def natural? (base : Nat) (digits : List Char) : Option Nat :=
  if digits.isEmpty then none
  else digits.foldlM (fun n c => (digitOf? base c).map (base * n + ·)) 0

/-- Whether a text is digits of which the first, without need, is zero. -/
def isPadded (digits : List Char) : Bool :=
  1 < digits.length && digits.head? == some '0' && digits.all Char.isDigit

def magnitude? (text : List Char) : Option Nat :=
  let prefixed := match text with
    | '0' :: 'x' :: rest => natural? 16 rest
    | '0' :: 'o' :: rest => natural? 8 rest
    | '0' :: 'b' :: rest => natural? 2 rest
    | _ => none
  prefixed <|> (if isPadded text then none else natural? 10 text)

def integer? (text : String) : Option Int :=
  let limit := Nat.pow 2 63
  match text.toList with
  | '-' :: rest => (magnitude? rest).bind fun n => if n ≤ limit then some (-(n : Int)) else none
  | '+' :: rest => (magnitude? rest).bind fun n => if n < limit then some (n : Int) else none
  | text => (magnitude? text).bind fun n => if n < limit then some (n : Int) else none

def flag? (text : String) : Option Bool :=
  bool? text <|> (integer? text).map (· != 0)

def coreTag (kind : String) : String := "tag:yaml.org,2002:" ++ kind

def scalarOf (tag : Option String) (plain : Bool) (text : String) : Scalar where
  text := some text
  present :=
    if !plain then some true
    else
      match tag with
      | some tag => if tag = coreTag "null" then (if isNull text then some false else none)
        else some true
      | none => some (text ≠ "" && !isNull text)
  isEmpty := plain && text = ""
  flag :=
    match tag with
    | some tag =>
      if tag = coreTag "bool" then bool? text
      else if tag = coreTag "int" then (integer? text).map (· != 0)
      else none
    | none => if plain then flag? text else none

/-- What stands for a text with no document in it. -/
def void : Scalar := ⟨none, some false, true, none⟩

end Highlighting.Yaml
