import Highlighting.Unicode.Property

/-! Words of a text, and numbers written in it. -/
namespace Highlighting.Words

open Unicode

def isBlank (text : List Char) : Bool := text.all isWhiteSpace

def ofString (text : String) : List String :=
  ((splitAll isWhiteSpace text.toList).filter (· ≠ [])).map String.ofList

def digit? (c : Char) : Option Nat :=
  if '0' ≤ c ∧ c ≤ '9' then some (c.toNat - '0'.toNat) else none

def digits? (digits : List Char) : Option Nat :=
  if digits.isEmpty then none
  else digits.foldlM (fun n c => (digit? c).map (10 * n + ·)) 0

def largest : Nat := 0xFFFFFFFFFFFFFFFF

/-- A number of at most 64 bits, digits with or without a plus sign before them. -/
def count? (text : String) : Option Nat :=
  let digits := match text.toList with
    | '+' :: rest => rest
    | all => all
  (digits? digits).filter (· ≤ largest)

end Highlighting.Words
