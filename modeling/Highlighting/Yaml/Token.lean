import Highlighting.Text.Utf8
import Highlighting.Text.Words
import Highlighting.Unicode.RangeSet
import Highlighting.Yaml.Cursor

/-! The tokens of a YAML text, and reading those that are neither marks nor scalars. -/
namespace Highlighting.Yaml

inductive Token
  /-- A statement of the version, and whether it is one that can be read. -/
  | version (known : Bool)
  /-- A tag's short form and the beginning that it stands for. -/
  | tagHandle (handle beginning : List Char)
  | documentStart
  | documentEnd
  | streamEnd
  | blockSequence
  | blockMapping
  | blockEnd
  | flowSequence
  | flowSequenceEnd
  | flowMapping
  | flowMappingEnd
  | blockEntry
  | flowEntry
  | key
  | value
  | alias (name : List Char)
  | anchor (name : List Char)
  | tag (handle suffix : List Char)
  | scalar (plain : Bool) (text : List Char)
  deriving Repr, DecidableEq, Inhabited

def isNameChar (c : Char) : Bool := c.isAlphanum || c == '_' || c == '-'

def readAnchor (c : Cursor) : Option (List Char × Cursor) :=
  let name := c.rest.takeWhile isNameChar
  let c := c.skip name.length
  let ends := endsWord c.next ||
    c.next.any fun x => ['?', ':', ',', ']', '}', '%', '@', '\x60'].contains x
  if name.isEmpty || !ends then none else some (name, c)

/-- Whether an address may hold the character; `wide` addresses hold a few more. -/
def isAddressChar (wide : Bool) (c : Char) : Bool :=
  isNameChar c ||
    [';', '/', '?', ':', '@', '&', '=', '+', '$', '.', '!', '~', '*', '\'', '(', ')'].contains c ||
    (wide && [',', '[', ']'].contains c)

def readByte : List Char → Option (UInt8 × List Char)
  | '%' :: a :: b :: rest => do
    let a ← Unicode.hexDigit? a
    let b ← Unicode.hexDigit? b
    return ((16 * a + b).toUInt8, rest)
  | _ => none

def addressBytes (wide : Bool) : (fuel : Nat) → List Char → Option (List UInt8 × List Char)
  | 0, text => some ([], text)
  | fuel + 1, text =>
    match text with
    | [] => some ([], [])
    | '%' :: _ => do
      let (byte, rest) ← readByte text
      let (bytes, rest) ← addressBytes wide fuel rest
      return (byte :: bytes, rest)
    | x :: rest =>
      if isAddressChar wide x then do
        let (bytes, rest) ← addressBytes wide fuel rest
        return (x.toNat.toUInt8 :: bytes, rest)
      else some ([], text)

def readAddress (wide : Bool) (beginning : List Char) (c : Cursor) :
    Option (List Char × Cursor) := do
  let (bytes, rest) ← addressBytes wide c.rest.length c.rest
  let address := beginning ++ (← Utf8.decode bytes)
  return (address, c.skip (c.rest.length - rest.length))

/-- Reads the short form of a tag: an exclamation mark, and a name that another one ends. -/
def readHandle (c : Cursor) : Option (List Char × Cursor) :=
  if c.next == some '!' then
    let name := (c.rest.drop 1).takeWhile isNameChar
    let c := c.skip (1 + name.length)
    if c.next == some '!' then some ('!' :: name ++ ['!'], c.skip 1) else some ('!' :: name, c)
  else none

def readTag (flow : Bool) (c : Cursor) : Option (Token × Cursor) := do
  let (tag, c) ←
    if c.ahead 1 == some '<' then
      let (address, c) ← readAddress true [] (c.skip 2)
      if address.isEmpty || c.next ≠ some '>' then none else pure (Token.tag [] address, c.skip 1)
    else
      let (handle, c) ← readHandle c
      if 1 < handle.length && handle.getLast? == some '!' then
        let (suffix, c) ← readAddress false [] c
        if suffix.isEmpty then none else pure (Token.tag handle suffix, c)
      else
        let (suffix, c) ← readAddress false handle.tail c
        pure (if suffix.isEmpty then Token.tag [] ['!'] else Token.tag ['!'] suffix, c)
  if endsWord c.next || (flow && c.next == some ',') then return (tag, c) else none

def readNumber (c : Cursor) : Option (Nat × Cursor) := do
  let digits := c.rest.takeWhile Char.isDigit
  if 9 < digits.length then none
  return (← Words.digits? digits, c.skip digits.length)

def skipBlanks (c : Cursor) : Cursor := c.skipWhile isBlank

def readDirective (c : Cursor) : Option (Token × Cursor) := do
  let c := c.skip 1
  let name := c.rest.takeWhile isNameChar
  let c := c.skip name.length
  if name.isEmpty || !endsWord c.next then none
  let c := skipBlanks c
  let (token, c) ←
    if name == ['Y', 'A', 'M', 'L'] then
      let (major, c) ← readNumber c
      if c.next ≠ some '.' then none
      let (minor, c) ← readNumber (c.skip 1)
      pure (Token.version (major == 1 && (minor == 1 || minor == 2)), c)
    else if name == ['T', 'A', 'G'] then
      let (handle, c) ← readHandle c
      if handle ≠ ['!'] && handle.getLast? ≠ some '!' then none
      if c.next.all fun x => !isBlank x then none
      let (beginning, c) ← readAddress true [] (skipBlanks c)
      if beginning.isEmpty || !endsWord c.next then none
      pure (Token.tagHandle handle beginning, c)
    else none
  let c := (skipBlanks c).skipComment
  if c.next.any fun x => !isBreak x then none
  return (token, c.takeBreak.2)

end Highlighting.Yaml
