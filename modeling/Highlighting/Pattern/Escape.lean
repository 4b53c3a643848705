import Highlighting.Pattern.Fault
import Highlighting.Unicode.Property

/-!
The parts of a pattern that brackets and plain text share. Each reader takes the rest of the pattern
and gives what it read with what is left.
-/
namespace Highlighting.Pattern

open Unicode

abbrev Rest := List Char

def isDigit (c : Char) : Bool := '0' ≤ c && c ≤ '9'

def octalDigit? (c : Char) : Option Nat :=
  if '0' ≤ c ∧ c ≤ '7' then some (c.toNat - '0'.toNat) else none

def readDigits (digit? : Char → Option Nat) (base : Nat) :
    (limit : Nat) → List Char → Nat × Nat × List Char
  | limit + 1, c :: rest =>
    match digit? c with
    | none => (0, 0, c :: rest)
    | some _ => go limit 0 0 (c :: rest)
  | _, text => (0, 0, text)
where
  go : Nat → Nat → Nat → List Char → Nat × Nat × List Char
    | limit, count, value, c :: rest =>
      match digit? c with
      | none => (count, value, c :: rest)
      | some d =>
        match limit with
        | 0 => (count + 1, value * base + d, rest)
        | limit + 1 => go limit (count + 1) (value * base + d) rest
    | _, count, value, [] => (count, value, [])

def decimalDigit? (c : Char) : Option Nat :=
  if isDigit c then some (c.toNat - '0'.toNat) else none

def readNumber (text : List Char) : Nat × Nat × List Char :=
  readDigits decimalDigit? 10 text.length text

def largestCode : Nat := 0x1FFFFF

/-- Whether a number can be written as the code of a character. Beside those up to the largest two
more can; they are no characters. -/
def isCodeNumber (value : Nat) : Bool :=
  value ≤ largestCode || value = 0xFFFFFFFE || value = 0xFFFFFFFF

/-- What a coded character stands for: a code point, or one byte of an encoded character, written in
some base. -/
inductive Coded
  | code (value : Nat)
  | byte (value base : Nat)
  deriving Repr, DecidableEq, Inhabited

/-- Reads what follows `\x`. Without digits it is the byte 0. -/
def readHexEscape (text : List Char) : Except Fault (Option Coded × Rest) :=
  match text with
  | '{' :: inner =>
    let (count, value, rest) := readDigits hexDigit? 16 8 inner
    if count = 0 then .ok (none, text)
    else
      match rest with
      | '}' :: rest => .ok (some (.code value), rest)
      | _ => .error .badCode
  | [] => .ok (none, [])
  | _ =>
    let (_, value, rest) := readDigits hexDigit? 16 2 text
    .ok (some (.byte value 16), rest)

def readShortCode (text : List Char) : Except Fault (Option Coded × Rest) :=
  match text with
  | [] => .ok (none, [])
  | _ =>
    let (count, value, rest) := readDigits hexDigit? 16 4 text
    if count = 4 then .ok (some (.code value), rest) else .error .badCode

def readOctalEscape (text : List Char) : Except Fault (Option Coded × Rest) :=
  match text with
  | '{' :: inner =>
    let (count, value, rest) := readDigits octalDigit? 8 11 inner
    if count = 0 then .ok (none, text)
    else
      match rest with
      | '}' :: rest => .ok (some (.code value), rest)
      | _ => .error .badCode
  | _ => .ok (none, text)

def readOctalByte (limit : Nat) (text : List Char) : Coded × List Char :=
  let (_, value, rest) := readDigits octalDigit? 8 limit text
  (.byte (value % 256) 8, rest)

def controlLetter? : Char → Option Nat
  | 'n' => some 10
  | 't' => some 9
  | 'r' => some 13
  | 'f' => some 12
  | 'a' => some 7
  | 'b' => some 8
  | 'e' => some 27
  | 'v' => some 11
  | _ => none

/-- Reads the code that follows a backslash when no other rule applies: a control letter, `\cX`,
`\C-X`, `\M-X`, or the character itself. -/
def readCode : (depth : Nat) → List Char → Except Fault (Nat × Rest)
  | 0, _ => .error .tooDeep
  | _, [] => .error .endAfterBackslash
  | depth + 1, 'M' :: rest =>
    match rest with
    | '-' :: '\\' :: rest => do
      let (code, rest) ← readCode depth rest
      .ok (code % 256 ||| 0x80, rest)
    | '-' :: c :: rest => .ok (c.toNat % 256 ||| 0x80, rest)
    | [] | ['-'] => .error .endInControl
    | _ => .error .badControl
  | _, ['C'] => .error .endInControl
  | depth + 1, 'C' :: sign :: rest => if sign = '-' then control depth rest else .error .badControl
  | depth + 1, 'c' :: rest => control depth rest
  | _, c :: rest => .ok ((controlLetter? c).getD c.toNat, rest)
where
  control : (depth : Nat) → List Char → Except Fault (Nat × Rest)
    | _, [] => .error .endInControl
    | _, '?' :: rest => .ok (0x7F, rest)
    | depth, '\\' :: rest => do
      let (code, rest) ← readCode depth rest
      .ok (code &&& 0x9F, rest)
    | _, c :: rest => .ok (c.toNat &&& 0x9F, rest)

def encodedLength (first : Nat) : Nat :=
  if first < 0xC0 then 1
  else if first < 0xE0 then 2
  else if first < 0xF0 then 3
  else if first < 0xF5 then 4
  else 1

def isTrailByte (byte : Nat) : Bool := 0x80 ≤ byte && byte < 0xC0

/-- The code that the bytes of one character stand for: what the first byte holds beside its mark
of length, then six bits of each byte that goes on. -/
def codeOfBytes (first : Nat) (trail : List Nat) : Nat :=
  trail.foldl (fun code byte => code * 64 + (byte - 0x80)) <|
    match trail.length with
    | 0 => first
    | 1 => first - 0xC0
    | 2 => first - 0xE0
    | _ => first - 0xF0

/-- Whether a code is written in as few bytes as it needs: `trail` bytes after the first. -/
def isShortest (code trail : Nat) : Bool :=
  match trail with
  | 0 => code < 0x80
  | 1 => 0x80 ≤ code
  | 2 => 0x800 ≤ code
  | _ => 0x10000 ≤ code

/-- Where a class stands. The characters of words are more outside of brackets than inside. -/
inductive Place
  | bare
  | bracketed
  deriving Repr, DecidableEq, Inhabited

namespace Place

def word : Place → RangeSet
  | .bare => wordChars
  | .bracketed => Property.word

def notWord : Place → RangeSet
  | .bare => bareNotWord
  | .bracketed => bracketedNotWord
where
  bareNotWord : RangeSet := wordChars.complement
  bracketedNotWord : RangeSet := Property.word.complement

def classLetter? (place : Place) : Char → Option RangeSet
  | 'w' => some place.word
  | 'W' => some place.notWord
  | 'd' => some digit
  | 'D' => some notDigit
  | 's' => some Property.whiteSpace
  | 'S' => some notSpace
  | 'h' => some Property.asciiHexDigit
  | 'H' => some notHex
  | _ => none
where
  digit : RangeSet := Unicode.Category.codes .decimalNumber
  notDigit : RangeSet := digit.complement
  notSpace : RangeSet := Property.whiteSpace.complement
  notHex : RangeSet := Property.asciiHexDigit.complement

def property? (place : Place) (name : List Char) : Option RangeSet :=
  if Property.normalize name = "word" then some place.word else Property.find? name

/-- Reads a property after its opening brace: a name up to `}`, turned round by `^` and once more by
`negative`. -/
def readProperty (place : Place) (negative : Bool) (text : List Char) :
    Except Fault (RangeSet × Rest) :=
  let (negative, text) := match text with
    | '^' :: rest => (!negative, rest)
    | _ => (negative, text)
  let name := text.takeWhile fun c => !"\x7d()\x7b|".toList.contains c
  match text.drop name.length with
  | '}' :: rest =>
    match place.property? name with
    | some codes => .ok (if negative then codes.complement else codes, rest)
    | none => .error .badProperty
  | _ => .error .badProperty

end Place

end Highlighting.Pattern
