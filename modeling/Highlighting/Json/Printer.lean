import Highlighting.Decimal.Shortest
import Highlighting.Json.Basic

/-! Writing JSON without blanks. Only what must be escaped is. -/
namespace Highlighting.Json

def escape (c : Char) : List Char :=
  match c with
  | '"' => ['\\', '"']
  | '\\' => ['\\', '\\']
  | '\x08' => ['\\', 'b']
  | '\x0c' => ['\\', 'f']
  | '\n' => ['\\', 'n']
  | '\r' => ['\\', 'r']
  | '\t' => ['\\', 't']
  | c =>
    if c < ' ' then
      let digits := Nat.toDigits 16 c.toNat
      ['\\', 'u'] ++ List.replicate (4 - digits.length) '0' ++ digits
    else [c]

def writeString (s : String) : List Char := '"' :: s.toList.flatMap escape ++ ['"']

def writeNumber : Number → List Char
  | .natural n => Nat.toDigits 10 n
  | .negative n => '-' :: Nat.toDigits 10 n
  | .real x => x.write.toList

mutual

def writeBefore (rest : List Char) : Json → List Char
  | .null => "null".toList ++ rest
  | .bool true => "true".toList ++ rest
  | .bool false => "false".toList ++ rest
  | .number n => writeNumber n ++ rest
  | .string s => writeString s ++ rest
  | .array items => '[' :: writeItems (']' :: rest) items
  | .object entries => '{' :: writeEntries ('}' :: rest) entries
  | .unusable => "null".toList ++ rest

def writeItems (rest : List Char) : List Json → List Char
  | [] => rest
  | [item] => writeBefore rest item
  | item :: next :: items => writeBefore (',' :: writeItems rest (next :: items)) item

def writeEntries (rest : List Char) : List (String × Json) → List Char
  | [] => rest
  | [(key, value)] => writeString key ++ ':' :: writeBefore rest value
  | (key, value) :: next :: entries =>
    writeString key ++ ':' :: writeBefore (',' :: writeEntries rest (next :: entries)) value

end

def write (json : Json) : String := String.ofList (json.writeBefore [])

end Highlighting.Json
