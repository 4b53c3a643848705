import Highlighting.Text.Utf8

/-! Lines of a text or of its bytes. A line feed ends a line and takes a return before it along. -/
namespace Highlighting.Lines

variable {α : Type} [BEq α]

def dropOne (mark : α) : List α → List α
  | [] => []
  | c :: rest => if c == mark then rest else c :: rest

/-- The lines of a text of which `line` has been read, last element first. -/
def splitFrom (feed ret : α) (line : List α) : List α → List (List α)
  | [] => if line.isEmpty then [] else [line.reverse]
  | c :: rest =>
    if c == feed then (dropOne ret line).reverse :: splitFrom feed ret [] rest
    else splitFrom feed ret (c :: line) rest

/-- The lines of a text; what follows the last line feed is a line unless it is empty. -/
def ofChars (text : List Char) : List (List Char) := splitFrom '\n' '\r' [] text

def ofBytes (bytes : List UInt8) : List (List UInt8) := splitFrom 10 13 [] bytes

def through (mark : α) : List α → List α
  | [] => []
  | c :: rest => if c == mark then [c] else c :: through mark rest

def trimEnd (line : List Char) : List Char :=
  (line.reverse.dropWhile fun c => c == '\r' || c == '\n').reverse

/-- The first line of a file of which `limit` bytes are looked at; none if these are not text. -/
def first? (limit : Nat) (bytes : List UInt8) : Option (List Char) :=
  (Utf8.decode (through 10 (bytes.take limit))).map trimEnd

end Highlighting.Lines
