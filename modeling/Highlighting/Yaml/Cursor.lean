/-! A place in a YAML text, and the characters that matter wherever one stands. -/
namespace Highlighting.Yaml

def isBreak (c : Char) : Bool :=
  c == '\n' || c == '\r' || c == '\x85' || c == '\u2028' || c == '\u2029'

def isBlank (c : Char) : Bool := c == ' ' || c == '\t'

def endsWord (c : Option Char) : Bool := c.all fun c => isBlank c || isBreak c

def isAllowed (c : Char) : Bool :=
  c == '\t' || c == '\n' || c == '\r' || (' ' ≤ c && c ≤ '~') || c == '\x85' ||
    (0xA0 ≤ c.toNat && c.toNat ≤ 0xFFFD) || 0x10000 ≤ c.toNat

structure Cursor where
  rest : List Char
  line : Nat := 0
  column : Nat := 0
  index : Nat := 0
  deriving Repr, Inhabited

namespace Cursor

def ahead (c : Cursor) (k : Nat) : Option Char := c.rest[k]?

def next (c : Cursor) : Option Char := c.rest.head?

def skip (c : Cursor) (count : Nat) : Cursor :=
  { c with rest := c.rest.drop count, column := c.column + count, index := c.index + count }

def skipWhile (c : Cursor) (test : Char → Bool) : Cursor :=
  c.skip (c.rest.takeWhile test).length

def takeBreak (c : Cursor) : List Char × Cursor :=
  match c.rest with
  | '\r' :: '\n' :: rest => (['\n'], ⟨rest, c.line + 1, 0, c.index + 2⟩)
  | b :: rest =>
    if isBreak b then
      ([if b == '\u2028' || b == '\u2029' then b else '\n'],
        ⟨rest, c.line + 1, 0, c.index + 1⟩)
    else ([], c)
  | [] => ([], c)

/-- Whether three marks that stand alone begin a line here. -/
def atMarks (mark : Char) (c : Cursor) : Bool :=
  c.column == 0 && (c.rest.take 3) == [mark, mark, mark] && endsWord (c.ahead 3)

def atDocumentEdge (c : Cursor) : Bool := c.atMarks '-' || c.atMarks '.'

def skipComment (c : Cursor) : Cursor :=
  if c.next == some '#' then c.skipWhile fun c => !isBreak c else c

end Cursor

end Highlighting.Yaml
