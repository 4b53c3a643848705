import Highlighting.Scan.Paint

/-! What a highlighter knows of a text: runs of characters on one line, and their scopes. -/
namespace Highlighting

structure Token where
  scopes : Scopes
  line : Nat
  column : Nat
  length : Nat
  deriving Repr, DecidableEq, Inhabited

namespace Token

def endColumn (t : Token) : Nat := t.column + t.length

def scope? (t : Token) : Option String := t.scopes.getLast?

def ofSpan (line : Nat) (s : ScopedSpan) : Token := ⟨s.scopes, line, s.start, s.stop - s.start⟩

def between (first last : Nat) (tokens : List Token) : List Token :=
  tokens.filter fun t => first ≤ t.line && t.line ≤ last

/-- What is shown of the tokens of a text: the name of the grammar, then for each token its scopes
and where it stands. -/
def listing (scopeName : String) (tokens : List Token) : List String :=
  ("scopeName: " ++ scopeName) :: tokens.flatMap fun t =>
    let place := fun column => "[" ++ toString t.line ++ ", " ++ toString column ++ "]"
    [", ".intercalate t.scopes, "\t" ++ place t.column ++ " - " ++ place t.endColumn]

end Token

end Highlighting
