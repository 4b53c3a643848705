/-! Marks that an editor shows, and ranges of lines. -/
namespace Highlighting

/-- Columns `startColumn` up to, not including, `endColumn` of a line are shown as a group. -/
structure Mark where
  line : Nat
  startColumn : Nat
  endColumn : Nat
  group : String
  deriving Repr, DecidableEq, Inhabited

/-- The lines from the first to the last, both included, or to the end of the buffer. -/
structure LineRange where
  first : Nat
  last : Option Nat
  deriving Repr, DecidableEq, Inhabited

namespace LineRange

def all : LineRange := ⟨0, none⟩

def between (first last : Nat) : LineRange := ⟨first, some last⟩

def contains (r : LineRange) (line : Nat) : Bool := r.first ≤ line && r.last.all (line ≤ ·)

def isEmpty (r : LineRange) : Bool := r.last.any (· < r.first)

end LineRange

end Highlighting
