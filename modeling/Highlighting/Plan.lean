import Highlighting.Mark

/-! How much of a buffer's marks a request renews. -/
namespace Highlighting

inductive Plan
  | noChange
  /-- Marks are added on these lines, and none is removed. -/
  | partialUpdate (lines : LineRange)
  | fullRefresh (clear set : LineRange)
  deriving Repr, DecidableEq, Inhabited

/-- The plan for a buffer that has changed from some line on, if it has, and of which the lines to
`visibleEnd` are seen. -/
def Plan.decide (changeStart : Option Nat) (refresh : Bool) (visibleEnd : Nat) : Plan :=
  match changeStart, refresh with
  | none, false => .noChange
  | none, true => .fullRefresh .all .all
  | some start, true =>
    .fullRefresh (.between start visibleEnd) (.between start visibleEnd)
  | some start, false => .partialUpdate (.between start visibleEnd)

end Highlighting
