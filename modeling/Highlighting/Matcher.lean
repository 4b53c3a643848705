/-!
What a scan asks of a pattern: where it matches a text at or after a position, and what its groups
took. Positions count characters. How patterns are read and matched is the business of an `Engine`.
-/
namespace Highlighting

abbrev Text := Array Char

def Text.ofString (s : String) : Text := s.toList.toArray

/-- The characters from `start` up to, not including, `stop`. -/
structure Span where
  start : Nat
  stop : Nat
  deriving Repr, DecidableEq, Inhabited

namespace Span

def isEmpty (s : Span) : Bool := s.start == s.stop

def slice (s : Span) (text : Text) : List Char := (text.extract s.start s.stop).toList

end Span

/-- What the groups of a match took. Group 0 is the match itself; a group that took no part has
none. -/
structure Groups where
  whole : Span
  inner : List (Option Span)
  deriving Repr, DecidableEq, Inhabited

namespace Groups

def get? (g : Groups) : Nat → Option Span
  | 0 => some g.whole
  | n + 1 => g.inner[n]?.join

def toList (g : Groups) : List (Option Span) := some g.whole :: g.inner

theorem join_getElem?_toList (g : Groups) (i : Nat) : g.toList[i]?.join = g.get? i := by
  cases i <;> rfl

end Groups

/-- A pattern that is ready to be searched for. -/
structure Matcher where
  /-- How many groups the pattern captures, the match itself left out. -/
  groupCount : Nat
  /-- The first match that starts at or after a position. -/
  search : Text → Nat → Option Groups

structure Engine where
  /-- Reads patterns; a source that is not a pattern gives none. -/
  compile? : String → Option Matcher
  /-- How many scans of texts can lie in each other before the native stack is used up. -/
  room : Nat

namespace Matcher

/-- Every span that a search gives lies in the text and runs forward. -/
def InBounds (m : Matcher) : Prop :=
  ∀ text position groups, m.search text position = some groups →
    ∀ i span, groups.get? i = some span → span.start ≤ span.stop ∧ span.stop ≤ text.size

/-- A search never gives a match that starts before its position. -/
def Forward (m : Matcher) : Prop :=
  ∀ text position groups, m.search text position = some groups → position ≤ groups.whole.start

end Matcher

namespace Engine

def InBounds (e : Engine) : Prop := ∀ source m, e.compile? source = some m → m.InBounds

def Forward (e : Engine) : Prop := ∀ source m, e.compile? source = some m → m.Forward

end Engine

end Highlighting
