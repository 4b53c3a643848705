import Highlighting.Scan.Stack

/-!
A line under the brush. It is painted from its start on, piece by piece, each up to a place that is
asked for; what is painted stays, and nothing is painted past the line's end.
-/
namespace Highlighting

structure ScopedSpan where
  start : Nat
  stop : Nat
  scopes : Scopes
  deriving Repr, DecidableEq, Inhabited

structure Paint where
  /-- The pieces, last first. -/
  spans : List ScopedSpan
  /-- Where the next piece starts. -/
  last : Nat
  limit : Nat
  deriving Repr, DecidableEq, Inhabited

namespace Paint

def fresh (limit : Nat) : Paint := ⟨[], 0, limit⟩

def upTo (p : Paint) (place : Nat) (scopes : Scopes) : Paint :=
  let stop := min place p.limit
  if p.last < stop then { p with spans := ⟨p.last, stop, scopes⟩ :: p.spans, last := stop } else p

def pieces (p : Paint) : List ScopedSpan := p.spans.reverse

end Paint

end Highlighting
