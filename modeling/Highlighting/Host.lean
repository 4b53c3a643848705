import Highlighting.Mark

/-! The editor, as far as it is called. A call may be refused; which calls are depends on what was
asked before. -/
namespace Highlighting

inductive HostCall
  | addMarks (buffer : Nat) (marks : List Mark)
  | removeMarks (buffer : Nat) (range : LineRange)
  /-- Turns highlighting off. -/
  | disable
  /-- Shows lines in a view of their own. -/
  | openScratch (fileType : String) (lines : List String)
  deriving Repr, DecidableEq, Inhabited

/-- A call and, if it was refused, the reason. -/
structure Attempt where
  call : HostCall
  refusal : Option String
  deriving Repr, DecidableEq, Inhabited

structure Host where
  /-- Why a call is refused after earlier attempts, if it is. -/
  refuse : List Attempt → HostCall → Option String
  /-- The attempts so far, in order. -/
  attempts : List Attempt := []
  deriving Inhabited

namespace Host

def willing : Host := { refuse := fun _ _ => none }

def make (h : Host) (call : HostCall) : Option String × Host :=
  let refusal := h.refuse h.attempts call
  (refusal, { h with attempts := h.attempts ++ [⟨call, refusal⟩] })

def accepted (h : Host) : List HostCall :=
  (h.attempts.filter fun a => a.refusal.isNone).map (·.call)

end Host

end Highlighting
