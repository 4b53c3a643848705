import Highlighting.Proofs.Scan.Steps

/-! What a match does to the open regions, and where it leads. Captures have no say in it. -/
namespace Highlighting
open ScanM

structure Onward where
  next? : Option Nat
  stack : Stack
  deriving Repr, DecidableEq

def Step.onward : Step → Onward
  | .go pos stack _ => ⟨some pos, stack⟩
  | .halt stack _ => ⟨none, stack⟩

namespace Grammar

def openOnward (stack : Stack) (found : Found) (rule : Nat) (opening : Opening)
    (resolved : Option String) : Option Onward :=
  let nameScopes := stack.scopes.enter opening.name
  if found.start = found.stop && stack.top.rule = rule &&
      stack.top.enteredAt = some found.start then
    some ⟨none, stack⟩
  else
    (stack.push? ⟨rule, nameScopes, nameScopes.enter opening.contentName, resolved,
      some found.start⟩).map fun stack => ⟨some found.stop, stack⟩

def closeOnward (pos : Nat) (stack : Stack) (found : Found) : Onward :=
  match stack.pop? with
  | none => ⟨none, stack⟩
  | some (frame, below) =>
    if found.stop = pos && frame.enteredAt = some pos then ⟨none, below⟩
    else ⟨some found.stop, below⟩

/-- What a match leads to that was found from `pos` on. -/
def onward (g : Grammar) (text : Text) (pos : Nat) (stack : Stack) (found : Found) :
    Option Onward :=
  match found.candidate with
  | .stop => some (closeOnward pos stack found)
  | .rule id =>
    match g.rule id with
    | .single .. => some ⟨if pos < found.stop then some found.stop else none, stack⟩
    | .block opening stop _ _ =>
      openOnward stack found id opening (resolve text found.groups stop)
    | .lines opening go _ =>
      openOnward stack found id opening (resolve text found.groups (some go))
    | .container _ => some ⟨some found.stop, stack⟩

/-- The regions that are open where a match leads on. -/
inductive Leads (g : Grammar) (pos : Nat) (stack : Stack) (found : Found) : Stack → Prop
  | past (h : pos < found.stop) : Leads g pos stack found stack
  | container {rule : Nat} (hrule : found.candidate = .rule rule)
    (hnone : (g.rule rule).matcher? = none) : Leads g pos stack found stack
  | close {frame : Frame} {below : Stack} (hpop : stack.pop? = some (frame, below))
    (hnew : ¬(found.stop = pos ∧ frame.enteredAt = some pos)) : Leads g pos stack found below
  | enter {rule : Nat} {opening : Opening} {frame : Frame} {after : Stack}
    (hrule : found.candidate = .rule rule) (hopening : (g.rule rule).opening? = some opening)
    (hframe : frame.rule = rule ∧ frame.enteredAt = some found.start)
    (hpush : stack.push? frame = some after)
    (hnew : ¬(found.start = found.stop ∧ stack.top.rule = rule ∧
      stack.top.enteredAt = some found.start)) : Leads g pos stack found after

section Leads
variable {g : Grammar} {text : Text} {pos next : Nat} {stack after : Stack} {found : Found}

theorem leads_of_openOnward {rule : Nat} {opening : Opening} {resolved : Option String}
    (hrule : found.candidate = .rule rule) (hopening : (g.rule rule).opening? = some opening)
    (h : openOnward stack found rule opening resolved = some ⟨some next, after⟩) :
    next = found.stop ∧ g.Leads pos stack found after := by
  unfold openOnward at h
  dsimp only at h
  split at h
  · cases h
  · next hnew =>
    obtain ⟨pushed, hpush, heq⟩ := Option.map_eq_some_iff.1 h
    cases heq
    exact ⟨rfl, .enter hrule hopening ⟨rfl, rfl⟩ hpush (by simpa using hnew)⟩

theorem leads_of_closeOnward (h : closeOnward pos stack found = ⟨some next, after⟩) :
    next = found.stop ∧ g.Leads pos stack found after := by
  unfold closeOnward at h
  cases hpop : stack.pop? with
  | none => rw [hpop] at h; cases h
  | some popped =>
    rw [hpop] at h
    dsimp only at h
    split at h
    · cases h
    · next hnew =>
      cases h
      exact ⟨rfl, .close hpop (by simpa using hnew)⟩

theorem leads_of_onward (h : g.onward text pos stack found = some ⟨some next, after⟩) :
    next = found.stop ∧ g.Leads pos stack found after := by
  unfold onward at h
  cases hcandidate : found.candidate with
  | stop =>
    rw [hcandidate] at h
    exact leads_of_closeOnward (Option.some.inj h)
  | rule rule =>
    rw [hcandidate] at h
    dsimp only at h
    cases hrule : g.rule rule with
    | container =>
      rw [hrule] at h
      cases h
      exact ⟨rfl, .container hcandidate (by rw [hrule]; rfl)⟩
    | single =>
      rw [hrule] at h
      dsimp only at h
      split at h
      · next hpast =>
        cases h
        exact ⟨rfl, .past hpast⟩
      · cases h
    | block =>
      rw [hrule] at h
      exact leads_of_openOnward hcandidate (by rw [hrule]; rfl) h
    | lines =>
      rw [hrule] at h
      exact leads_of_openOnward hcandidate (by rw [hrule]; rfl) h

end Leads

variable {g : Grammar} (rescan : Rescan) (text : Text)

theorem openRegion_onward (stack : Stack) (found : Found) (rule : Nat) (opening : Opening)
    (resolved : Option String) (out : Paint) :
    Ensures (openRegion rescan text stack found rule opening resolved out)
      fun step => openOnward stack found rule opening resolved = some step.onward := by
  refine (Ensures.trivial (Captures.paint rescan text stack _ _ _ out)).bind fun out _ => ?_
  simp only [openOnward]
  split
  · exact Ensures.pure rfl
  · split
    · next hpush =>
      refine Ensures.pure ?_
      rw [hpush]
      rfl
    · exact Ensures.throw _

theorem closeRegion_onward (pos : Nat) (stack : Stack) (found : Found) (out : Paint) :
    Ensures (g.closeRegion rescan text pos stack found out)
      fun step => closeOnward pos stack found = step.onward := by
  unfold closeRegion closeOnward
  cases stack.pop? with
  | none => exact Ensures.pure rfl
  | some popped =>
    refine (Ensures.trivial (Captures.paint rescan text _ _ _ _ _)).bind fun out _ => ?_
    dsimp only
    split
    · exact Ensures.pure rfl
    · exact Ensures.pure rfl

theorem act_onward (pos : Nat) (stack : Stack) (found : Found) (out : Paint) :
    Ensures (g.act rescan text pos stack found out)
      fun step => g.onward text pos stack found = some step.onward := by
  unfold act onward
  cases found.candidate with
  | stop => exact (closeRegion_onward rescan text pos stack found out).imp fun _ => congrArg some
  | rule id =>
    dsimp only
    cases g.rule id with
    | container => exact Ensures.pure rfl
    | single name _ captures =>
      refine (Ensures.trivial (Captures.paint rescan text stack _ _ _ _)).bind fun out _ => ?_
      dsimp only
      split
      · exact Ensures.pure rfl
      · exact Ensures.pure rfl
    | block => exact openRegion_onward rescan text stack found _ _ _ _
    | lines => exact openRegion_onward rescan text stack found _ _ _ _

end Grammar

end Highlighting
