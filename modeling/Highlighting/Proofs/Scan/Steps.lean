import Highlighting.Proofs.Scan.Effects
import Highlighting.Scan.Line

/-!
Scans as runs of steps: the frames of a stack as it grows and shrinks, and what holds of a whole run
because each step keeps it.
-/
namespace Highlighting
open ScanM

namespace Stack

def frames (s : Stack) : List Frame := s.regions ++ [s.root]

theorem frames_eq_top_cons (s : Stack) : ∃ below, s.frames = s.top :: below := by
  obtain ⟨root, _ | ⟨f, rest⟩⟩ := s
  · exact ⟨[], rfl⟩
  · exact ⟨rest ++ [root], rfl⟩

theorem top_mem_frames (s : Stack) : s.top ∈ s.frames := by
  obtain ⟨below, h⟩ := s.frames_eq_top_cons
  rw [h]
  exact List.mem_cons_self

theorem frames_of_push {s s' : Stack} {f : Frame} (h : s.push? f = some s') :
    s'.frames = f :: s.frames ∧ s'.root = s.root ∧ s'.depth ≤ maxDepth := by
  unfold push? at h
  split at h
  · next hlt =>
    cases h
    exact ⟨rfl, rfl, hlt⟩
  · cases h

theorem frames_of_pop {s s' : Stack} {f : Frame} (h : s.pop? = some (f, s')) :
    s.frames = f :: s'.frames ∧ s'.root = s.root ∧ s'.depth ≤ s.depth := by
  obtain ⟨root, _ | ⟨g, rest⟩⟩ := s
  · cases h
  · cases h
    exact ⟨rfl, rfl, Nat.le_succ _⟩

theorem regions_of_push {s s' : Stack} {f : Frame} (h : s.push? f = some s') :
    s'.regions = f :: s.regions := by
  unfold push? at h
  split at h
  · cases h
    rfl
  · cases h

theorem regions_of_pop {s s' : Stack} {f : Frame} (h : s.pop? = some (f, s')) :
    s.regions = f :: s'.regions := by
  obtain ⟨root, _ | ⟨g, rest⟩⟩ := s
  · cases h
  · cases h
    rfl

theorem top_of_push {s s' : Stack} {f : Frame} (h : s.push? f = some s') : s'.top = f := by
  rw [top, regions_of_push h]
  rfl

theorem top_of_pop {s s' : Stack} {f : Frame} (h : s.pop? = some (f, s')) : s.top = f := by
  rw [top, regions_of_pop h]
  rfl

end Stack

theorem Rule.matcher?_of_opening? {r : Rule} {opening : Opening} (h : r.opening? = some opening) :
    r.matcher? = some opening.matcher := by
  cases r <;> cases h <;> rfl

namespace Step

def out : Step → Paint
  | .go _ _ out | .halt _ out => out

def stack : Step → Stack
  | .go _ stack _ | .halt stack _ => stack

end Step

namespace Grammar
variable {g : Grammar}

theorem better_holds {K : Found → Prop} {best : Option Found} {candidate : Candidate}
    {groups : Option Groups} (hbest : ∀ b ∈ best, K b)
    (hnew : ∀ found ∈ groups, K ⟨candidate, found⟩) : ∀ b ∈ better best candidate groups, K b := by
  intro b hb
  unfold better at hb
  split at hb
  · exact hbest b hb
  · split at hb
    · cases hb
      exact hnew _ rfl
    · split at hb
      · cases hb
        exact hnew _ rfl
      · exact hbest b hb

theorem bestRule_holds {K : Found → Prop} {text : Text} {pos : Nat} {tried : List Nat}
    (hrule : ∀ id ∈ tried, ∀ matcher ∈ (g.rule id).matcher?, ∀ groups ∈ matcher.search text pos,
      K ⟨.rule id, groups⟩) {best : Option Found} (hbest : ∀ b ∈ best, K b) :
    ∀ b ∈ g.bestRule text pos best tried, K b := by
  induction tried generalizing best with
  | nil => exact hbest
  | cons id rest ih =>
    obtain ⟨hid, hrest⟩ := List.forall_mem_cons.1 hrule
    rw [bestRule]
    split
    · exact hbest
    · split
      · exact ih hrest hbest
      · next matcher hmatcher => exact ih hrest (better_holds hbest (hid matcher hmatcher))

/-- What each step keeps, whatever match it acts on, a walk keeps. -/
theorem walk_ensures {rescan : Rescan} {text : Text} (P : Stack → Paint → Prop)
    (hstep : ∀ pos stack out, P stack out → Ensures (g.nextMatch text pos stack) fun found? =>
      ∀ found ∈ found?, Ensures (g.act rescan text pos stack found out)
        fun step => P step.stack step.out) (steps : Nat) :
    ∀ (pos : Nat) (stack : Stack) (out : Paint), P stack out →
      Ensures (g.walk rescan text steps pos stack out) fun r => P r.1 r.2 := by
  induction steps with
  | zero =>
    intro pos stack out h
    rw [walk]
    split
    · exact Ensures.throw _
    · exact Ensures.pure h
  | succ steps ih =>
    intro pos stack out h
    rw [walk]
    split
    · refine (hstep pos stack out h).bind fun found? hfound => ?_
      cases found? with
      | none => exact Ensures.pure h
      | some found =>
        refine (hfound found rfl).bind fun step hnext => ?_
        cases step with
        | go pos stack out => exact ih pos stack out hnext
        | halt stack out => exact Ensures.pure hnext
    · exact Ensures.pure h

theorem keepOpen_suffix (rescan : Rescan) (text : Text) (stack : Stack) (rest : List Frame) :
    ∀ (kept : List Frame) (pos : Nat) (out : Paint),
      Ensures (g.keepOpen rescan text stack rest kept pos out) fun r =>
        ∃ left, left <:+ rest.reverse ++ kept ∧ r.2.1 = { stack with regions := left } := by
  induction rest with
  | nil => intro kept pos out; exact Ensures.pure ⟨kept, List.suffix_refl _, rfl⟩
  | cons frame rest ih =>
    intro kept pos out
    rw [keepOpen, List.reverse_cons, List.append_assoc, List.singleton_append]
    split
    · refine (Ensures.trivial (g.edgeMatcher _ _)).bind fun matcher _ => ?_
      split
      · refine (Ensures.trivial (Captures.paint _ _ _ _ _ _ _)).bind fun out _ => ?_
        exact ih (frame :: kept) _ _
      · refine Ensures.pure ⟨kept, ?_, rfl⟩
        exact (List.suffix_cons frame kept).trans (List.suffix_append _ _)
    · exact ih (frame :: kept) _ _

end Grammar

end Highlighting
