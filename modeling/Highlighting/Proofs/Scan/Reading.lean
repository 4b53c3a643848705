import Highlighting.Proofs.Scan.Inside

/-! What searches find in a compiled grammar. -/
namespace Highlighting
open ScanM

namespace Grammar
variable {g : Grammar}

abbrev Runs (g : Grammar) {α : Type} (x : ScanM α) (P : α → Prop) : Prop :=
  ScanM.Runs (PatternCache.Sound g.engine) x P

section Read
variable {R : Matcher → Prop} (hg : g.Closed)
  (he : ∀ source m, g.engine.compile? source = some m → R m)
include hg he

theorem edgeMatcher_read {rule : Nat} {edge : EdgePattern}
    (hedge : (g.rule rule).edge? = some edge) (resolved : Option String) :
    g.Runs (g.edgeMatcher edge resolved) R := by
  refine (Checked.edgeMatcher_checks he edge (fun m hm => ?_) resolved).self
  exact Checked.matchers_read hg he rule m (Rule.mem_matchers_edge hedge hm)

theorem nextMatch_read (text : Text) (pos : Nat) (stack : Stack) :
    g.Runs (g.nextMatch text pos stack) fun found? => ∀ found ∈ found?, ∃ m, R m ∧
      m.search text pos = some found.groups ∧ ∀ rule, found.candidate = .rule rule →
        rule ∈ g.candidatesOf stack.top.rule ∧ (g.rule rule).matcher? = some m := by
  refine nextMatch_holds (fun hends => ?_) fun rule hrule m hmatcher groups hgroups => ?_
  · have hedge := congrArg Rule.edge? hends
    refine (edgeMatcher_read hg he hedge _).imp fun m hm groups hgroups => ?_
    exact ⟨m, hm, hgroups, nofun⟩
  · have hm := Checked.matchers_read hg he rule m (Rule.mem_matchers hmatcher)
    refine ⟨m, hm, hgroups, fun other hother => ?_⟩
    cases hother
    exact ⟨hrule, hmatcher⟩

end Read

section Here
variable {text : Text} {pos : Nat} {stack : Stack} {best : Option Found}

theorem nextMatch_of_open (h : (g.rule stack.top.rule).ends = false) :
    g.nextMatch text pos stack = pure (g.bestRule text pos none
      (g.candidatesOf stack.top.rule)) := by
  simp only [nextMatch]
  split
  · next hends =>
    rw [hends] at h
    cases h
  · rfl

theorem nextMatch_of_block {opening : Opening} {source : String} {m : Matcher} {stops : Captures}
    (h : g.rule stack.top.rule = .block opening (some ⟨source, some m⟩) stops false) :
    g.nextMatch text pos stack = pure (g.bestRule text pos (better none .stop (m.search text pos))
      (g.candidatesOf stack.top.rule)) := by
  simp only [nextMatch, h]
  rfl

theorem not_here (hbest : ∀ b ∈ best, pos < b.start) :
    ¬(best.any fun b => b.start == pos) = true := by
  cases best with
  | none => exact Bool.false_ne_true
  | some b => simpa using Nat.ne_of_gt (hbest b rfl)

theorem bestRule_of_here {found : Found} (h : found.start = pos) (rules : List Nat) :
    g.bestRule text pos (some found) rules = some found := by
  cases rules with
  | nil => rfl
  | cons rule rest => rw [bestRule, if_pos (by simpa using h)]

theorem bestRule_cons_here (hbest : ∀ b ∈ best, pos < b.start) {rule : Nat}
    {m : Matcher} (hm : (g.rule rule).matcher? = some m) {groups : Groups}
    (hgroups : m.search text pos = some groups) (hstart : groups.whole.start = pos)
    (rest : List Nat) :
    g.bestRule text pos best (rule :: rest) = some ⟨.rule rule, groups⟩ := by
  have hbetter : better best (.rule rule) (some groups) = some ⟨.rule rule, groups⟩ := by
    cases best with
    | none => rfl
    | some b => exact if_pos (hstart ▸ hbest b rfl)
  rw [bestRule, if_neg (not_here hbest), hm]
  dsimp only
  rw [hgroups, hbetter]
  have hhere : Found.start ⟨.rule rule, groups⟩ = pos := hstart
  exact bestRule_of_here hhere rest

theorem bestRule_cons_ahead (hbest : ∀ b ∈ best, pos < b.start) {rule : Nat}
    {m : Matcher} (hm : (g.rule rule).matcher? = some m)
    (hgroups : ∀ groups ∈ m.search text pos, pos < groups.whole.start) (rest : List Nat) :
    ∃ best', (∀ b ∈ best', pos < b.start) ∧
      g.bestRule text pos best (rule :: rest) = g.bestRule text pos best' rest := by
  refine ⟨better best (.rule rule) (m.search text pos), better_holds hbest hgroups, ?_⟩
  rw [bestRule, if_neg (not_here hbest), hm]

end Here

end Grammar

end Highlighting
