import Highlighting.Rules
import Mathlib.Data.List.Basic

/-! Which group a scope is shown as: that of its longest selector. -/
namespace Highlighting

/-- A selector stands for itself and for all that begins with it and a dot. -/
def Selects (selector scope : String) : Prop :=
  scope = selector ∨ ∃ rest, scope = selector ++ "." ++ rest

theorem selects_iff {selector scope : String} :
    Selects selector scope ↔ scope.toList = selector.toList ∨
      ∃ rest, scope.toList = selector.toList ++ '.' :: rest := by
  have hdot : ".".toList = ['.'] := rfl
  constructor
  · rintro (rfl | ⟨rest, rfl⟩)
    · exact .inl rfl
    · exact .inr ⟨rest.toList, by simp [hdot]⟩
  · rintro (h | ⟨rest, h⟩)
    · exact .inl (String.toList_inj.1 h)
    · refine .inr ⟨String.ofList rest, String.toList_inj.1 ?_⟩
      simp [h, hdot]

theorem mem_cutsAtDots {text cut : List Char} :
    cut ∈ cutsAtDots text ↔ ∃ behind, text = behind ++ '.' :: cut := by
  induction text with
  | nil => simp [cutsAtDots]
  | cons c text ih =>
    have hlater : (∃ behind, c :: text = behind ++ '.' :: cut) ↔
        (c = '.' ∧ text = cut) ∨ ∃ behind, text = behind ++ '.' :: cut := by
      constructor
      · rintro ⟨behind, h⟩
        cases behind with
        | nil => simp_all
        | cons b behind => simp_all
      · rintro (⟨rfl, rfl⟩ | ⟨behind, rfl⟩)
        · exact ⟨[], rfl⟩
        · exact ⟨c :: behind, rfl⟩
    rw [hlater, ← ih]
    by_cases hc : c = '.'
    · simp [cutsAtDots, hc, eq_comm]
    · simp [cutsAtDots, hc]

theorem pairwise_cutsAtDots (text : List Char) :
    (cutsAtDots text).Pairwise fun a b => b.length < a.length := by
  induction text with
  | nil => exact .nil
  | cons c text ih =>
    by_cases hc : c = '.'
    · have hshort : ∀ cut ∈ cutsAtDots text, cut.length < text.length := by
        intro cut hcut
        obtain ⟨behind, rfl⟩ := mem_cutsAtDots.1 hcut
        simp
        omega
      simpa [cutsAtDots, hc] using ⟨hshort, ih⟩
    · simpa [cutsAtDots, hc] using ih

theorem mem_scopeLine {selector scope : String} :
    selector ∈ scopeLine scope ↔ Selects selector scope := by
  have hcut : (∃ cut, (∃ behind, scope.toList.reverse = behind ++ '.' :: cut) ∧
      String.ofList cut.reverse = selector) ↔
        ∃ rest, scope.toList = selector.toList ++ '.' :: rest := by
    constructor
    · rintro ⟨cut, ⟨behind, h⟩, rfl⟩
      refine ⟨behind.reverse, ?_⟩
      simpa using congrArg List.reverse h
    · rintro ⟨rest, h⟩
      refine ⟨selector.toList.reverse, ⟨rest.reverse, ?_⟩, by simp⟩
      simp [h]
  rw [selects_iff, ← hcut]
  simp only [scopeLine, List.mem_cons, List.mem_map, mem_cutsAtDots, String.toList_inj]
  rw [eq_comm]

theorem pairwise_scopeLine (scope : String) :
    (scopeLine scope).Pairwise fun a b => b.length < a.length := by
  have hshort : ∀ cut ∈ cutsAtDots scope.toList.reverse, cut.length < scope.length := by
    intro cut hcut
    obtain ⟨behind, h⟩ := mem_cutsAtDots.1 hcut
    have hlength := congrArg List.length h
    rw [List.length_reverse, String.length_toList, List.length_append, List.length_cons] at hlength
    omega
  have hcuts := pairwise_cutsAtDots scope.toList.reverse
  simpa [scopeLine, List.pairwise_map] using ⟨hshort, hcuts⟩

namespace GroupRule

def selectors (r : GroupRule) : List String := r.groups.map (·.1)

theorem lookup_eq_none_iff {r : GroupRule} {s : String} :
    r.groups.lookup s = none ↔ s ∉ r.selectors := by
  rw [List.lookup_eq_none_iff, selectors, List.mem_map]
  constructor
  · rintro h ⟨e, he, rfl⟩
    simpa using h e he
  · intro h e he
    simpa using fun hs => h ⟨e, he, hs.symm⟩

theorem groupOfScope?_eq_none_iff {r : GroupRule} {scope : String} :
    r.groupOfScope? scope = none ↔ ∀ selector ∈ r.selectors, ¬ Selects selector scope := by
  simp only [groupOfScope?, List.findSome?_eq_none_iff, mem_scopeLine, lookup_eq_none_iff]
  exact ⟨fun h s hs hsel => h s hsel hs, fun h s hsel hs => h s hs hsel⟩

theorem groupOfScope?_eq_some_iff {r : GroupRule} {scope group : String} :
    r.groupOfScope? scope = some group ↔ ∃ selector, r.groups.lookup selector = some group ∧
      Selects selector scope ∧
        ∀ other ∈ r.selectors, Selects other scope → other.length ≤ selector.length := by
  rw [groupOfScope?, List.findSome?_eq_some_iff]
  constructor
  · rintro ⟨nearer, selector, further, hline, hgroup, hnearer⟩
    refine ⟨selector, hgroup, mem_scopeLine.1 (by simp [hline]), fun other hother hsel => ?_⟩
    have hshorter := pairwise_scopeLine scope
    have hmem := mem_scopeLine.2 hsel
    simp only [hline, List.mem_append, List.mem_cons, List.pairwise_append,
      List.pairwise_cons] at hmem hshorter
    obtain hmem | rfl | hmem := hmem
    · exact absurd hother (lookup_eq_none_iff.1 (hnearer other hmem))
    · exact Nat.le_refl _
    · exact Nat.le_of_lt (hshorter.2.1.1 other hmem)
  · rintro ⟨selector, hgroup, hsel, hlongest⟩
    obtain ⟨nearer, further, hline⟩ := List.append_of_mem (mem_scopeLine.2 hsel)
    refine ⟨nearer, selector, further, hline, hgroup, fun other hmem => ?_⟩
    -- What stands before the selector is longer, so the rule does not name it.
    have hlonger := pairwise_scopeLine scope
    rw [hline, List.pairwise_append] at hlonger
    have hlt := hlonger.2.2 other hmem selector (by simp)
    have hselects := mem_scopeLine.1 (by simp [hline, hmem] : other ∈ scopeLine scope)
    rw [lookup_eq_none_iff]
    intro hother
    have hle := hlongest other hother hselects
    omega

/-- A scope is shown as the group of the longest selector that is the scope or, with a dot behind
it, begins it, and has no group if there is none. Of nested scopes the innermost one that has a
group gives it, and there is none if no scope has one. -/
theorem group_of_longest_selector (r : GroupRule) :
    (∀ scope group, r.groupOfScope? scope = some group ↔
      ∃ selector, r.groups.lookup selector = some group ∧ Selects selector scope ∧
        ∀ other ∈ r.selectors, Selects other scope → other.length ≤ selector.length) ∧
    (∀ scope, r.groupOfScope? scope = none ↔ ∀ selector ∈ r.selectors, ¬ Selects selector scope) ∧
    (∀ scopes group, r.groupOf? scopes = some group ↔
      ∃ outer scope inner, scopes = outer ++ scope :: inner ∧
        r.groupOfScope? scope = some group ∧ ∀ s ∈ inner, r.groupOfScope? s = none) ∧
    ∀ scopes, r.groupOf? scopes = none ↔ ∀ scope ∈ scopes, r.groupOfScope? scope = none := by
  refine ⟨fun scope group => groupOfScope?_eq_some_iff, fun scope => groupOfScope?_eq_none_iff,
    fun scopes group => ?_, fun scopes => by simp [groupOf?]⟩
  rw [groupOf?, List.findSome?_eq_some_iff]
  constructor
  · rintro ⟨inner, scope, outer, hscopes, hgroup, hinner⟩
    refine ⟨outer.reverse, scope, inner.reverse, ?_, hgroup, by simpa using hinner⟩
    simpa using congrArg List.reverse hscopes
  · rintro ⟨outer, scope, inner, rfl, hgroup, hinner⟩
    exact ⟨inner.reverse, scope, outer.reverse, by simp, hgroup, by simpa using hinner⟩

/-- A selector may be empty or end in a dot. -/
example : ([["s", "a..b", "ab"], ["s", ".b"], ["s"]].map
    (GroupRule.mk [("a", "A"), ("a.", "B"), ("", "C")]).groupOf?) =
      [some "B", some "C", none] := by
  decide

end GroupRule

end Highlighting
