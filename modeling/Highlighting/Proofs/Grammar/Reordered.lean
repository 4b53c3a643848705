import Highlighting.Grammar.Arrangement
import Highlighting.Proofs.Grammar.Rendering
import Mathlib.Data.List.Forall2

/-!
Grammar files in which captures stand in another order. What patterns lead to stays the same, and so
do the targets that are reached.
-/
namespace Highlighting

def Library.Reordered (library library' : Library) : Prop :=
  ∀ file, Option.Rel GrammarSource.Reordered (library.lookup file) (library'.lookup file)

section
variable {r r' : RuleSource} {s s' : GrammarSource} {library library' : Library}

theorem rel_perm_symm {names names' : Option RuleNames} (h : Option.Rel List.Perm names names') :
    Option.Rel List.Perm names' names := by
  cases h with
  | none => exact .none
  | some h => exact .some h.symm

theorem rel_perm_trans {names names' names'' : Option RuleNames}
    (h : Option.Rel List.Perm names names') (h' : Option.Rel List.Perm names' names'') :
    Option.Rel List.Perm names names'' := by
  cases h with
  | none => exact h'
  | some h =>
    cases h' with
    | some h' => exact .some (h.trans h')

theorem rel_perm_or {names names' others others' : Option RuleNames}
    (h : Option.Rel List.Perm names names') (ho : Option.Rel List.Perm others others') :
    Option.Rel List.Perm (names <|> others) (names' <|> others') := by
  cases h with
  | none => exact ho
  | some h => exact .some h

namespace RuleSource

theorem Reordered.symm (h : r.Reordered r') : r'.Reordered r where
  captures := rel_perm_symm h.captures
  beginCaptures := rel_perm_symm h.beginCaptures
  endCaptures := rel_perm_symm h.endCaptures
  whileCaptures := rel_perm_symm h.whileCaptures
  rest := by
    rw [h.rest]

theorem Reordered.trans {r'' : RuleSource} (h : r.Reordered r') (h' : r'.Reordered r'') :
    r.Reordered r'' where
  captures := rel_perm_trans h.captures h'.captures
  beginCaptures := rel_perm_trans h.beginCaptures h'.beginCaptures
  endCaptures := rel_perm_trans h.endCaptures h'.endCaptures
  whileCaptures := rel_perm_trans h.whileCaptures h'.whileCaptures
  rest := by
    rw [h'.rest, h.rest]

theorem Reordered.captureFields (h : r.Reordered r') {names : RuleNames}
    (hn : some names ∈ Compile.Target.captureFields r) :
    ∃ names', some names' ∈ Compile.Target.captureFields r' ∧ names.Perm names' := by
  have hfields : List.Forall₂ (Option.Rel List.Perm) (Compile.Target.captureFields r)
      (Compile.Target.captureFields r') :=
    .cons h.captures (.cons h.beginCaptures (.cons h.endCaptures (.cons h.whileCaptures .nil)))
  generalize Compile.Target.captureFields r = fields at hn hfields
  generalize Compile.Target.captureFields r' = fields' at hfields
  induction hfields with
  | nil => cases hn
  | cons hfirst _ ih =>
    obtain rfl | hn := List.mem_cons.1 hn
    · cases hfirst with
      | some hperm => exact ⟨_, List.mem_cons_self, hperm⟩
    · obtain ⟨names', hn', hperm⟩ := ih hn
      exact ⟨names', List.mem_cons_of_mem _ hn', hperm⟩

end RuleSource

namespace GrammarSource

theorem Reordered.symm (h : s.Reordered s') : s'.Reordered s where
  size_eq := h.size_eq.symm
  rules number r r' hr hr' := (h.rules number r' r hr' hr).symm
  rest := by
    rw [h.rest]

theorem Reordered.trans {s'' : GrammarSource} (h : s.Reordered s') (h' : s'.Reordered s'') :
    s.Reordered s'' where
  size_eq := h'.size_eq.trans h.size_eq
  rules number r r'' hr hr'' := by
    have hnumber : number < s'.rules.size := by
      rw [h.size_eq]
      exact (Array.getElem?_eq_some_iff.1 hr).1
    have hr' := Array.getElem?_eq_getElem hnumber
    exact (h.rules number _ _ hr hr').trans (h'.rules number _ _ hr' hr'')
  rest := by
    rw [h'.rest, h.rest]

theorem Reordered.forall₂ (h : s.Reordered s') :
    List.Forall₂ RuleSource.Reordered s.rules.toList s'.rules.toList := by
  refine List.forall₂_iff_get.2 ⟨h.size_eq.symm, fun number hn hn' => ?_⟩
  refine h.rules number _ _ ?_ ?_
  · rw [← Array.getElem?_toList]
    exact List.getElem?_eq_getElem hn
  · rw [← Array.getElem?_toList]
    exact List.getElem?_eq_getElem hn'

theorem reordered_of_forall₂ {scopeName : String} {patterns : List Nat} {repository : RuleNames}
    {rules rules' : Array RuleSource}
    (h : List.Forall₂ RuleSource.Reordered rules.toList rules'.toList) :
    GrammarSource.Reordered ⟨scopeName, patterns, repository, rules⟩
      ⟨scopeName, patterns, repository, rules'⟩ where
  size_eq := h.length_eq.symm
  rules number r r' hr hr' := by
    rw [← Array.getElem?_toList] at hr hr'
    obtain ⟨hn, rfl⟩ := List.getElem?_eq_some_iff.1 hr
    obtain ⟨hn', rfl⟩ := List.getElem?_eq_some_iff.1 hr'
    exact (List.forall₂_iff_get.1 h).2 number hn hn'
  rest := rfl

theorem Reordered.rule (h : s.Reordered s') (number : Nat) :
    RuleSource.Reordered ((s.rules[number]?).getD {}) ((s'.rules[number]?).getD {}) := by
  cases hr : s.rules[number]? with
  | some r =>
    have hnumber : number < s'.rules.size := by
      rw [h.size_eq]
      exact (Array.getElem?_eq_some_iff.1 hr).1
    have hr' := Array.getElem?_eq_getElem hnumber
    rw [hr']
    exact h.rules number r _ hr hr'
  | none =>
    have hr' : s'.rules[number]? = none := by
      rw [Array.getElem?_eq_none_iff, h.size_eq]
      exact Array.getElem?_eq_none_iff.1 hr
    rw [hr']
    exact .refl _

end GrammarSource

theorem Library.reordered_single {s s' : GrammarSource} (file : String) (h : s.Reordered s') :
    Library.Reordered [(file, s)] [(file, s')] := by
  intro name
  rw [List.lookup_cons, List.lookup_cons]
  split
  · exact .some h
  · exact .none

theorem Library.Reordered.symm (h : library.Reordered library') : library'.Reordered library := by
  intro file
  have hfile := h file
  generalize library.lookup file = found at hfile ⊢
  generalize library'.lookup file = found' at hfile ⊢
  cases hfile with
  | none => exact .none
  | some h => exact .some h.symm

end

namespace Compile
variable {library library' : Library} (h : library.Reordered library')
include h

theorem fileOf_reordered (file : String) :
    (fileOf library file).Reordered (fileOf library' file) := by
  have hfile := h file
  unfold fileOf
  generalize library.lookup file = found at hfile ⊢
  generalize library'.lookup file = found' at hfile ⊢
  cases hfile with
  | none => exact .refl _
  | some h => exact h

theorem ruleOf_reordered (file : String) (number : Nat) :
    (ruleOf library file number).Reordered (ruleOf library' file number) :=
  (fileOf_reordered h file).rule number

theorem scopeName_reordered (file : String) :
    (fileOf library' file).scopeName = (fileOf library file).scopeName := by
  rw [(fileOf_reordered h file).rest]

theorem repository_reordered (file : String) :
    (fileOf library' file).repository = (fileOf library file).repository := by
  rw [(fileOf_reordered h file).rest]

theorem Target.key_reordered (t : Target) : t.key library' = t.key library := by
  cases t with
  | root file => exact congrArg Key.root (scopeName_reordered h file)
  | rule context number => rfl

theorem Target.inside_reordered (t : Target) : t.inside library' = t.inside library := by
  cases t with
  | root file => rw [Target.inside, Target.inside, repository_reordered h]
  | rule context number => rw [Target.inside, Target.inside, (ruleOf_reordered h _ _).rest]

theorem Target.patterns_reordered (t : Target) : t.patterns library' = t.patterns library := by
  cases t with
  | root file => rw [Target.patterns, Target.patterns, (fileOf_reordered h file).rest]
  | rule context number => rw [Target.patterns, Target.patterns, (ruleOf_reordered h _ _).rest]

theorem reference_reordered (file : String) (number : Nat) :
    (ruleOf library' file number).reference = (ruleOf library file number).reference := by
  rw [(ruleOf_reordered h file number).rest]

theorem isSome_lookup_reordered (file : String) :
    (library'.lookup file).isSome = (library.lookup file).isSome := by
  have hfile := h file
  generalize library.lookup file = found at hfile ⊢
  generalize library'.lookup file = found' at hfile ⊢
  cases hfile <;> rfl

theorem referent?_reordered (context : Context) (reference : String) :
    referent? library' context reference = referent? library context reference := by
  have hentry : entryOf? library' = entryOf? library := by
    funext name file
    unfold entryOf?
    rw [repository_reordered h]
  unfold referent? fileNamed?
  rw [hentry, scopeName_reordered h]
  simp only [isSome_lookup_reordered h]

theorem mention?_reordered (context : Context) (number : Nat) :
    mention? library' context number = mention? library context number := by
  unfold mention? target?
  rw [reference_reordered h]
  simp only [referent?_reordered h]

theorem Target.leads_reordered (t : Target) : t.leads library' = t.leads library := by
  unfold Target.leads
  rw [t.patterns_reordered h, t.inside_reordered h]
  refine List.filterMap_congr fun number _ => ?_
  unfold lead?
  rw [reference_reordered h, mention?_reordered h]
  simp only [Target.key_reordered h]

theorem Mentions.reordered {t u : Target} (hm : Mentions library t u) : Mentions library' t u := by
  cases hm with
  | pattern mem leads =>
    rw [← t.patterns_reordered h] at mem
    rw [← mention?_reordered h, ← t.inside_reordered h] at leads
    exact .pattern mem leads
  | @capture names name number mem entry holds =>
    cases t with
    | root file => cases mem
    | rule context outer =>
      obtain ⟨field, hfield, hnames⟩ := List.mem_filterMap.1 mem
      obtain rfl : field = some names := hnames
      obtain ⟨names', hfield', hperm⟩ := (ruleOf_reordered h _ _).captureFields hfield
      rw [← Target.inside_reordered h] at holds ⊢
      refine .capture (List.mem_filterMap.2 ⟨_, hfield', rfl⟩) (hperm.mem_iff.1 entry) ?_
      rw [(ruleOf_reordered h _ _).rest]
      exact holds

theorem Reached.reordered {start : String} {t : Target} (hr : Reached library start t) :
    Reached library' start t := by
  induction hr with
  | start => exact .start
  | step _ mentions ih => exact .step ih (mentions.reordered h)

end Compile

end Highlighting
