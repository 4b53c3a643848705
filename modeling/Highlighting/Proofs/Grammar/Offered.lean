import Highlighting.Proofs.Grammar.Candidates
import Highlighting.Proofs.Sample

/-!
What is tried inside a rule: all that its patterns lead to through containers, each rule once.
-/
namespace Highlighting.Compile

/-- A list of patterns leads to a rule that is no container, through containers. -/
inductive Offers (rules : Array Rule) : (patterns : List Nat) → (id : Nat) → Prop
  | listed {patterns : List Nat} {id : Nat} (mem : id ∈ patterns)
      (isRule : ∀ inner, ruleAt rules id ≠ .container inner) : Offers rules patterns id
  | held {patterns inner : List Nat} {container id : Nat} (mem : container ∈ patterns)
      (isContainer : ruleAt rules container = .container inner) (offered : Offers rules inner id) :
      Offers rules patterns id

variable {rules : Array Rule}

namespace Offers
variable {patterns patterns' : List Nat} {id : Nat}

theorem mono (h : Offers rules patterns id) (hsub : patterns ⊆ patterns') :
    Offers rules patterns' id := by
  cases h with
  | listed mem isRule => exact .listed (hsub mem) isRule
  | held mem isContainer offered => exact .held (hsub mem) isContainer offered

theorem isRule (h : Offers rules patterns id) : ∀ inner, ruleAt rules id ≠ .container inner := by
  induction h with
  | listed _ isRule => exact isRule
  | held _ _ _ ih => exact ih

theorem append_iff :
    Offers rules (patterns ++ patterns') id ↔ Offers rules patterns id ∨
      Offers rules patterns' id := by
  constructor
  · intro h
    cases h with
    | listed mem isRule =>
      exact (List.mem_append.1 mem).imp (.listed · isRule) (.listed · isRule)
    | held mem isContainer offered =>
      exact (List.mem_append.1 mem).imp (.held · isContainer offered) (.held · isContainer offered)
  · rintro (h | h)
    · exact h.mono (List.subset_append_left _ _)
    · exact h.mono (List.subset_append_right _ _)

theorem mem_of_closed {done : List Nat}
    (hclosed : ∀ container ∈ done, ∀ inner, ruleAt rules container = .container inner →
      inner ⊆ done)
    (h : Offers rules patterns id) (hsub : patterns ⊆ done) : id ∈ done := by
  induction h with
  | listed mem _ => exact hsub mem
  | held mem isContainer _ ih => exact ih (hclosed _ (hsub mem) _ isContainer)

end Offers

/-- What containers that have been seen hold has been seen or is still to be done. -/
def Covered (rules : Array Rule) (seen work : List Nat) : Prop :=
  ∀ container ∈ seen, ∀ inner, ruleAt rules container = .container inner → inner ⊆ seen ++ work

namespace Covered
variable {seen work : List Nat} {id : Nat}

theorem again (h : Covered rules seen (id :: work)) (old : id ∈ seen) :
    Covered rules seen work := by
  intro container hc inner hinner place hplace
  have hmem := h container hc inner hinner hplace
  simp only [List.mem_append, List.mem_cons] at hmem ⊢
  obtain hmem | rfl | hmem := hmem
  · exact .inl hmem
  · exact .inl old
  · exact .inr hmem

theorem see (h : Covered rules seen (id :: work)) {more : List Nat}
    (hid : ∀ inner, ruleAt rules id = .container inner → inner ⊆ more) :
    Covered rules (id :: seen) (more ++ work) := by
  intro container hc inner hinner place hplace
  simp only [List.mem_append, List.mem_cons]
  obtain rfl | hc := List.mem_cons.1 hc
  · exact .inr (.inl (hid inner hinner hplace))
  · have hmem := h container hc inner hinner hplace
    simp only [List.mem_append, List.mem_cons] at hmem
    tauto

end Covered

namespace Walk
variable {work seen tried : List Nat} {id : Nat}

theorem sound (h : Walk rules work seen tried) : ∀ id ∈ tried, Offers rules work id := by
  induction h with
  | nil => nofun
  | again _ _ ih => exact fun id hid => (ih id hid).mono (List.subset_cons_self _ _)
  | opened _ isContainer _ ih =>
    intro id hid
    obtain h | h := Offers.append_iff.1 (ih id hid)
    · exact .held List.mem_cons_self isContainer h
    · exact h.mono (List.subset_cons_self _ _)
  | tried _ isRule _ ih =>
    refine List.forall_mem_cons.2 ⟨.listed List.mem_cons_self isRule, fun id hid => ?_⟩
    exact (ih id hid).mono (List.subset_cons_self _ _)

theorem fresh (h : Walk rules work seen tried) : tried.Nodup ∧ ∀ id ∈ tried, id ∉ seen := by
  induction h with
  | nil => exact ⟨List.nodup_nil, nofun⟩
  | again _ _ ih => exact ih
  | opened _ _ _ ih =>
    exact ⟨ih.1, fun id hid hm => ih.2 id hid (List.mem_cons_of_mem _ hm)⟩
  | tried new _ _ ih =>
    refine ⟨List.nodup_cons.2 ⟨fun hm => ih.2 _ hm List.mem_cons_self, ih.1⟩, ?_⟩
    exact List.forall_mem_cons.2 ⟨new, fun id hid hm => ih.2 id hid (List.mem_cons_of_mem _ hm)⟩

/-- When all work is done, what has been seen holds all that its containers hold; the rules in it
were seen before or have been tried. -/
theorem closes (h : Walk rules work seen tried) (hc : Covered rules seen work) :
    ∃ done, seen ++ work ⊆ done ∧ Covered rules done [] ∧
      ∀ id ∈ done, (∀ inner, ruleAt rules id ≠ .container inner) → id ∈ seen ∨ id ∈ tried := by
  induction h with
  | nil seen => exact ⟨seen, by simp, hc, fun id hid _ => .inl hid⟩
  | again old _ ih =>
    obtain ⟨done, hsub, hdone, hrules⟩ := ih (hc.again old)
    obtain ⟨hseen, hwork⟩ := List.append_subset.1 hsub
    exact ⟨done, List.append_subset.2 ⟨hseen, List.cons_subset.2 ⟨hseen old, hwork⟩⟩, hdone, hrules⟩
  | @opened id patterns _ _ _ _ isContainer _ ih =>
    obtain ⟨done, hsub, hdone, hrules⟩ := ih (hc.see fun inner hinner => by
      cases isContainer.symm.trans hinner
      exact List.Subset.refl _)
    obtain ⟨hseen, hwork⟩ := List.append_subset.1 hsub
    obtain ⟨hid, hseen⟩ := List.cons_subset.1 hseen
    refine ⟨done, ?_, hdone, fun other hother isRule => ?_⟩
    · exact List.append_subset.2 ⟨hseen, List.cons_subset.2 ⟨hid, (List.append_subset.1 hwork).2⟩⟩
    · refine (hrules other hother isRule).imp_left fun hm => ?_
      exact List.mem_of_ne_of_mem (fun heq => isRule patterns (heq ▸ isContainer)) hm
  | @tried id work seen _ _ isRule _ ih =>
    have hsee : Covered rules (id :: seen) ([] ++ work) :=
      hc.see fun inner hinner => absurd hinner (isRule inner)
    obtain ⟨done, hsub, hdone, hrules⟩ := ih hsee
    obtain ⟨hseen, hwork⟩ := List.append_subset.1 hsub
    obtain ⟨hid, hseen⟩ := List.cons_subset.1 hseen
    refine ⟨done, ?_, hdone, fun other hother hother' => ?_⟩
    · exact List.append_subset.2 ⟨hseen, List.cons_subset.2 ⟨hid, hwork⟩⟩
    · obtain hm | hm := hrules other hother hother'
      · obtain rfl | hm := List.mem_cons.1 hm
        · exact .inr List.mem_cons_self
        · exact .inl hm
      · exact .inr (List.mem_cons_of_mem _ hm)

theorem complete (h : Walk rules work seen tried) (hc : Covered rules seen work)
    (hid : Offers rules work id) : id ∈ seen ∨ id ∈ tried := by
  obtain ⟨done, hsub, hdone, hrules⟩ := h.closes hc
  refine hrules id (hid.mem_of_closed (fun container hm inner hinner => ?_) ?_) hid.isRule
  · exact List.append_nil done ▸ hdone container hm inner hinner
  · exact (List.append_subset.1 hsub).2

theorem split {first second : List Nat} (h : Walk rules (first ++ second) seen tried) :
    ∃ seen' before behind, tried = before ++ behind ∧ Walk rules first seen before ∧
      Walk rules second seen' behind := by
  generalize hwork : first ++ second = work at h
  induction h generalizing first with
  | nil seen =>
    obtain ⟨rfl, rfl⟩ := List.append_eq_nil_iff.1 hwork
    exact ⟨seen, [], [], rfl, .nil seen, .nil seen⟩
  | @again id work seen tried old rest ih =>
    obtain ⟨rfl, rfl⟩ | ⟨first, rfl, rfl⟩ := List.append_eq_cons_iff.1 hwork
    · exact ⟨seen, [], tried, rfl, .nil seen, .again old rest⟩
    · obtain ⟨seen', before, behind, rfl, hfirst, hsecond⟩ := ih rfl
      exact ⟨seen', before, behind, rfl, .again old hfirst, hsecond⟩
  | @opened id patterns work seen tried new isContainer rest ih =>
    obtain ⟨rfl, rfl⟩ | ⟨first, rfl, rfl⟩ := List.append_eq_cons_iff.1 hwork
    · exact ⟨seen, [], tried, rfl, .nil seen, .opened new isContainer rest⟩
    · obtain ⟨seen', before, behind, rfl, hfirst, hsecond⟩ := ih (List.append_assoc _ _ _)
      exact ⟨seen', before, behind, rfl, .opened new isContainer hfirst, hsecond⟩
  | @tried id work seen tried new isRule rest ih =>
    obtain ⟨rfl, rfl⟩ | ⟨first, rfl, rfl⟩ := List.append_eq_cons_iff.1 hwork
    · exact ⟨seen, [], id :: tried, rfl, .nil seen, .tried new isRule rest⟩
    · obtain ⟨seen', before, behind, rfl, hfirst, hsecond⟩ := ih rfl
      exact ⟨seen', id :: before, behind, rfl, .tried new isRule hfirst, hsecond⟩

end Walk

theorem triedInside_split {rules : Array Rule} {rule : Rule} {first second : List Nat}
    (h : rule.patterns = first ++ second) :
    ∃ before behind, triedInside rules rule = before ++ behind ∧
      (∀ id, id ∈ before ↔ Offers rules first id) ∧ ∀ id ∈ behind, ¬Offers rules first id := by
  have hwalk := triedInside_walk rules rule
  obtain ⟨hnodup, -⟩ := hwalk.fresh
  rw [h] at hwalk
  obtain ⟨seen, before, behind, htried, hfirst, -⟩ := hwalk.split
  have hbefore : ∀ id, id ∈ before ↔ Offers rules first id := by
    refine fun id => ⟨hfirst.sound id, fun hid => ?_⟩
    exact (hfirst.complete nofun hid).resolve_left List.not_mem_nil
  refine ⟨before, behind, htried, hbefore, fun id hid ho => ?_⟩
  rw [htried] at hnodup
  exact List.disjoint_of_nodup_append hnodup ((hbefore id).2 ho) hid

/-- Inside a rule of a compiled grammar each rule is tried that its patterns lead to through
containers, and none twice; what the first few patterns lead to goes before all that they do not
lead to. -/
theorem candidates_ranked {engine : Engine} {library : Library} {file : String} {g : Grammar}
    {asked : List String} (h : Grammar.compile engine library file = (.ok g, asked)) (id : Nat) :
    (g.candidatesOf id).Nodup ∧
      (∀ rule, rule ∈ g.candidatesOf id ↔ Offers g.rules (g.rule id).patterns rule) ∧
      ∀ count, ∃ before behind, g.candidatesOf id = before ++ behind ∧
        (∀ rule ∈ before, Offers g.rules ((g.rule id).patterns.take count) rule) ∧
        ∀ rule ∈ behind, ¬Offers g.rules ((g.rule id).patterns.take count) rule := by
  rw [candidatesOf_of_compile h]
  have hwalk := triedInside_walk g.rules (g.rule id)
  refine ⟨hwalk.fresh.1, fun rule => ⟨hwalk.sound rule, fun ho => ?_⟩, fun count => ?_⟩
  · exact (hwalk.complete nofun ho).resolve_left List.not_mem_nil
  · obtain ⟨before, behind, htried, hbefore, hbehind⟩ :=
      triedInside_split (List.take_append_drop count (g.rule id).patterns).symm
    exact ⟨before, behind, htried, fun rule hrule => (hbefore rule).1 hrule, hbehind⟩

theorem candidates_ranked_ring :
    Grammar.compile Sample.engine Sample.ringFile "source.r" = (.ok Sample.ring, []) ∧
      (∀ rule, rule ∈ [3, 4, 5] ↔ Offers Sample.ring.rules [1, 5] rule) ∧
      ∃ before behind, [3, 4, 5] = before ++ behind ∧
        (∀ rule ∈ before, Offers Sample.ring.rules [1] rule) ∧
        ∀ rule ∈ behind, ¬Offers Sample.ring.rules [1] rule := by
  have hcompile : Grammar.compile Sample.engine Sample.ringFile "source.r" =
      (.ok Sample.ring, []) := by cbv
  obtain ⟨-, hoffered, hranked⟩ := candidates_ranked hcompile 0
  exact ⟨hcompile, hoffered, hranked 1⟩

end Highlighting.Compile
