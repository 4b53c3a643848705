import Highlighting.Proofs.Grammar.Compiled
import Mathlib.Algebra.BigOperators.Fin

/-!
The rules that are tried inside a rule, as a walk over its patterns. The fuel never runs out, and
what holds nothing can be struck from the patterns.
-/
namespace Highlighting.Compile

def ruleAt (rules : Array Rule) (id : Nat) : Rule := (rules[id]?).getD default

/-- Work is done from its head on: what has been seen is passed over, a container is opened, and any
other rule is tried. -/
inductive Walk (rules : Array Rule) : (work seen tried : List Nat) → Prop
  | nil (seen : List Nat) : Walk rules [] seen []
  | again {id : Nat} {work seen tried : List Nat} (old : id ∈ seen)
      (rest : Walk rules work seen tried) : Walk rules (id :: work) seen tried
  | opened {id : Nat} {patterns work seen tried : List Nat} (new : id ∉ seen)
      (isContainer : ruleAt rules id = .container patterns)
      (rest : Walk rules (patterns ++ work) (id :: seen) tried) :
      Walk rules (id :: work) seen tried
  | tried {id : Nat} {work seen tried : List Nat} (new : id ∉ seen)
      (isRule : ∀ patterns, ruleAt rules id ≠ .container patterns)
      (rest : Walk rules work (id :: seen) tried) : Walk rules (id :: work) seen (id :: tried)

theorem Walk.unique {rules : Array Rule} {work seen out out' : List Nat}
    (h : Walk rules work seen out) (h' : Walk rules work seen out') : out = out' := by
  induction h generalizing out' with
  | nil =>
    cases h'
    rfl
  | again old _ ih =>
    cases h' with
    | again _ rest => exact ih rest
    | opened new => exact absurd old new
    | tried new => exact absurd old new
  | opened new isContainer _ ih =>
    cases h' with
    | again old => exact absurd old new
    | opened _ isContainer' rest =>
      cases isContainer.symm.trans isContainer'
      exact ih rest
    | tried _ isRule => exact absurd isContainer (isRule _)
  | tried new isRule _ ih =>
    cases h' with
    | again old => exact absurd old new
    | opened _ isContainer => exact absurd isContainer (isRule _)
    | tried _ _ rest => rw [ih rest]

/-- How many patterns are in rules that have not been seen. -/
def unseen (rules : Array Rule) (seen : List Nat) : Nat :=
  ∑ id ∈ Finset.range rules.size \ seen.toFinset, (ruleAt rules id).patterns.length

theorem unseen_cons {rules : Array Rule} {seen : List Nat} {id : Nat} (new : id ∉ seen) :
    (ruleAt rules id).patterns.length + unseen rules (id :: seen) = unseen rules seen := by
  unfold unseen
  rw [List.toFinset_cons, Finset.sdiff_insert]
  by_cases hid : id < rules.size
  · exact Finset.add_sum_erase _ (fun id => (ruleAt rules id).patterns.length) (by simp [hid, new])
  · have hempty : ruleAt rules id = .container [] := by
      rw [ruleAt, Array.getElem?_eq_none (Nat.le_of_not_lt hid)]
      rfl
    rw [hempty, Finset.erase_eq_of_notMem (by simp [hid])]
    exact Nat.zero_add _

theorem unseen_nil (rules : Array Rule) :
    unseen rules [] = rules.toList.foldr (fun r count => r.patterns.length + count) 0 := by
  have hrule : ∀ i : Fin rules.size, ruleAt rules i = rules[i] := fun i => by
    rw [ruleAt, Array.getElem?_eq_getElem i.isLt]
    rfl
  calc unseen rules []
    _ = ∑ i : Fin rules.size, (ruleAt rules i).patterns.length := by
      simp [unseen, Finset.sum_range]
    _ = ∑ i : Fin rules.size, rules[i].patterns.length :=
      Finset.sum_congr rfl fun i _ => by rw [hrule i]
    _ = (rules.toList.map fun r => r.patterns.length).sum :=
      Fin.sum_univ_fun_getElem rules.toList fun r => r.patterns.length
    _ = _ := by rw [List.sum_eq_foldr, List.foldr_map]

theorem flatten_walk {rules : Array Rule} {fuel : Nat} {work seen : List Nat}
    (h : work.length + unseen rules seen ≤ fuel) :
    Walk rules work seen (flatten rules fuel work seen) := by
  induction fuel generalizing work seen with
  | zero =>
    cases work with
    | nil => exact .nil seen
    | cons id work => rw [List.length_cons] at h; omega
  | succ fuel ih =>
    cases work with
    | nil => exact .nil seen
    | cons id work =>
      rw [List.length_cons] at h
      rw [flatten]
      split
      · next hseen => exact .again (List.contains_iff_mem.1 hseen) (ih (by omega))
      · next hseen =>
        have hnew : id ∉ seen := fun hm => hseen (List.contains_iff_mem.2 hm)
        -- the patterns that come to the work no longer count as unseen
        have hcount : _ + unseen rules _ = unseen rules seen := unseen_cons hnew
        split
        · next patterns hc =>
          refine .opened hnew hc (ih ?_)
          rw [ruleAt, hc, Rule.patterns] at hcount
          rw [List.length_append]
          omega
        · next hc => exact .tried hnew hc (ih (by omega))

theorem triedInside_walk (rules : Array Rule) (rule : Rule) :
    Walk rules rule.patterns [] (triedInside rules rule) := by
  refine flatten_walk ?_
  rw [unseen_nil]
  omega

theorem candidatesOf_of_compile {engine : Engine} {library : Library} {file : String} {g : Grammar}
    {asked : List String} (h : Grammar.compile engine library file = (.ok g, asked)) (id : Nat) :
    g.candidatesOf id = triedInside g.rules (g.rule id) := by
  obtain ⟨-, -, hcandidates⟩ := ends_of_compile h
  rw [Grammar.candidatesOf, hcandidates, Array.getElem?_map, Grammar.rule]
  cases g.rules[id]? with
  | some rule => rfl
  | none => exact ((triedInside_walk g.rules (.container [])).unique (.nil [])).symm

inductive Struck (rules : Array Rule) : List Nat → List Nat → Prop
  | nil : Struck rules [] []
  | keep (id : Nat) {ids ids' : List Nat} (rest : Struck rules ids ids') :
      Struck rules (id :: ids) (id :: ids')
  | strike {id : Nat} {ids ids' : List Nat} (hollow : ruleAt rules id = .container [])
      (rest : Struck rules ids ids') : Struck rules (id :: ids) ids'

theorem Struck.append_left {rules : Array Rule} {ids ids' : List Nat} (h : Struck rules ids ids')
    (before : List Nat) : Struck rules (before ++ ids) (before ++ ids') := by
  induction before with
  | nil => exact h
  | cons id before ih => exact .keep id ih

/-- Two lists of seen rules have the same in them, but for what holds nothing. -/
def Alike (rules : Array Rule) (seen seen' : List Nat) : Prop :=
  ∀ id, ruleAt rules id ≠ .container [] → (id ∈ seen ↔ id ∈ seen')

theorem Alike.trans {rules : Array Rule} {seen seen' seen'' : List Nat}
    (h : Alike rules seen seen') (h' : Alike rules seen' seen'') : Alike rules seen seen'' :=
  fun id hid => (h id hid).trans (h' id hid)

theorem Alike.symm {rules : Array Rule} {seen seen' : List Nat} (h : Alike rules seen seen') :
    Alike rules seen' seen :=
  fun id hid => (h id hid).symm

theorem Alike.cons {rules : Array Rule} {seen seen' : List Nat} (h : Alike rules seen seen')
    (id : Nat) : Alike rules (id :: seen) (id :: seen') := fun id' hid' => by
  rw [List.mem_cons, List.mem_cons, h id' hid']

theorem alike_cons {rules : Array Rule} {id : Nat} (hollow : ruleAt rules id = .container [])
    (seen : List Nat) : Alike rules seen (id :: seen) := by
  intro id' hid'
  rw [List.mem_cons, or_iff_right]
  rintro rfl
  exact hid' hollow

theorem Walk.pass {rules : Array Rule} {id : Nat} {work seen out : List Nat}
    (hollow : ruleAt rules id = .container [])
    (h : ∀ seen', Alike rules seen seen' → Walk rules work seen' out) :
    Walk rules (id :: work) seen out := by
  by_cases hm : id ∈ seen
  · exact .again hm (h seen fun _ _ => Iff.rfl)
  · exact .opened hm hollow (h (id :: seen) (alike_cons hollow seen))

theorem Walk.strike {rules : Array Rule} {work work' seen seen' out : List Nat}
    (h : Walk rules work seen out) (hs : Struck rules work work')
    (hseen : Alike rules seen seen') : Walk rules work' seen' out := by
  induction h generalizing work' seen' with
  | nil =>
    cases hs
    exact .nil seen'
  | @again id work seen out old rest ih =>
    cases hs with
    | strike _ hrest => exact ih hrest hseen
    | keep _ hrest =>
      by_cases hollow : ruleAt rules id = .container []
      · exact .pass hollow fun _ h => ih hrest (hseen.trans h)
      · exact .again ((hseen id hollow).1 old) (ih hrest hseen)
  | @opened id patterns work seen out new isContainer rest ih =>
    by_cases hollow : ruleAt rules id = .container []
    · -- the walk goes on as it would have without the head, which is now seen in one of the lists
      cases isContainer.symm.trans hollow
      have hopened := (alike_cons hollow seen).symm.trans hseen
      cases hs with
      | strike _ hrest => exact ih hrest hopened
      | keep _ hrest => exact .pass hollow fun _ h => ih hrest (hopened.trans h)
    · cases hs with
      | strike hollow' => exact absurd hollow' hollow
      | keep _ hrest =>
        exact .opened (fun hm => new ((hseen id hollow).2 hm)) isContainer
          (ih (hrest.append_left patterns) (hseen.cons id))
  | @tried id work seen out new isRule rest ih =>
    cases hs with
    | strike hollow => exact absurd hollow (isRule [])
    | keep _ hrest =>
      exact .tried (fun hm => new ((hseen id (isRule [])).2 hm)) isRule
        (ih hrest (hseen.cons id))

theorem triedInside_struck {rules : Array Rule} {rule rule' : Rule}
    (h : Struck rules rule.patterns rule'.patterns) :
    triedInside rules rule = triedInside rules rule' :=
  ((triedInside_walk rules rule).strike h fun _ _ => Iff.rfl).unique (triedInside_walk rules rule')

end Highlighting.Compile
