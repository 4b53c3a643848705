import Highlighting.Proofs.Grammar.Candidates
import Highlighting.Proofs.Grammar.Fuel
import Highlighting.Proofs.Sample

/-! The arena of a compiled grammar: it is finite, and nothing in it refers to a place outside. -/
namespace Highlighting

/-- The arena of a grammar refers to nothing outside, and its patterns are those of its engine. -/
structure Grammar.Closed (g : Grammar) : Prop where
  root_lt : g.root < g.ruleCount
  root_container : ∃ patterns, g.rule g.root = .container patterns
  candidates_size : g.candidates.size = g.ruleCount
  candidatesOf_lt : ∀ id, ∀ place ∈ g.candidatesOf id, place < g.ruleCount
  fits : ∀ (id : Nat) (rule : Rule), g.rules[id]? = some rule → rule.Fits g.engine g.ruleCount

theorem Grammar.Closed.rule_fits {g : Grammar} (h : g.Closed) (id : Nat) :
    (g.rule id).Fits g.engine g.ruleCount := by
  unfold Grammar.rule
  cases hid : g.rules[id]? with
  | none => exact ⟨nofun, nofun⟩
  | some rule => exact h.fits id rule hid

namespace Compile
variable {engine : Engine} {library : Library} {start : String} {p p' : Progress}

theorem Walk.bounded {rules : Array Rule} {work seen tried : List Nat} {size : Nat}
    (h : Walk rules work seen tried)
    (hrules : ∀ id patterns, ruleAt rules id = .container patterns → ∀ place ∈ patterns,
      place < size)
    (hwork : ∀ id ∈ work, id < size) : ∀ id ∈ tried, id < size := by
  induction h with
  | nil => nofun
  | again _ _ ih => exact ih (List.forall_mem_cons.1 hwork).2
  | opened _ isContainer _ ih =>
    refine ih fun id hid => ?_
    obtain hid | hid := List.mem_append.1 hid
    · exact hrules _ _ isContainer id hid
    · exact hwork id (List.mem_cons_of_mem _ hid)
  | tried _ _ _ ih =>
    obtain ⟨hid, hrest⟩ := List.forall_mem_cons.1 hwork
    exact List.forall_mem_cons.2 ⟨hid, ih hrest⟩

def rulesIn (library : Library) (files : List String) : List Key :=
  files.dedup.flatMap fun file => (fileOf library file).numbers.dedup.map (.rule file)

def scopeNamesOf (library : Library) (files : List String) : List String :=
  (files.map fun file => (fileOf library file).scopeName).dedup

theorem Built.size_le (h : Built engine library start p) :
    p.rules.size ≤ (rulesIn library (start :: p.asked)).length +
      (scopeNamesOf library (start :: p.asked)).length := by
  obtain ⟨keys, hnodup, hlength, hkeys⟩ := h.tenants
  have hsub : keys ⊆ rulesIn library (start :: p.asked) ++
      (scopeNamesOf library (start :: p.asked)).map .root := by
    intro key hk
    have hof := (hkeys key hk).2
    cases key with
    | root scopeName =>
      obtain ⟨file, hfile, hname⟩ := hof
      exact List.mem_append_right _ (List.mem_map_of_mem
        (List.mem_dedup.2 (List.mem_map.2 ⟨file, hfile, hname⟩)))
    | rule file number =>
      exact List.mem_append_left _ (List.mem_flatMap.2 ⟨file, List.mem_dedup.2 hof.1,
        List.mem_map_of_mem (List.mem_dedup.2 hof.2)⟩)
  have hle := (hnodup.subperm hsub).length_le
  rwa [List.length_append, List.length_map, hlength] at hle

theorem target_targetCount (engine : Engine) (library : Library) (file : String) {fuel : Nat}
    (h : targetCount library ≤ fuel) :
    Agrees ⟨engine, library⟩ (target fuel (.root file)) (target (targetCount library) (.root file))
      {} fun id q => (Built engine library file q ∧ Later {} q) ∧ id < q.rules.size := by
  refine target_comes .start h (Nat.le_refl _) {} (built_empty engine library file)
    List.mem_cons_self ?_
  rw [← length_keys]
  exact List.countP_le_length

theorem asked_of_compile {engine : Engine} {file : String} {g : Grammar} {asked : List String}
    (h : Grammar.compile engine library file = (.ok g, asked)) :
    (progress engine library file).asked = asked := (Prod.mk.inj h).2

theorem Built.candidatesOf_lt (h : Built engine library start p) {g : Grammar}
    (hrules : g.rules = p.rules) (hcandidates : g.candidates = g.rules.map (triedInside g.rules))
    (id : Nat) : ∀ place ∈ g.candidatesOf id, place < g.ruleCount := by
  intro place hplace
  rw [Grammar.candidatesOf, hcandidates, Array.getElem?_map] at hplace
  cases hid : g.rules[id]? with
  | none =>
    rw [hid] at hplace
    cases hplace
  | some rule =>
    rw [hid] at hplace
    rw [Grammar.ruleCount, hrules]
    refine (triedInside_walk g.rules rule).bounded (fun id' patterns hc place hmem => ?_)
      (fun id' hmem => ?_) place hplace
    · unfold ruleAt at hc
      cases hid' : g.rules[id']? with
      | none =>
        rw [hid'] at hc
        cases hc
        cases hmem
      | some rule' =>
        rw [hid'] at hc
        obtain rfl : rule' = .container patterns := hc
        exact (h.closed id' (.container patterns) (hrules ▸ hid')).places_lt place hmem
    · exact (h.closed id rule (hrules ▸ hid)).places_lt id' (rule.patterns_subset_places hmem)

theorem closed_of_compile {engine : Engine} {library : Library} {file : String} {g : Grammar}
    {asked : List String} (h : Grammar.compile engine library file = (.ok g, asked)) :
    g.Closed ∧ g.engine = engine ∧
      Built engine library file (progress engine library file) := by
  obtain ⟨hends, hrules, hcandidates⟩ := ends_of_compile h
  obtain ⟨⟨hbuilt, -⟩, hroot⟩ :=
    (target_targetCount engine library file (Nat.le_refl _)).result _ _ hends
  have hengine := (made_of_compile h).2
  refine ⟨⟨?_, ?_, ?_, ?_, ?_⟩, hengine, hbuilt⟩
  · rw [Grammar.ruleCount, hrules]
    exact hroot
  · obtain ⟨-, hat, hsettled⟩ := compile_settled h
    obtain ⟨t, ht, hs⟩ := hsettled _ _ hat
    have hrenders := (hs.rule h).1
    cases t with
    | root name =>
      cases hr : g.rule g.root with
      | container patterns => exact ⟨patterns, rfl⟩
      | _ => rw [hr] at hrenders; cases hrenders
    | rule context number => cases ht
  · rw [hcandidates, Array.size_map, Grammar.ruleCount]
  · exact hbuilt.candidatesOf_lt hrules hcandidates
  · rw [hengine, Grammar.ruleCount, hrules]
    exact hbuilt.closed

/-- Whatever circles the files of a library go in, a compile and the listing of what is tried come
to an end: with more fuel they do the same. If it ends well, there is no more than one place for
each rule of the files that were asked for and for each scope name that these state, and all that is
referred to is in the arena. -/
theorem arena_closed (engine : Engine) (library : Library) (file : String) :
    (∀ fuel, targetCount library ≤ fuel →
      ((target fuel (.root file)).run ⟨engine, library⟩).run.run {} =
        ((target (targetCount library) (.root file)).run ⟨engine, library⟩).run.run {}) ∧
    (∀ (rules : Array Rule) (rule : Rule) (fuel : Nat),
      rules.toList.foldr (fun r count => r.patterns.length + count) 0 + rule.patterns.length ≤
        fuel → flatten rules fuel rule.patterns [] = triedInside rules rule) ∧
    ∀ (g : Grammar) (asked : List String),
      Grammar.compile engine library file = (.ok g, asked) →
      g.ruleCount ≤ (rulesIn library (file :: asked)).length +
        (scopeNamesOf library (file :: asked)).length ∧
      g.root < g.ruleCount ∧ g.candidates.size = g.ruleCount ∧
      (∀ (id : Nat) (rule : Rule), g.rules[id]? = some rule →
        ∀ place ∈ rule.places, place < g.ruleCount) ∧
      ∀ id, ∀ place ∈ g.candidatesOf id, place < g.ruleCount := by
  refine ⟨fun fuel h => (target_targetCount engine library file h).same, ?_, ?_⟩
  · intro rules rule fuel hfuel
    refine Walk.unique (flatten_walk ?_) (triedInside_walk rules rule)
    rw [unseen_nil]
    omega
  · intro g asked h
    obtain ⟨hclosed, -, hbuilt⟩ := closed_of_compile h
    have hcount := hbuilt.size_le
    rw [asked_of_compile h, ← (ends_of_compile h).2.1] at hcount
    exact ⟨hcount, hclosed.root_lt, hclosed.candidates_size,
      fun id rule hrule => (hclosed.fits id rule hrule).places_lt, hclosed.candidatesOf_lt⟩

theorem arena_closed_circular :
    ∃ g, Grammar.compile Sample.engine Sample.circular "source.a" =
        (.ok g, ["source.b", "source.a", "source.b"]) ∧
      g.ruleCount = 6 ∧
      g.ruleCount ≤
        (rulesIn Sample.circular ["source.a", "source.b", "source.a", "source.b"]).length +
        (scopeNamesOf Sample.circular ["source.a", "source.b", "source.a", "source.b"]).length ∧
      g.root < g.ruleCount ∧ ∀ id, ∀ place ∈ g.candidatesOf id, place < g.ruleCount := by
  have hcount : (Grammar.compile Sample.engine Sample.circular "source.a").1.toOption.map
      Grammar.ruleCount = some 6 := by decide +kernel
  have hasked : (Grammar.compile Sample.engine Sample.circular "source.a").2 =
      ["source.b", "source.a", "source.b"] := by decide +kernel
  rcases hg : Grammar.compile Sample.engine Sample.circular "source.a" with ⟨_ | g, asked⟩ <;>
    rw [hg] at hcount hasked
  · cases hcount
  · obtain rfl : asked = _ := hasked
    obtain ⟨hle, hroot, -, -, hcandidates⟩ :=
      (arena_closed Sample.engine Sample.circular "source.a").2.2 g _ hg
    exact ⟨g, rfl, Option.some.inj hcount, hle, hroot, hcandidates⟩

end Compile

end Highlighting
