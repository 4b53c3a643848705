import Highlighting.Proofs.Grammar.Arena
import Highlighting.Proofs.Grammar.Moved
import Highlighting.Proofs.Grammar.Steady
import Highlighting.Proofs.Grammar.Succeeds
import Highlighting.Proofs.Sample

/-!
The order in which the captures of a rule are visited while a grammar is compiled, and when it shows
in tokens.
-/
namespace Highlighting.Compile

/-- No two captures of a rule belong to one group. -/
def Parted (library : Library) (start : String) : Prop :=
  ∀ t, Reached library start t → ∀ names ∈ t.captures library, names.Apart

theorem Parted.reordered {library library' : Library} {start : String}
    (h : library.Reordered library') (hp : Parted library start) : Parted library' start := by
  intro t ht names hnames
  cases t with
  | root file => cases hnames
  | rule context number =>
    obtain ⟨field, hfield, rfl⟩ := List.mem_filterMap.1 hnames
    obtain ⟨names', hfield', hperm⟩ := (ruleOf_reordered h _ _).symm.captureFields hfield
    exact (hp _ (ht.reordered h.symm) names'
      (List.mem_filterMap.2 ⟨_, hfield', rfl⟩)).perm hperm.symm

section Candidates
variable {rules rules' : Array Rule} {σ : Nat → Nat}

theorem Walk.relabel (hσ : Function.Injective σ)
    (hrules : ∀ id, ruleAt rules' (σ id) = (ruleAt rules id).relabel σ) {work seen tried : List Nat}
    (h : Walk rules work seen tried) :
    Walk rules' (work.map σ) (seen.map σ) (tried.map σ) := by
  have hnew : ∀ {id : Nat} {seen : List Nat}, id ∉ seen → σ id ∉ seen.map σ := fun hid hm =>
    hid ((List.mem_map_of_injective hσ).1 hm)
  induction h with
  | nil seen => exact .nil _
  | again old _ ih => exact .again (List.mem_map_of_mem old) ih
  | @opened id patterns work seen tried new isContainer _ ih =>
    rw [List.map_append] at ih
    refine .opened (hnew new) ?_ ih
    rw [hrules, isContainer]
    rfl
  | @tried id work seen tried new isRule _ ih =>
    refine .tried (hnew new) (fun patterns hpatterns => ?_) ih
    rw [hrules] at hpatterns
    cases hr : ruleAt rules id with
    | container inner => exact isRule inner hr
    | _ => rw [hr] at hpatterns; cases hpatterns

theorem triedInside_relabel (hσ : Function.Injective σ)
    (hrules : ∀ id, ruleAt rules' (σ id) = (ruleAt rules id).relabel σ) (rule : Rule) :
    triedInside rules' (rule.relabel σ) = (triedInside rules rule).map σ := by
  have hpatterns : (rule.relabel σ).patterns = rule.patterns.map σ := by cases rule <;> rfl
  have hwalk := (triedInside_walk rules rule).relabel hσ hrules
  rw [← hpatterns] at hwalk
  exact (triedInside_walk rules' _).unique hwalk

end Candidates

section Places
variable {engine : Engine} {library : Library} {start : String} {p q : Progress}

theorem Built.places (h : Built engine library start p) (hq : q.Sound)
    (hplaced : ∀ key, (p.at? key).isSome = true → (q.at? key).isSome = true) :
    ∃ ids : List Nat, ids.Nodup ∧ ids.length = p.rules.size ∧
      ∀ id ∈ ids, ∃ key, q.at? key = some id := by
  obtain ⟨keys, hnodup, hlength, hkeys⟩ := h.tenants
  have hat : ∀ key ∈ keys, q.at? key = some ((q.at? key).getD 0) := by
    intro key hkey
    obtain ⟨id, hid⟩ := Option.isSome_iff_exists.1 (hplaced key (hkeys key hkey).1)
    rw [hid]
    rfl
  refine ⟨keys.map fun key => (q.at? key).getD 0, ?_, ?_, ?_⟩
  · refine hnodup.map_on fun key hkey key' hkey' heq => ?_
    exact hq.unique key key' _ (hat key hkey) (heq ▸ hat key' hkey')
  · rw [List.length_map, hlength]
  · intro id hid
    obtain ⟨key, hkey, rfl⟩ := List.mem_map.1 hid
    exact ⟨key, hat key hkey⟩

theorem Built.size_le_of_placed (h : Built engine library start p) (hq : q.Sound)
    (hplaced : ∀ key, (p.at? key).isSome = true → (q.at? key).isSome = true) :
    p.rules.size ≤ q.rules.size := by
  obtain ⟨ids, hnodup, hlength, hids⟩ := h.places hq hplaced
  have hsub : ids ⊆ List.range q.rules.size := fun id hid => by
    obtain ⟨key, hkey⟩ := hids id hid
    exact List.mem_range.2 (hq.bound key id hkey)
  have hle := (hnodup.subperm hsub).length_le
  rwa [List.length_range, hlength] at hle

theorem Built.exists_key (h : Built engine library start p) (hp : p.Sound) {id : Nat}
    (hid : id < p.rules.size) : ∃ key, p.at? key = some id := by
  obtain ⟨ids, hnodup, hlength, hids⟩ := h.places hp fun _ h => h
  have hsub : ids ⊆ List.range p.rules.size := fun id hid => by
    obtain ⟨key, hkey⟩ := hids id hid
    exact List.mem_range.2 (hp.bound key id hkey)
  have hperm := (hnodup.subperm hsub).perm_of_length_le (by rw [List.length_range, hlength])
  exact hids id (hperm.mem_iff.2 (List.mem_range.2 hid))

theorem Built.exists_moves {library' : Library} (h : Built engine library start p)
    (h' : Built engine library' start q) (hp : p.Sound) (hq : q.Sound)
    (hforth : ∀ key, (p.at? key).isSome = true → (q.at? key).isSome = true)
    (hback : ∀ key, (q.at? key).isSome = true → (p.at? key).isSome = true) :
    p.rules.size = q.rules.size ∧ ∃ σ : Nat → Nat, Function.Injective σ ∧
      (∀ key id, p.at? key = some id → q.at? key = some (σ id)) ∧
      ∀ id, ¬id < p.rules.size → σ id = id := by
  have hsize : p.rules.size = q.rules.size :=
    Nat.le_antisymm (h.size_le_of_placed hq hforth) (h'.size_le_of_placed hp hback)
  have hplaces : ∀ id, ∃ id', (∀ key, p.at? key = some id → q.at? key = some id') ∧
      (¬id < p.rules.size → id' = id) := by
    intro id
    by_cases hid : id < p.rules.size
    · obtain ⟨key, hkey⟩ := h.exists_key hp hid
      obtain ⟨id', hid'⟩ := Option.isSome_iff_exists.1 (hforth key (hkey ▸ rfl))
      exact ⟨id', fun key' hkey' => hp.unique _ _ _ hkey hkey' ▸ hid', fun hn => absurd hid hn⟩
    · exact ⟨id, fun key hkey => absurd (hp.bound key id hkey) hid, fun _ => rfl⟩
  choose σ hmoved hstay using hplaces
  refine ⟨hsize, σ, fun id id' heq => ?_, fun key id => hmoved id key, hstay⟩
  have hbound : ∀ id, id < p.rules.size → σ id < p.rules.size := by
    intro id hid
    obtain ⟨key, hkey⟩ := h.exists_key hp hid
    exact hsize ▸ hq.bound key _ (hmoved id key hkey)
  by_cases hid : id < p.rules.size <;> by_cases hid' : id' < p.rules.size
  · obtain ⟨key, hkey⟩ := h.exists_key hp hid
    obtain ⟨key', hkey'⟩ := h.exists_key hp hid'
    obtain rfl := hq.unique _ _ _ (hmoved id key hkey) (heq ▸ hmoved id' key' hkey')
    exact Option.some.inj (hkey.symm.trans hkey')
  · rw [hstay id' hid'] at heq
    exact absurd (heq ▸ hbound id hid) hid'
  · rw [hstay id hid] at heq
    exact absurd (heq ▸ hbound id' hid') hid
  · rwa [hstay id hid, hstay id' hid'] at heq

end Places

section
variable {engine : Engine} {library library' : Library} {file : String} {g g' : Grammar}
  {asked asked' : List String}

theorem compile_of_ends {root : Nat} {p : Progress}
    (h : Ends ⟨engine, library⟩ (target (targetCount library) (.root file)) {} root p) :
    progress engine library file = p ∧
      ∃ g, Grammar.compile engine library file = (.ok g, p.asked) := by
  unfold progress Grammar.compile
  unfold Ends at h
  rw [h]
  exact ⟨rfl, _, rfl⟩

theorem rendered_of_placed (hc : Grammar.compile engine library file = (.ok g, asked))
    (hsteady : Steady library file) {t : Target} (ht : Reached library file t) {id : Nat}
    (hid : (progress engine library file).at? (t.key library) = some id) :
    (progress engine library file).Holds library t ∧
      (progress engine library file).Rendered engine library t (g.rule id) := by
  obtain ⟨-, -, hsettled⟩ := compile_settled hc
  obtain ⟨u, hkey, hreached, hholds, rule, hrule, hrendered⟩ := hsettled _ _ hid
  have hleads := hsteady u t hreached ht hkey
  have hg : g.rule id = rule := by
    rw [Grammar.rule, (ends_of_compile hc).2.1, hrule]
    rfl
  refine ⟨Progress.holds_iff_leads.2 fun key hlead => ?_, hg ▸ hrendered.of_key hkey hleads⟩
  exact Progress.holds_iff_leads.1 hholds key (hleads ▸ hlead)

theorem compile_reordered (h : library.Reordered library') (hsteady : Steady library file)
    (hparted : Parted library file) (hc : Grammar.compile engine library file = (.ok g, asked)) :
    (∃ g' asked', Grammar.compile engine library' file = (.ok g', asked')) ∧
      ∀ key, ((progress engine library' file).at? key).isSome = true →
        ((progress engine library file).at? key).isSome = true := by
  obtain ⟨hsound, hroot, -⟩ := compile_settled hc
  have hstay : (progress engine library file).Moves id (progress engine library file) :=
    ⟨fun _ _ h => h, fun _ h => h⟩
  have hrendered : ∀ t, Reached library' file t →
      ((progress engine library file).at? (t.key library')).isSome = true →
      (progress engine library file).Holds library' t ∧
        ∃ r, (progress engine library file).Rendered engine library' t r := by
    intro t ht hplaced
    have hreached := ht.reordered h.symm
    rw [t.key_reordered h] at hplaced
    obtain ⟨id, hid⟩ := Option.isSome_iff_exists.1 hplaced
    obtain ⟨hholds, hr⟩ := rendered_of_placed hc hsteady hreached hid
    refine ⟨?_, _, hstay.rendered hsound h hholds (hparted t hreached) hr⟩
    rw [Progress.holds_iff_leads, t.leads_reordered h]
    exact Progress.holds_iff_leads.1 hholds
  have hstart : ((progress engine library file).at?
      ((Target.root file).key library')).isSome = true := by
    rw [Target.key_reordered h, hroot]
    rfl
  obtain ⟨root, p, hends, -, hkeys⟩ :=
    target_succeeds hrendered (targetCount library') (.root file) .start hstart {}
  obtain ⟨rfl, g', hg'⟩ := compile_of_ends hends
  refine ⟨⟨g', _, hg'⟩, fun key hkey => (hkeys key hkey).resolve_left fun hnone => ?_⟩
  cases key <;> cases hnone

theorem relabels_of_compile (h : library.Reordered library') (hsteady : Steady library file)
    (hparted : Parted library file) (hc : Grammar.compile engine library file = (.ok g, asked))
    (hc' : Grammar.compile engine library' file = (.ok g', asked')) : g.Resembles g' := by
  obtain ⟨hsound, hroot, hsettled⟩ := compile_settled hc
  obtain ⟨hsound', hroot', -⟩ := compile_settled hc'
  have hbuilt := (closed_of_compile hc).2.2
  have hback := (compile_reordered h hsteady hparted hc).2
  have hforth := (compile_reordered h.symm (hsteady.reordered h) (hparted.reordered h) hc').2
  have hrules := (ends_of_compile hc).2.1
  have hrules' := (ends_of_compile hc').2.1
  obtain ⟨hsize, σ, hinjective, hplace, hstay⟩ :=
    hbuilt.exists_moves (closed_of_compile hc').2.2 hsound hsound' hforth hback
  have hrootMoves : σ g.root = g'.root := by
    have hmoved := hplace _ _ hroot
    rw [← Target.key_reordered h, hroot'] at hmoved
    exact (Option.some.inj hmoved).symm
  have hmoves : (progress engine library file).Moves σ (progress engine library' file) := by
    refine ⟨hplace, fun id hid => ?_⟩
    have hbase := (compile_grows hc).2.2
    obtain rfl : g.root = id := Option.some.inj (hbase.symm.trans hid)
    rw [(compile_grows hc').2.2, hrootMoves]
  have hrule : ∀ id, g'.rule (σ id) = (g.rule id).relabel σ := by
    intro id
    by_cases hid : id < (progress engine library file).rules.size
    · obtain ⟨key, hkey⟩ := hbuilt.exists_key hsound hid
      obtain ⟨t, rfl, hreached, -⟩ := hsettled key id hkey
      have hmoved := hplace _ id hkey
      rw [← t.key_reordered h] at hmoved
      obtain ⟨hholds, hr⟩ := rendered_of_placed hc hsteady hreached hkey
      have hr' := (rendered_of_placed hc' (hsteady.reordered h) (hreached.reordered h) hmoved).2
      exact hr'.unique (hmoves.rendered hsound h hholds (hparted t hreached) hr)
    · have hnone : g.rules[id]? = none := by
        rw [hrules]
        exact Array.getElem?_eq_none (Nat.le_of_not_lt hid)
      have hnone' : g'.rules[σ id]? = none := by
        rw [hstay id hid, hrules']
        exact Array.getElem?_eq_none (hsize ▸ Nat.le_of_not_lt hid)
      rw [Grammar.rule, Grammar.rule, hnone, hnone']
      rfl
  refine ⟨by rw [Grammar.ruleCount, Grammar.ruleCount, hrules, hrules', hsize], σ, hinjective, ?_,
    hrootMoves.symm, ?_, hrule, fun id => ?_⟩
  · rw [(made_of_compile hc).1, (made_of_compile hc').1, scopeName_reordered h]
  · rw [(made_of_compile hc).2, (made_of_compile hc').2]
  · rw [candidatesOf_of_compile hc, candidatesOf_of_compile hc', hrule]
    exact triedInside_relabel hinjective hrule _

variable (engine) in
/-- With captures in another order, a grammar still cannot be compiled or still can, to the same
rules. -/
theorem compile_resembles (h : library.Reordered library') (hsteady : Steady library file)
    (hparted : Parted library file) :
    (∃ fault fault' asked asked', Grammar.compile engine library file = (.error fault, asked) ∧
      Grammar.compile engine library' file = (.error fault', asked')) ∨
    ∃ g g' asked asked', Grammar.compile engine library file = (.ok g, asked) ∧
      Grammar.compile engine library' file = (.ok g', asked') ∧ g.Resembles g' := by
  rcases hc : Grammar.compile engine library file with ⟨fault | g, asked⟩ <;>
    rcases hc' : Grammar.compile engine library' file with ⟨fault' | g', asked'⟩
  · exact .inl ⟨fault, fault', asked, asked', rfl, rfl⟩
  · obtain ⟨⟨_, _, hok⟩, -⟩ :=
      compile_reordered h.symm (hsteady.reordered h) (hparted.reordered h) hc'
    rw [hc] at hok
    cases hok
  · obtain ⟨⟨_, _, hok⟩, -⟩ := compile_reordered h hsteady hparted hc
    rw [hc'] at hok
    cases hok
  · exact .inr ⟨g, g', asked, asked', rfl, rfl, relabels_of_compile h hsteady hparted hc hc'⟩

/-- In whatever order captures are visited, a grammar can be compiled or cannot, and what comes of
it has as many rules and gives the same tokens. -/
theorem captures_in_any_order (engine : Engine) {library library' : Library} (file : String)
    (h : library.Reordered library') (hsteady : Steady library file)
    (hparted : Parted library file) :
    (∃ fault fault' asked asked', Grammar.compile engine library file = (.error fault, asked) ∧
      Grammar.compile engine library' file = (.error fault', asked')) ∨
    ∃ g g' asked asked', Grammar.compile engine library file = (.ok g, asked) ∧
      Grammar.compile engine library' file = (.ok g', asked') ∧ g.ruleCount = g'.ruleCount ∧
      ∀ (first : Nat) (lines : List String) (cache : PatternCache),
        (g.scanLines first (.initial g) lines cache).map Prod.fst =
          (g'.scanLines first (.initial g') lines cache).map Prod.fst := by
  obtain hfault | ⟨g, g', asked, asked', hg, hg', hresembles⟩ :=
    compile_resembles engine h hsteady hparted
  · exact .inl hfault
  · exact .inr ⟨g, g', asked, asked', hg, hg', hresembles.ruleCount_eq, hresembles.scanLines_fst⟩

end

theorem sharing_reordered (own : Option RuleNames) {captures captures' : RuleNames}
    (h : captures.Perm captures') :
    (Sample.sharing own captures).Reordered (Sample.sharing own captures') :=
  Library.reordered_single _ (GrammarSource.reordered_of_forall₂
    (.cons ⟨.some h, .none, .none, .none, rfl⟩ (List.forall₂_same.2 fun r _ => .refl r)))

theorem apart_pair {name name' : String} (number number' : Nat)
    (h : Words.count? name ≠ Words.count? name') :
    RuleNames.Apart [(name, number), (name', number')] := by
  intro entry he entry' he' group hgroup hgroup'
  simp only [List.mem_cons, List.not_mem_nil, or_false] at he he'
  obtain rfl | rfl := he <;> obtain rfl | rfl := he'
  · rfl
  · exact absurd (hgroup.trans hgroup'.symm) h
  · exact absurd (hgroup'.trans hgroup.symm) h
  · rfl

theorem parted_single {file : String} {source : GrammarSource}
    (h : ∀ r ∈ source.rules.toList, ∀ names, some names ∈ Target.captureFields r → names.Apart) :
    Parted [(file, source)] file := by
  intro t hreached names hnames
  cases t with
  | root file => cases hnames
  | rule context number =>
    obtain ⟨field, hfield, rfl⟩ := List.mem_filterMap.1 hnames
    have hrule := ruleOf_mem [(file, source)] file number
    rw [fileOf_single] at hrule
    have hcontext : context.file = file := hreached.file_single
    rw [hcontext] at hfield
    obtain hrule | hrule := List.mem_cons.1 hrule
    · rw [hrule] at hfield
      simp [Target.captureFields] at hfield
    · exact h _ hrule names hfield

theorem sharing_steady : Steady (Sample.sharing none [("0", 1), ("1", 2)]) "source.t" :=
  steady_single rfl ⟨by decide, by decide⟩ (by decide) (by decide)

theorem sharing_parted : Parted (Sample.sharing none [("0", 1), ("1", 2)]) "source.t" := by
  have hfields : ∀ r ∈ (Sample.sharingFile none [("0", 1), ("1", 2)]).rules.toList,
      ∀ field ∈ Target.captureFields r,
        field = none ∨ field = some [("0", 1), ("1", 2)] := by decide
  refine parted_single fun r hr names hnames => ?_
  obtain h | h := hfields r hr _ hnames
  · cases h
  · cases h
    exact apart_pair 1 2 (by decide)

set_option maxRecDepth 4000 in
theorem captures_in_any_order_sharing :
    ∃ g g' asked asked',
      Grammar.compile Pattern.engine (Sample.sharing none [("0", 1), ("1", 2)]) "source.t" =
        (.ok g, asked) ∧
      Grammar.compile Pattern.engine (Sample.sharing none [("1", 2), ("0", 1)]) "source.t" =
        (.ok g', asked') ∧
      (progress Pattern.engine (Sample.sharing none [("0", 1), ("1", 2)]) "source.t").at?
        (.rule "source.t" 1) = some 2 ∧
      (progress Pattern.engine (Sample.sharing none [("1", 2), ("0", 1)]) "source.t").at?
        (.rule "source.t" 1) = some 5 ∧
      ∀ (first : Nat) (lines : List String) (cache : PatternCache),
        (g.scanLines first (.initial g) lines cache).map Prod.fst =
          (g'.scanLines first (.initial g') lines cache).map Prod.fst := by
  have hok : (Grammar.compile Pattern.engine (Sample.sharing none [("0", 1), ("1", 2)])
      "source.t").1.isOk = true := by cbv
  obtain ⟨fault, _, _, _, hfault, -⟩ | ⟨g, g', asked, asked', hg, hg', -, htokens⟩ :=
    captures_in_any_order Pattern.engine "source.t"
      (sharing_reordered none (List.Perm.swap _ _ _)) sharing_steady sharing_parted
  · rw [hfault] at hok
    cases hok
  · exact ⟨g, g', asked, asked', hg, hg', by cbv, by cbv, htokens⟩

def Yields (engine : Engine) (library : Library) (file : String) (lines : List String)
    (tokens : List (List Token)) : Prop :=
  ∃ g asked, Grammar.compile engine library file = (.ok g, asked) ∧
    (g.scanLines 0 (.initial g) lines {}).map Prod.fst = .ok tokens

theorem yields_of_toOption {engine : Engine} {library : Library} {file : String}
    {lines : List String} {tokens : List (List Token)}
    (h : ((Grammar.compile engine library file).1.toOption.bind fun g =>
      ((g.scanLines 0 (.initial g) lines {}).map Prod.fst).toOption) = some tokens) :
    Yields engine library file lines tokens := by
  obtain ⟨g, hg, htokens⟩ := Option.bind_eq_some_iff.1 h
  rcases hc : Grammar.compile engine library file with ⟨_ | g', asked⟩ <;> rw [hc] at hg
    <;> cases hg
  refine ⟨g, asked, hc, ?_⟩
  cases hscan : (g.scanLines 0 (.initial g) lines {}).map Prod.fst with
  | error fault => rw [hscan] at htokens; cases htokens
  | ok found => rw [hscan] at htokens; cases htokens; rfl

theorem naming_reordered {captures captures' : RuleNames} (h : captures.Perm captures') :
    (Sample.naming captures).Reordered (Sample.naming captures') :=
  Library.reordered_single _ (GrammarSource.reordered_of_forall₂
    (.cons ⟨.some h, .none, .none, .none, rfl⟩ (List.forall₂_same.2 fun r _ => .refl r)))

/-- If two captures share a rule and one of them has names of its own, then what comes first decides
what the rule leads to. If two captures belong to one group, then what comes last decides how its
text is scoped. -/
theorem captures_order_matters :
    ((Sample.sharing (some [("b", 4)]) [("0", 1), ("1", 2)]).Reordered
        (Sample.sharing (some [("b", 4)]) [("1", 2), ("0", 1)]) ∧
      Yields Pattern.engine (Sample.sharing (some [("b", 4)]) [("0", 1), ("1", 2)]) "source.t" ["k"]
        [[⟨["source.t", "inner"], 0, 0, 1⟩]] ∧
      Yields Pattern.engine (Sample.sharing (some [("b", 4)]) [("1", 2), ("0", 1)]) "source.t" ["k"]
        [[⟨["source.t", "outer"], 0, 0, 1⟩]]) ∧
    (Sample.naming [("0", 1), ("00", 2)]).Reordered (Sample.naming [("00", 2), ("0", 1)]) ∧
      Yields Sample.engine (Sample.naming [("0", 1), ("00", 2)]) "source.t" ["k"]
        [[⟨["source.t", "last"], 0, 0, 1⟩]] ∧
      Yields Sample.engine (Sample.naming [("00", 2), ("0", 1)]) "source.t" ["k"]
        [[⟨["source.t", "first"], 0, 0, 1⟩]] := by
  refine ⟨⟨sharing_reordered _ (.swap _ _ _), yields_of_toOption ?inner, yields_of_toOption ?outer⟩,
    naming_reordered (.swap _ _ _), yields_of_toOption ?last, yields_of_toOption ?first⟩
  all_goals cbv

end Highlighting.Compile
