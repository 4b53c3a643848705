import Highlighting.Proofs.Grammar.Candidates
import Highlighting.Proofs.Sample

/-!
References to rules that are no more than references themselves. They are followed in a list of
patterns only, so such a rule comes to an empty container.
-/
namespace Highlighting.Compile

def isAlias (r : RuleSource) : Bool :=
  r.reference.isSome && r.matchPattern.isNone && r.beginPattern.isNone &&
    (r.patterns.getD []).isEmpty

def leadsToAlias (library : Library) (context : Context) (number : Nat) : Bool :=
  match mention? library context number with
  | some (.rule context number) => isAlias (ruleOf library context.file number)
  | _ => false

def Target.tried (library : Library) : Target → List Nat
  | .root file => (Target.root file).patterns library
  | .rule context number =>
    if (ruleOf library context.file number).matchPattern.isSome then []
    else (Target.rule context number).patterns library

theorem Target.mem_patterns_of_tried {library : Library} {t : Target} {number : Nat}
    (h : number ∈ t.tried library) : number ∈ t.patterns library := by
  cases t with
  | root file => exact h
  | rule context outer =>
    rw [Target.tried] at h
    split at h
    · cases h
    · exact h

theorem Renders.patterns {engine : Engine} {library : Library} {p : Progress} {t : Target}
    {rule : Rule} (h : Renders engine library p t rule) :
    rule.patterns = (t.tried library).filterMap (p.stands library (t.inside library)) := by
  cases h with
  | root file => rfl
  | container noMatch =>
    rw [Target.tried, noMatch]
    rfl
  | single captures source isMatch compiled =>
    subst source
    rw [Target.tried, isMatch]
    rfl
  | block captures stopCaptures source noMatch =>
    subst source
    rw [Target.tried, noMatch]
    rfl
  | lines captures goCaptures source noMatch =>
    subst source
    rw [Target.tried, noMatch]
    rfl

theorem Renders.of_isAlias {engine : Engine} {library : Library} {p : Progress}
    {context : Context} {number : Nat} {rule : Rule}
    (h : Renders engine library p (.rule context number) rule)
    (ha : isAlias (ruleOf library context.file number) = true) : rule = .container [] := by
  obtain ⟨⟨⟨-, hmatch⟩, hbegin⟩, hpatterns⟩ := by
    simpa only [isAlias, Bool.and_eq_true] using ha
  rw [Option.isNone_iff_eq_none] at hmatch hbegin
  rw [List.isEmpty_iff] at hpatterns
  cases h with
  | container =>
    have hnil : p.patternsOf library (.rule context number) = [] := by
      rw [Progress.patternsOf, Target.patterns, hpatterns]
      rfl
    rw [hnil]
  | single captures source isMatch =>
    subst source
    rw [hmatch] at isMatch
    cases isMatch
  | block captures stopCaptures source noMatch isBegin =>
    subst source
    rw [hbegin] at isBegin
    cases isBegin
  | lines captures goCaptures source noMatch isBegin =>
    subst source
    rw [hbegin] at isBegin
    cases isBegin

theorem struck_filterMap {rules : Array Rule} {stands : Nat → Option Nat} {drop : Nat → Bool}
    {numbers : List Nat}
    (h : ∀ number ∈ numbers, drop number = true → ∀ place, stands number = some place →
      ruleAt rules place = .container []) :
    Struck rules (numbers.filterMap stands)
      ((numbers.filter fun number => !drop number).filterMap stands) := by
  induction numbers with
  | nil => exact .nil
  | cons number numbers ih =>
    have hrest := ih fun n hn => h n (List.mem_cons_of_mem _ hn)
    cases hdrop : drop number with
    | true =>
      rw [List.filter_cons_of_neg (by simp [hdrop])]
      cases hstands : stands number with
      | none => rwa [List.filterMap_cons_none hstands]
      | some place =>
        rw [List.filterMap_cons_some hstands]
        exact .strike (h number List.mem_cons_self hdrop place hstands) hrest
    | false =>
      rw [List.filter_cons_of_pos (by simp [hdrop])]
      cases hstands : stands number with
      | none => rwa [List.filterMap_cons_none hstands, List.filterMap_cons_none hstands]
      | some place =>
        rw [List.filterMap_cons_some hstands, List.filterMap_cons_some hstands]
        exact .keep place hrest

section
variable {engine : Engine} {library : Library} {file : String} {g : Grammar} {asked : List String}

/-- A reference to an alias stands for an empty container. -/
theorem Settled.alias {t : Target} {id number : Nat}
    (hc : Grammar.compile engine library file = (.ok g, asked))
    (h : Settled engine library file (progress engine library file) t id)
    (hmem : number ∈ t.patterns library)
    (ha : leadsToAlias library (t.inside library) number = true) :
    ∃ place,
      (progress engine library file).stands library (t.inside library) number = some place ∧
      g.rule place = .container [] ∧ g.candidatesOf place = [] := by
  obtain ⟨-, -, hplaces⟩ := compile_settled hc
  unfold leadsToAlias at ha
  split at ha
  · next context entry hleads =>
    obtain ⟨place, hplace⟩ := Option.isSome_iff_exists.1 (h.holds number hmem _ hleads)
    obtain ⟨u, hkey, hu⟩ := hplaces _ place hplace
    obtain ⟨hrenders, hcandidates⟩ := hu.rule hc
    have hrule : g.rule place = .container [] := by
      cases u with
      | root file => cases hkey
      | rule context' entry' =>
        obtain ⟨hfile, rfl⟩ := Key.rule.inj hkey
        exact hrenders.of_isAlias (by rw [hfile]; exact ha)
    refine ⟨place, ?_, hrule, ?_⟩
    · rw [Progress.stands_of_mention hleads]
      exact hplace
    · rw [hcandidates, hrule]
      exact (triedInside_walk g.rules (.container [])).unique (.nil [])
  · cases ha

/-- In a compiled grammar a reference to an alias stands for an empty container. What is tried
inside a rule is what its patterns give without such references, whatever the aliases refer to. -/
theorem aliases_hold_nothing (h : Grammar.compile engine library file = (.ok g, asked)) {key : Key}
    {id : Nat} (hid : (progress engine library file).at? key = some id) :
    ∃ t, t.key library = key ∧ Reached library file t ∧
      Renders engine library (progress engine library file) t (g.rule id) ∧
      (∀ number ∈ t.patterns library, leadsToAlias library (t.inside library) number = true →
        ∃ place,
          (progress engine library file).stands library (t.inside library) number = some place ∧
          g.rule place = .container [] ∧ g.candidatesOf place = []) ∧
      g.candidatesOf id = triedInside g.rules (.container
        (((t.tried library).filter fun number =>
          !leadsToAlias library (t.inside library) number).filterMap
            ((progress engine library file).stands library (t.inside library)))) := by
  obtain ⟨-, -, hplaces⟩ := compile_settled h
  obtain ⟨t, hkey, hsettled⟩ := hplaces key id hid
  obtain ⟨hrenders, hcandidates⟩ := hsettled.rule h
  refine ⟨t, hkey, hsettled.reached, hrenders, fun _ hmem ha => hsettled.alias h hmem ha, ?_⟩
  rw [hcandidates]
  refine triedInside_struck ?_
  rw [hrenders.patterns]
  refine struck_filterMap fun number hmem ha place hstands => ?_
  obtain ⟨place', hstands', hrule, -⟩ := hsettled.alias h (Target.mem_patterns_of_tried hmem) ha
  cases hstands.symm.trans hstands'
  exact hrule

/-- A reference to `a`, which is a reference to `b`, gives nothing to try; a reference to `b` in its
place gives the rule `b`. -/
theorem alias_not_transparent :
    isAlias (ruleOf (Sample.aliasing "#a") "source.t" 1) = true ∧
      (ruleOf (Sample.aliasing "#a") "source.t" 1).reference = some "#b" ∧
      (∃ g, Grammar.compile Sample.engine (Sample.aliasing "#a") "source.t" = (.ok g, []) ∧
        g.candidatesOf g.root = []) ∧
      ∃ g, Grammar.compile Sample.engine (Sample.aliasing "#b") "source.t" = (.ok g, []) ∧
        g.candidatesOf g.root = [1] := by
  refine ⟨by decide, by decide, ⟨?hollow, ?compiled, ?tried⟩, ⟨?whole, ?compiled', ?tried'⟩⟩
  case compiled =>
    cbv
    rfl
  case compiled' =>
    cbv
    rfl
  case tried => rfl
  case tried' => rfl

theorem aliases_hold_nothing_root :
    ∃ g, Grammar.compile Sample.engine (Sample.aliasing "#a") "source.t" = (.ok g, []) ∧
      g.candidatesOf 0 = triedInside g.rules (.container []) := by
  obtain ⟨g, hg⟩ : ∃ g, Grammar.compile Sample.engine (Sample.aliasing "#a") "source.t" =
      (.ok g, []) := by
    refine ⟨?hollow, ?compiled⟩
    case compiled =>
      cbv
      rfl
  have hid : (progress Sample.engine (Sample.aliasing "#a") "source.t").at? (.root "source.t") =
      some 0 := by cbv
  obtain ⟨t, hkey, -, -, -, hcandidates⟩ := aliases_hold_nothing hg hid
  refine ⟨g, hg, ?_⟩
  cases t with
  | rule context number => cases hkey
  | root file =>
    obtain rfl : file = "source.t" := by
      by_contra hne
      have hdefault : fileOf (Sample.aliasing "#a") file = default := by
        simp [fileOf, Sample.aliasing, List.lookup, beq_false_of_ne hne]
      have hname := Key.root.inj hkey
      rw [hdefault] at hname
      exact absurd hname (by decide)
    exact hcandidates

end

end Highlighting.Compile
