import Highlighting.Proofs.Grammar.Compiled
import Highlighting.Proofs.Grammar.Numbering
import Highlighting.Proofs.Sample

/-!
Names in the text of a grammar file and names in view during a compile. A rule is compiled with the
names in view of whatever mentions it first.
-/
namespace Highlighting.Compile

/-- The rules that the text of a file, or of one of its rules, holds directly. -/
def held (library : Library) (file : String) : Option Nat → List Nat
  | none => (fileOf library file).patterns ++ (fileOf library file).repository.map Prod.snd
  | some number => (ruleOf library file number).parts

/-- The repositories around what stands in the text of a file, or of one of its rules, outermost
first: those of the rules that hold it, and its own. -/
inductive Lexical (library : Library) (file : String) : Option Nat → List RuleNames → Prop
  | file : Lexical library file none [(fileOf library file).repository]
  | rule {holder : Option Nat} {scope : List RuleNames} {number : Nat}
      (outside : Lexical library file holder scope) (mem : number ∈ held library file holder) :
      Lexical library file (some number)
        (scope ++ (ruleOf library file number).repository.toList)

theorem rule_of_mem_held {library : Library} {file : String} {number holder : Nat}
    (h : number ∈ held library file (some holder)) :
    ∃ r, (fileOf library file).rules[holder]? = some r ∧ number ∈ r.parts := by
  change number ∈ (((fileOf library file).rules[holder]?).getD {}).parts at h
  cases hr : (fileOf library file).rules[holder]? with
  | none =>
    rw [hr] at h
    cases h
  | some r =>
    rw [hr] at h
    exact ⟨r, rfl, h⟩

theorem held_once {library : Library} {file : String} (hfile : (fileOf library file).Numbered)
    {number : Nat} {holder holder' : Option Nat} (h : number ∈ held library file holder)
    (h' : number ∈ held library file holder') : holder = holder' := by
  cases holder with
  | none =>
    cases holder' with
    | none => rfl
    | some outer =>
      obtain ⟨r, hr, hmem⟩ := rule_of_mem_held h'
      exact absurd hmem (hfile.not_mem_parts hr h)
  | some inner =>
    obtain ⟨r, hr, hmem⟩ := rule_of_mem_held h
    cases holder' with
    | none => exact absurd hmem (hfile.not_mem_parts hr h')
    | some outer =>
      obtain ⟨r', hr', hmem'⟩ := rule_of_mem_held h'
      rw [hfile.eq_of_mem_parts hr hr' hmem hmem']

/-- A rule has one scope in the text of a file that has been decoded. -/
theorem Lexical.unique {library : Library} {file : String}
    (hfile : (fileOf library file).Numbered) {holder : Option Nat} {scope scope' : List RuleNames}
    (h : Lexical library file holder scope) (h' : Lexical library file holder scope') :
    scope = scope' := by
  induction h generalizing scope' with
  | file =>
    cases h'
    rfl
  | rule outside mem ih =>
    cases h' with
    | rule outside' mem' =>
      cases held_once hfile mem mem'
      rw [ih outside']

theorem mem_held_pattern {library : Library} {file : String} {holder number : Nat}
    (h : number ∈ (ruleOf library file holder).patterns.getD []) :
    number ∈ held library file (some holder) :=
  List.mem_append_left _ h

theorem mem_held_names {library : Library} {file name : String} {holder number : Nat}
    {names : RuleNames}
    (hf : some names ∈ Target.captureFields (ruleOf library file holder) ++
      [(ruleOf library file holder).repository])
    (h : (name, number) ∈ names) : number ∈ held library file (some holder) :=
  List.mem_append_right _ (List.mem_flatMap.2 ⟨some names, hf, List.mem_map_of_mem h⟩)

/-- Each of the repositories belongs to a file or rule in the text, and those around it come before
it. -/
def Nested (library : Library) (file : String) (chain : List RuleNames) : Prop :=
  ∀ before repository after, chain = before ++ repository :: after →
    ∃ holder scope, Lexical library file holder (scope ++ [repository]) ∧ scope.Sublist before ∧
      ∀ entry ∈ repository, entry.2 ∈ held library file holder

theorem Nested.snoc {library : Library} {file : String} {chain scope : List RuleNames}
    {repository : RuleNames} {holder : Option Nat} (h : Nested library file chain)
    (hlexical : Lexical library file holder (scope ++ [repository])) (hscope : scope.Sublist chain)
    (hheld : ∀ entry ∈ repository, entry.2 ∈ held library file holder) :
    Nested library file (chain ++ [repository]) := by
  intro before r after heq
  -- the repository that is looked at is the new one if nothing comes after it
  obtain rfl | ⟨after, last, rfl⟩ := List.eq_nil_or_concat after
  · obtain ⟨rfl, hr⟩ := List.append_inj' heq rfl
    cases hr
    exact ⟨holder, scope, hlexical, hscope, hheld⟩
  · rw [List.concat_eq_append, ← List.cons_append, ← List.append_assoc] at heq
    exact h before r after (List.append_inj' heq rfl).1

theorem nested_file (library : Library) (file : String) :
    Nested library file [(fileOf library file).repository] := by
  have hnil : Nested library file [] := fun _ _ _ heq => absurd heq (by simp)
  have hfile : Lexical library file none ([] ++ [(fileOf library file).repository]) := .file
  exact hnil.snoc hfile (List.Sublist.refl _) fun _ he =>
    List.mem_append_right _ (List.mem_map_of_mem he)

theorem inView_eq_some {context : Context} {name : String} {number : Nat}
    (h : inView context name = some number) :
    ∃ before repository after, context.repositories = before ++ repository :: after ∧
      (name, number) ∈ repository := by
  obtain ⟨before, repository, after, heq, hlookup, -⟩ := List.findSome?_eq_some_iff.1 h
  refine ⟨after.reverse, repository, before.reverse, ?_, ?_⟩
  · rw [← List.reverse_reverse context.repositories, heq]
    simp
  · obtain ⟨_, _, hr, -⟩ := List.lookup_eq_some_iff.1 hlookup
    rw [hr]
    simp

theorem isSome_inView_of_sublist {context inner : Context} {name : String}
    (hsub : inner.repositories.Sublist context.repositories)
    (h : (inView inner name).isSome = true) : (inView context name).isSome = true := by
  rw [inView, List.findSome?_isSome_iff] at h ⊢
  obtain ⟨repository, hmem, hlookup⟩ := h
  exact ⟨repository, hsub.reverse.mem hmem, hlookup⟩

def Target.number? : Target → Option Nat
  | .root _ => none
  | .rule _ number => some number

/-- The names in view inside a target are those that its text has around it, in that order, and
perhaps others in between. -/
structure Scoped (library : Library) (t : Target) (scope : List RuleNames) : Prop where
  lexical : Lexical library (t.inside library).file t.number? scope
  inView : scope.Sublist (t.inside library).repositories
  nested : Nested library (t.inside library).file (t.inside library).repositories

theorem scoped_root (library : Library) (file : String) :
    Scoped library (.root file) [(fileOf library file).repository] :=
  ⟨.file, List.Sublist.refl _, nested_file library file⟩

theorem scoped_rule {library : Library} {context : Context} {holder : Option Nat}
    {scope : List RuleNames} {number : Nat}
    (hnested : Nested library context.file context.repositories)
    (hlexical : Lexical library context.file holder scope)
    (hscope : scope.Sublist context.repositories)
    (hmem : number ∈ held library context.file holder) :
    Scoped library (.rule context number)
      (scope ++ (ruleOf library context.file number).repository.toList) := by
  have hrule := hlexical.rule hmem
  refine ⟨hrule, hscope.append (List.Sublist.refl _), ?_⟩
  change Nested library context.file (context.repositories ++ _)
  cases hown : (ruleOf library context.file number).repository with
  | none =>
    rw [Option.toList_none, List.append_nil]
    exact hnested
  | some repository =>
    rw [hown] at hrule
    exact hnested.snoc hrule hscope fun entry he => mem_held_names (by rw [hown]; simp) he

theorem scoped_named {library : Library} {context : Context} {name : String} {number : Nat}
    (hnested : Nested library context.file context.repositories)
    (h : Compile.inView context name = some number) :
    ∃ scope, Scoped library (.rule context number) scope := by
  obtain ⟨before, repository, after, heq, hentry⟩ := inView_eq_some h
  obtain ⟨holder, scope, hlexical, hscope, hheld⟩ := hnested before repository after heq
  refine ⟨_, scoped_rule hnested hlexical ?_ (hheld _ hentry)⟩
  rw [heq]
  exact hscope.append (List.singleton_sublist.2 List.mem_cons_self)

theorem scoped_entryOf {library : Library} {name : Option String} {file : String} {t : Target}
    (h : entryOf? library name file = some t) : ∃ scope, Scoped library t scope := by
  cases name with
  | none =>
    cases h
    exact ⟨_, scoped_root library file⟩
  | some name =>
    obtain ⟨number, hlookup, rfl⟩ := Option.map_eq_some_iff.1 h
    have hin : inView ⟨file, [(fileOf library file).repository]⟩ name = some number := by
      simp [inView, hlookup]
    exact scoped_named (nested_file library file) hin

theorem scoped_referent {library : Library} {context : Context} {reference : String} {t : Target}
    (hnested : Nested library context.file context.repositories)
    (h : referent? library context reference = some t) : ∃ scope, Scoped library t scope := by
  unfold referent? at h
  split at h
  · obtain ⟨number, hin, rfl⟩ := Option.map_eq_some_iff.1 h
    exact scoped_named hnested hin
  · obtain ⟨file, -, hentry⟩ := Option.bind_eq_some_iff.1 h
    exact scoped_entryOf hentry

theorem Scoped.mentions {library : Library} {t u : Target} {scope : List RuleNames}
    (h : Scoped library t scope) (hm : Mentions library t u) :
    ∃ scope, Scoped library u scope := by
  cases hm with
  | @pattern number _ mem leads =>
    have hheld : number ∈ held library (t.inside library).file t.number? := by
      cases t with
      | root file => exact List.mem_append_left _ mem
      | rule context outer => exact mem_held_pattern mem
    unfold mention? at leads
    split at leads
    · unfold target? at leads
      split at leads
      · cases leads
        exact ⟨_, scoped_root library _⟩
      split at leads
      · cases leads
      · exact scoped_referent h.nested leads
    · cases leads
      exact ⟨_, scoped_rule h.nested h.lexical h.inView hheld⟩
  | @capture names name number mem entry holds =>
    refine ⟨_, scoped_rule h.nested h.lexical h.inView ?_⟩
    cases t with
    | root file => cases mem
    | rule context outer =>
      obtain ⟨field, hfield, rfl⟩ := List.mem_filterMap.1 mem
      exact mem_held_names (List.mem_append_left _ hfield) entry

theorem Reached.scoped {library : Library} {start : String} {t : Target}
    (h : Reached library start t) : ∃ scope, Scoped library t scope := by
  induction h with
  | start => exact ⟨_, scoped_root library start⟩
  | step _ mentions ih =>
    obtain ⟨scope, hscoped⟩ := ih
    exact hscoped.mentions mentions

theorem Scoped.isSome_inView {library : Library} {t : Target} {scope : List RuleNames}
    {name : String} {entry : Nat} (h : Scoped library t scope)
    (hentry : Compile.inView ⟨(t.inside library).file, scope⟩ name = some entry) :
    (Compile.inView (t.inside library) name).isSome = true :=
  isSome_inView_of_sublist h.inView (by rw [hentry]; rfl)

def Written (library : Library) (file : String) (repository : RuleNames) : Prop :=
  ∃ holder scope, Lexical library file holder (scope ++ [repository])

/-- Wherever a name stands in the text of a file, it names the same rule. -/
def Unambiguous (library : Library) (file name : String) : Prop :=
  ∀ repository repository' number number', Written library file repository →
    Written library file repository' → (name, number) ∈ repository →
    (name, number') ∈ repository' → number = number'

theorem Scoped.inView_of_unambiguous {library : Library} {t : Target} {scope : List RuleNames}
    {name : String} {entry : Nat} (h : Scoped library t scope)
    (hname : Unambiguous library (t.inside library).file name)
    (hentry : Compile.inView ⟨(t.inside library).file, scope⟩ name = some entry) :
    Compile.inView (t.inside library) name = some entry := by
  have hwritten : ∀ repository ∈ (t.inside library).repositories,
      Written library (t.inside library).file repository := by
    intro repository hmem
    obtain ⟨before, after, heq⟩ := List.append_of_mem hmem
    obtain ⟨holder, outer, hlexical, -, -⟩ := h.nested before repository after heq
    exact ⟨holder, outer, hlexical⟩
  obtain ⟨actual, hactual⟩ := Option.isSome_iff_exists.1 (h.isSome_inView hentry)
  obtain ⟨_, repository, _, heq, hmem⟩ := inView_eq_some hactual
  obtain ⟨_, repository', _, heq', hmem'⟩ := inView_eq_some hentry
  have hr : repository ∈ (t.inside library).repositories := by
    rw [heq]
    simp
  have hr' : repository' ∈ (t.inside library).repositories := by
    refine h.inView.mem ?_
    change scope = _ at heq'
    rw [heq']
    simp
  rw [hactual, hname _ _ _ _ (hwritten _ hr) (hwritten _ hr') hmem hmem']

theorem splitReference_name (name : String) : splitReference ("#" ++ name) = ("", some name) := by
  have hlist : ("#" ++ name).toList = '#' :: name.toList := String.toList_append
  rw [splitReference, hlist, List.span_eq_takeWhile_dropWhile]
  simp

theorem name_ne (name : String) {s : String} (h : s.toList.head? ≠ some '#') : "#" ++ name ≠ s := by
  rintro rfl
  exact h (by simp)

theorem mention?_name {library : Library} {context : Context} {number : Nat} {name : String}
    (h : (ruleOf library context.file number).reference = some ("#" ++ name)) :
    mention? library context number = (inView context name).map (.rule context) := by
  rw [mention?, h]
  dsimp only
  rw [target?, if_neg (name_ne _ (by decide)), if_neg (name_ne _ (by decide)), referent?,
    splitReference_name]
  rfl

section
variable {engine : Engine} {library : Library} {file : String} {g : Grammar} {asked : List String}

/-- A name in the patterns of a compiled target stands for the rule that is in view by that name. -/
theorem stands_name (p : Progress) {context : Context} {number : Nat} {name : String}
    (href : (ruleOf library context.file number).reference = some ("#" ++ name)) :
    p.stands library context number =
      (inView context name).bind fun entry => p.at? (.rule context.file entry) := by
  have hbase : "#" ++ name ≠ "$base" := name_ne name (by decide)
  rw [Progress.stands, href, if_neg fun heq => hbase (Option.some.inj heq), mention?_name href,
    Option.bind_map]
  rfl

/-- In a compiled grammar each reference by name stands for the rule in view by that name where the
rule around it was first mentioned. If the text has an entry for the name around the reference, then
it is never left out, and it stands for that entry exactly if no other one is further in; there is
none if the name is not used twice in the file. -/
theorem names_lexical_iff (h : Grammar.compile engine library file = (.ok g, asked)) {key : Key}
    {id : Nat} (hid : (progress engine library file).at? key = some id) :
    ∃ t scope, t.key library = key ∧ Reached library file t ∧ Scoped library t scope ∧
      Renders engine library (progress engine library file) t (g.rule id) ∧
      g.candidatesOf id = triedInside g.rules (g.rule id) ∧
      ∀ number ∈ t.patterns library, ∀ name,
        (ruleOf library (t.inside library).file number).reference = some ("#" ++ name) →
        ((progress engine library file).stands library (t.inside library) number =
          (inView (t.inside library) name).bind fun actual =>
            (progress engine library file).at? (.rule (t.inside library).file actual)) ∧
        ∀ entry, inView ⟨(t.inside library).file, scope⟩ name = some entry →
          ∃ actual place, inView (t.inside library) name = some actual ∧
            (progress engine library file).at? (.rule (t.inside library).file actual) =
              some place ∧
            ((progress engine library file).at? (.rule (t.inside library).file entry) =
              some place ↔ actual = entry) ∧
            (Unambiguous library (t.inside library).file name → actual = entry) := by
  obtain ⟨hsound, -, hplaces⟩ := compile_settled h
  obtain ⟨t, hkey, hsettled⟩ := hplaces key id hid
  obtain ⟨scope, hscoped⟩ := hsettled.reached.scoped
  obtain ⟨hrenders, hcandidates⟩ := hsettled.rule h
  refine ⟨t, scope, hkey, hsettled.reached, hscoped, hrenders, hcandidates, ?_⟩
  intro number hmem name href
  refine ⟨stands_name _ href, fun entry hentry => ?_⟩
  obtain ⟨actual, hactual⟩ := Option.isSome_iff_exists.1 (hscoped.isSome_inView hentry)
  have hleads : mention? library (t.inside library) number =
      some (.rule (t.inside library) actual) := by
    rw [mention?_name href, hactual]
    rfl
  obtain ⟨place, hplace⟩ := Option.isSome_iff_exists.1 (hsettled.holds number hmem _ hleads)
  refine ⟨actual, place, hactual, hplace, ⟨fun hentryPlace => ?_, fun heq => heq ▸ hplace⟩, ?_⟩
  -- a place belongs to one rule alone, so two entries with one place are the same
  · have hsame := hsound.unique _ _ _ hplace hentryPlace
    exact (Key.rule.inj hsame).2
  · intro hname
    rw [hscoped.inView_of_unambiguous hname hentry] at hactual
    exact (Option.some.inj hactual).symm

/-- The text has one rule `b` around the reference in `a`. What is tried in `a` is another one if
the region with a `b` of its own comes before the other mention of `a`. -/
theorem names_not_lexical :
    Lexical (Sample.shadowing [2, 6]) "source.t" (some 4) [[("a", 4), ("b", 5)]] ∧
      inView ⟨"source.t", [[("a", 4), ("b", 5)]]⟩ "b" = some 5 ∧
      (∃ g p, Grammar.compile Sample.engine (Sample.shadowing [2, 6]) "source.t" = (.ok g, []) ∧
        progress Sample.engine (Sample.shadowing [2, 6]) "source.t" = p ∧
        p.at? (.rule "source.t" 4) = some 2 ∧ p.at? (.rule "source.t" 1) = some 3 ∧
        p.at? (.rule "source.t" 5) = none ∧ g.candidatesOf 2 = [3]) ∧
      ∃ g p, Grammar.compile Sample.engine (Sample.shadowing [6, 2]) "source.t" = (.ok g, []) ∧
        progress Sample.engine (Sample.shadowing [6, 2]) "source.t" = p ∧
        p.at? (.rule "source.t" 4) = some 1 ∧ p.at? (.rule "source.t" 5) = some 2 ∧
        g.candidatesOf 1 = [2] := by
  refine ⟨.rule .file (by decide), by decide,
    ⟨?inner, _, ?compiled, rfl, by cbv, by cbv, by cbv, ?tried⟩,
    ⟨?outer, _, ?compiled', rfl, by cbv, by cbv, ?tried'⟩⟩
  case compiled =>
    cbv
    rfl
  case compiled' =>
    cbv
    rfl
  case tried => rfl
  case tried' => rfl

theorem names_lexical_iff_shadowing :
    ∃ t scope, t.key (Sample.shadowing [2, 6]) = .rule "source.t" 4 ∧
      Scoped (Sample.shadowing [2, 6]) t scope ∧ inView ⟨"source.t", scope⟩ "b" = some 5 ∧
      ∃ actual, inView (t.inside (Sample.shadowing [2, 6])) "b" = some actual ∧ actual ≠ 5 := by
  obtain ⟨g, hg⟩ : ∃ g, Grammar.compile Sample.engine (Sample.shadowing [2, 6]) "source.t" =
      (.ok g, []) := by
    refine ⟨?inner, ?compiled⟩
    case compiled =>
      cbv
      rfl
  have hid : (progress Sample.engine (Sample.shadowing [2, 6]) "source.t").at?
      (.rule "source.t" 4) = some 2 := by cbv
  have hout : (progress Sample.engine (Sample.shadowing [2, 6]) "source.t").at?
      (.rule "source.t" 5) = none := by cbv
  obtain ⟨t, scope, hkey, -, hscoped, -, -, hnames⟩ := names_lexical_iff hg hid
  cases t with
  | root file => cases hkey
  | rule context number =>
    obtain ⟨hfile, rfl⟩ := Key.rule.inj hkey
    obtain ⟨file, repositories⟩ := context
    cases hfile
    have hnumbered : (fileOf (Sample.shadowing [2, 6]) "source.t").Numbered :=
      ⟨by decide, by decide⟩
    obtain rfl : scope = [[("a", 4), ("b", 5)]] :=
      hscoped.lexical.unique hnumbered (.rule .file (by decide))
    have hentry : inView ⟨"source.t", [[("a", 4), ("b", 5)]]⟩ "b" = some 5 := by decide
    refine ⟨_, _, hkey, hscoped, hentry, ?_⟩
    obtain ⟨-, hfollowed⟩ := hnames 3 List.mem_cons_self "b" rfl
    obtain ⟨actual, place, hactual, hplace, -⟩ := hfollowed 5 hentry
    refine ⟨actual, hactual, ?_⟩
    rintro rfl
    have hnone := hplace.symm.trans hout
    cases hnone

end

end Highlighting.Compile
