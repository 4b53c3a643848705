import Highlighting.Proofs.Grammar.Reordered
import Highlighting.Proofs.Grammar.Scoping

/-!
Rules that are mentioned in several places, and when their patterns lead to the same in each.
-/
namespace Highlighting.Compile

/-- Wherever a rule is mentioned, its patterns lead to the same. -/
def Steady (library : Library) (start : String) : Prop :=
  ∀ t u, Reached library start t → Reached library start u → t.key library = u.key library →
    t.leads library = u.leads library

theorem Steady.reordered {library library' : Library} {start : String}
    (h : library.Reordered library') (hs : Steady library start) : Steady library' start := by
  intro t u ht hu hkey
  rw [t.key_reordered h, u.key_reordered h] at hkey
  rw [t.leads_reordered h, u.leads_reordered h]
  exact hs t u (ht.reordered h.symm) (hu.reordered h.symm) hkey

theorem eq_name_of_splitReference {reference name : String}
    (h : splitReference reference = ("", some name)) : reference = "#" ++ name := by
  unfold splitReference at h
  rw [List.span_eq_takeWhile_dropWhile] at h
  have hlist : reference.toList = reference.toList.takeWhile (· ≠ '#') ++
      reference.toList.dropWhile (· ≠ '#') := List.takeWhile_append_dropWhile.symm
  have hmark := List.head?_dropWhile_not (fun c => decide (c ≠ '#')) reference.toList
  generalize reference.toList.takeWhile (· ≠ '#') = before at h hlist
  generalize reference.toList.dropWhile (· ≠ '#') = rest at h hlist hmark
  cases rest with
  | nil => cases (Prod.mk.inj h).2
  | cons mark rest =>
    obtain ⟨hbefore, hname⟩ := Prod.mk.inj h
    obtain rfl : before = [] := by simpa using congrArg String.toList hbefore
    obtain rfl : mark = '#' := by simpa using hmark
    rw [← Option.some.inj hname]
    exact String.toList_inj.1 (hlist.trans (by simp))

section
variable {library : Library} {start : String}

theorem Reached.found (hstart : (library.lookup start).isSome = true) {t : Target}
    (h : Reached library start t) : (library.lookup (t.inside library).file).isSome = true := by
  induction h with
  | start => exact hstart
  | @step t u _ mentions ih =>
    cases mentions with
    | @pattern number _ mem leads =>
      unfold mention? at leads
      split at leads
      · unfold target? at leads
        split_ifs at leads
        · cases leads
          exact ih
        unfold referent? at leads
        split at leads
        · obtain ⟨_, -, rfl⟩ := Option.map_eq_some_iff.1 leads
          exact ih
        obtain ⟨file, hnamed, hentry⟩ := Option.bind_eq_some_iff.1 leads
        have hfile : (library.lookup file).isSome = true := by
          unfold fileNamed? at hnamed
          split_ifs at hnamed with _ hother
          · exact Option.some.inj hnamed ▸ ih
          · exact Option.some.inj hnamed ▸ hother
        unfold entryOf? at hentry
        split at hentry
        · exact Option.some.inj hentry ▸ hfile
        · obtain ⟨_, -, rfl⟩ := Option.map_eq_some_iff.1 hentry
          exact hfile
      · cases leads
        exact ih
    | capture => exact ih

theorem lead?_congr {file : String} {around around' : List RuleNames} {number : Nat}
    (hnames : ∀ name, (ruleOf library file number).reference = some ("#" ++ name) →
      inView ⟨file, around⟩ name = inView ⟨file, around'⟩ name) :
    lead? library ⟨file, around⟩ number = lead? library ⟨file, around'⟩ number := by
  unfold lead?
  dsimp only
  split
  · rfl
  unfold mention? target?
  dsimp only
  cases href : (ruleOf library file number).reference with
  | none => rfl
  | some reference =>
    dsimp only
    split
    · rfl
    split
    · rfl
    unfold referent?
    split
    · next name hsplit =>
      rw [hnames name (href.trans (congrArg some (eq_name_of_splitReference hsplit))),
        Option.map_map, Option.map_map]
      rfl
    · rfl

/-- The patterns of a rule lead to the same wherever it is mentioned if the files are what they are
known as, no rule stands in two places of a file, and the text has an entry around each reference by
name, with a name that is not used twice. -/
theorem steady_of_names (hstart : (library.lookup start).isSome = true)
    (hfiles : ∀ file source, library.lookup file = some source →
      source.scopeName = file ∧ source.Numbered)
    (hnames : ∀ t scope, Reached library start t → Scoped library t scope →
      ∀ number ∈ t.patterns library, ∀ name,
        (ruleOf library (t.inside library).file number).reference = some ("#" ++ name) →
        (inView ⟨(t.inside library).file, scope⟩ name).isSome = true ∧
          Unambiguous library (t.inside library).file name) :
    Steady library start := by
  intro t u ht hu hkey
  have hfile : ∀ file, (library.lookup file).isSome = true →
      (fileOf library file).scopeName = file ∧ (fileOf library file).Numbered := by
    intro file hfound
    obtain ⟨source, hsource⟩ := Option.isSome_iff_exists.1 hfound
    have hof : fileOf library file = source := by
      rw [fileOf, hsource]
      rfl
    exact hof ▸ hfiles file source hsource
  cases t with
  | root file =>
    cases u with
    | root file' =>
      have heq : file = file' := by
        rw [← (hfile file (ht.found hstart)).1, ← (hfile file' (hu.found hstart)).1]
        exact Key.root.inj hkey
      rw [heq]
    | rule context number => cases hkey
  | rule context number =>
    cases u with
    | root file => cases hkey
    | rule context' number' =>
      obtain ⟨file, around⟩ := context
      obtain ⟨file', around'⟩ := context'
      cases hkey
      obtain ⟨scope, hscoped⟩ := ht.scoped
      obtain ⟨scope', hscoped'⟩ := hu.scoped
      -- the rule stands in one place of the text
      obtain rfl : scope = scope' :=
        hscoped.lexical.unique (hfile file (ht.found hstart)).2 hscoped'.lexical
      refine List.filterMap_congr fun n hn => lead?_congr fun name href => ?_
      obtain ⟨hview, hname⟩ := hnames _ scope ht hscoped n hn name href
      obtain ⟨entry, hentry⟩ := Option.isSome_iff_exists.1 hview
      exact (hscoped.inView_of_unambiguous hname hentry).trans
        (hscoped'.inView_of_unambiguous hname hentry).symm

end

theorem ruleOf_mem (library : Library) (file : String) (number : Nat) :
    ruleOf library file number ∈ ({} : RuleSource) :: (fileOf library file).rules.toList := by
  unfold ruleOf
  cases hr : (fileOf library file).rules[number]? with
  | none => exact List.mem_cons_self
  | some r =>
    exact List.mem_cons_of_mem _ (Array.mem_toList_iff.2 (Array.mem_of_getElem? hr))

section
variable {file : String} {source : GrammarSource}

theorem lookup_single {name : String} {found : GrammarSource}
    (h : List.lookup name [(file, source)] = some found) : name = file ∧ found = source := by
  rw [List.lookup_cons] at h
  split at h
  · next heq => exact ⟨beq_iff_eq.1 heq, (Option.some.inj h).symm⟩
  · cases h

theorem fileOf_single (file : String) (source : GrammarSource) :
    fileOf [(file, source)] file = source := by
  rw [fileOf, List.lookup_cons_self]
  rfl

theorem Reached.file_single {t : Target} (h : Reached [(file, source)] file t) :
    (t.inside [(file, source)]).file = file := by
  obtain ⟨found, hfound⟩ := Option.isSome_iff_exists.1 (h.found (by simp))
  exact (lookup_single hfound).1

theorem Lexical.file_mem {library : Library} {holder : Option Nat} {scope : List RuleNames}
    (h : Lexical library file holder scope) : (fileOf library file).repository ∈ scope := by
  induction h with
  | file => exact List.mem_singleton_self _
  | rule outside held ih => exact List.mem_append_left _ ih

theorem Lexical.repository_cases {holder : Option Nat} {scope : List RuleNames}
    {repository : RuleNames}
    (h : Lexical [(file, source)] file holder scope) (hmem : repository ∈ scope) :
    repository = source.repository ∨ ∃ r ∈ source.rules.toList, r.repository = some repository := by
  induction h with
  | file => exact .inl (by simpa [fileOf_single] using hmem)
  | @rule holder scope number outside held ih =>
    obtain hmem | hmem := List.mem_append.1 hmem
    · exact ih hmem
    have hown := Option.mem_toList.1 hmem
    have hrule := ruleOf_mem [(file, source)] file number
    rw [fileOf_single] at hrule
    obtain hrule | hrule := List.mem_cons.1 hrule
    · rw [hrule] at hown
      cases hown
    · exact .inr ⟨_, hrule, hown⟩

theorem steady_single (hfile : source.scopeName = file) (hnumbered : source.Numbered)
    (honce : (source.repository.map Prod.fst).Nodup)
    (hnames : ∀ r ∈ source.rules.toList, ∀ reference ∈ r.reference,
      ∃ entry ∈ source.repository, reference = "#" ++ entry.1 ∧
        ∀ r' ∈ source.rules.toList, ∀ own ∈ r'.repository, own.lookup entry.1 = none) :
    Steady [(file, source)] file := by
  refine steady_of_names (by simp) (fun name found hfound => ?_) ?_
  · obtain ⟨rfl, rfl⟩ := lookup_single hfound
    exact ⟨hfile, hnumbered⟩
  intro t scope hreached hscoped number hmem name href
  have hlexical := hscoped.lexical
  rw [hreached.file_single] at href hlexical ⊢
  obtain ⟨⟨_, rule⟩, hentry, rfl, hown⟩ : ∃ entry ∈ source.repository, name = entry.1 ∧
      ∀ r' ∈ source.rules.toList, ∀ own ∈ r'.repository, own.lookup entry.1 = none := by
    have hrule := ruleOf_mem [(file, source)] file number
    rw [fileOf_single] at hrule
    obtain hrule | hrule := List.mem_cons.1 hrule
    · rw [hrule] at href
      cases href
    · obtain ⟨entry, hentry, hreference, hown⟩ := hnames _ hrule _ href
      exact ⟨entry, hentry, (String.append_right_inj _).1 hreference, hown⟩
  have hlast : ∀ {holder : Option Nat} {outer : List RuleNames} {repository : RuleNames}
      {number : Nat}, Lexical [(file, source)] file holder (outer ++ [repository]) →
      (name, number) ∈ repository → repository = source.repository := by
    intro holder outer repository number hwritten hin
    obtain h | ⟨r, hr, h⟩ := hwritten.repository_cases (List.mem_append_right _ List.mem_cons_self)
    · exact h
    · have hnone := List.lookup_eq_none_iff.1 (hown r hr repository h) _ hin
      simp at hnone
  refine ⟨?_, ?_⟩
  · have hfile := hlexical.file_mem
    rw [fileOf_single] at hfile
    rw [inView, List.findSome?_isSome_iff]
    exact ⟨_, List.mem_reverse.2 hfile, List.lookup_isSome_iff.2 ⟨_, hentry, beq_self_eq_true _⟩⟩
  · rintro repository repository' number number' ⟨holder, outer, h⟩ ⟨holder', outer', h'⟩ hin hin'
    rw [hlast h hin] at hin
    rw [hlast h' hin'] at hin'
    exact congrArg Prod.snd (List.inj_on_of_nodup_map honce hin hin' rfl)

end

end Highlighting.Compile
