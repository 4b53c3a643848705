import Highlighting.Proofs.Registry.Index
import Highlighting.Proofs.Registry.Transparency
import Highlighting.Proofs.Sample

/-! Which contributions count: the first one for a scope name or for a language. -/
namespace Highlighting

inductive Repeated {α : Type} : List α → List α → Prop
  | intro (before after : List α) {again : List α} :
      again ⊆ before → Repeated (before ++ after) (before ++ (again ++ after))

namespace Repeated
variable {α β : Type} {items items' : List α}

theorem flatMap (h : Repeated items items') (f : α → List β) :
    Repeated (items.flatMap f) (items'.flatMap f) := by
  obtain ⟨before, after, hagain⟩ := h
  simp only [List.flatMap_append]
  refine .intro _ _ fun b hb => ?_
  obtain ⟨a, ha, hab⟩ := List.mem_flatMap.1 hb
  exact List.mem_flatMap.2 ⟨a, hagain ha, hab⟩

theorem filter (h : Repeated items items') (p : α → Bool) :
    Repeated (items.filter p) (items'.filter p) := by
  obtain ⟨before, after, hagain⟩ := h
  simp only [List.filter_append]
  exact .intro _ _ (List.filter_subset p hagain)

theorem findSome? (h : Repeated items items') (f : α → Option β) :
    items'.findSome? f = items.findSome? f := by
  obtain ⟨before, after, hagain⟩ := h
  simp only [List.findSome?_append]
  cases hbefore : before.findSome? f with
  | some b => rfl
  | none =>
    rw [List.findSome?_eq_none_iff] at hbefore
    rw [List.findSome?_eq_none_iff.2 fun a ha => hbefore a (hagain ha)]
    rfl

theorem putAll {κ ν : Type} [BEq κ] [LawfulBEq κ] {entries entries' : List (κ × ν)}
    (h : Repeated entries entries') (t : Table κ ν) : t.putAll entries' = t.putAll entries := by
  obtain ⟨before, after, hagain⟩ := h
  have hself := Table.putAll_eq_self (t := t.putAll before) fun e he => by
    have hlookup : (before.lookup e.1).isSome = true :=
      List.lookup_isSome_iff.2 ⟨e, hagain he, BEq.rfl⟩
    simp [Table.contains, Table.get?_putAll, hlookup]
  simp only [Table.putAll_append, hself]

end Repeated

namespace Registry

def IsFirstLongest (entries : List (String × String)) (best : String × String) : Prop :=
  ∃ before after, entries = before ++ best :: after ∧
    (∀ e ∈ before, e.1.utf8ByteSize < best.1.utf8ByteSize) ∧
    ∀ e ∈ after, e.1.utf8ByteSize ≤ best.1.utf8ByteSize

theorem IsFirstLongest.le {entries : List (String × String)} {best : String × String}
    (h : IsFirstLongest entries best) :
    ∀ e ∈ entries, e.1.utf8ByteSize ≤ best.1.utf8ByteSize := by
  obtain ⟨before, after, rfl, hbefore, hafter⟩ := h
  intro e he
  obtain he | he := List.mem_append.1 he
  · exact Nat.le_of_lt (hbefore e he)
  obtain rfl | he := List.mem_cons.1 he
  · exact Nat.le_refl _
  · exact hafter e he

theorem foldl_longer (entries : List (String × String)) (first : String × String) :
    ∃ best, entries.foldl longer (some first) = some best ∧
      IsFirstLongest (first :: entries) best := by
  induction entries generalizing first with
  | nil => exact ⟨first, rfl, [], [], rfl, by simp, by simp⟩
  | cons e entries ih =>
    by_cases he : first.1.utf8ByteSize < e.1.utf8ByteSize
    · obtain ⟨best, hbest, hlongest⟩ := ih e
      have hle := hlongest.le e List.mem_cons_self
      obtain ⟨before, after, hentries, hbefore, hafter⟩ := hlongest
      refine ⟨best, by simpa [longer, he] using hbest, first :: before, after, ?_, ?_, hafter⟩
      · rw [hentries]
        rfl
      · exact List.forall_mem_cons.2 ⟨by omega, hbefore⟩
    · obtain ⟨best, hbest, before, after, hentries, hbefore, hafter⟩ := ih first
      refine ⟨best, by simpa [longer, he] using hbest, ?_⟩
      -- The extension that is not longer stands behind the first one.
      cases before with
      | nil =>
        obtain ⟨rfl, rfl⟩ := List.cons.inj hentries
        exact ⟨[], e :: entries, rfl, by simp, List.forall_mem_cons.2 ⟨by omega, hafter⟩⟩
      | cons b before =>
        obtain ⟨rfl, rfl⟩ := List.cons.inj hentries
        obtain ⟨hfirst, hrest⟩ := List.forall_mem_cons.1 hbefore
        refine ⟨first :: e :: before, after, rfl, ?_, hafter⟩
        exact List.forall_mem_cons.2 ⟨hfirst, List.forall_mem_cons.2 ⟨by omega, hrest⟩⟩

theorem longest_cases (entries : List (String × String)) :
    entries = [] ∧ entries.foldl longer none = none ∨
      ∃ best, entries.foldl longer none = some best ∧ IsFirstLongest entries best := by
  cases entries with
  | nil => exact .inl ⟨rfl, rfl⟩
  | cons first entries => exact .inr (foldl_longer entries first)

theorem foldl_longer_eq_self {extensions : List (String × String)} {best : String × String}
    (h : ∀ e ∈ extensions, e.1.utf8ByteSize ≤ best.1.utf8ByteSize) :
    extensions.foldl longer (some best) = some best := by
  induction extensions with
  | nil => rfl
  | cons e extensions ih =>
    obtain ⟨he, hrest⟩ := List.forall_mem_cons.1 h
    have hstays : longer (some best) e = some best := if_neg (Nat.not_lt.2 he)
    rw [List.foldl_cons, hstays, ih hrest]

theorem foldl_longer_again {extensions extensions' : List (String × String)}
    (h : Repeated extensions extensions') :
    extensions'.foldl longer none = extensions.foldl longer none := by
  obtain ⟨before, after, hagain⟩ := h
  obtain ⟨rfl, -⟩ | ⟨best, hbest, hlongest⟩ := longest_cases before
  · rw [List.subset_nil.1 hagain, List.nil_append]
  · have hstays := foldl_longer_eq_self fun e he => hlongest.le e (hagain he)
    simp only [List.foldl_append, hbest, hstays]

def listing (r : Registry) (roots : List Path) (languages : List Language) : Registry :=
  { r with roots := roots, languages := languages }

variable {r : Registry} {languages : List Language}

theorem scopeOfName?_listing (h : Repeated r.languages languages) (roots : List Path)
    (name : String) : (r.listing roots languages).scopeOfName? name = r.scopeOfName? name := by
  have hscopeOf : (r.listing roots languages).scopeOf = r.scopeOf := rfl
  have hlanguages : (r.listing roots languages).languages = languages := rfl
  have hnames := (h.filter fun l => l.filenames.contains name).findSome? r.scopeOf
  have hextensions : Repeated r.extensions (r.listing roots languages).extensions := h.flatMap _
  have hlongest := foldl_longer_again
    (hextensions.filter fun e => endsIn (Unicode.toLower name) e.1)
  simp only [scopeOfName?, hscopeOf, hlanguages, hnames, hlongest]

theorem scopeOfFirstLine?_listing (h : Repeated r.languages languages) (roots : List Path)
    (files : Files) (path : Path) :
    (r.listing roots languages).scopeOfFirstLine? files path = r.scopeOfFirstLine? files path := by
  have hscopeOf : (r.listing roots languages).scopeOf = r.scopeOf := rfl
  have hlanguages : (r.listing roots languages).languages = languages := rfl
  have hlines := fun line : List Char => (h.filter fun l =>
    l.firstLine.any fun m => (m.search line.toArray 0).isSome).findSome? r.scopeOf
  simp only [scopeOfFirstLine?, hscopeOf, hlanguages, hlines]

theorem ask_listing {roots : List Path}
    (h : ∀ files path, (r.listing roots languages).found? files path = r.found? files path)
    (files : Files) (query : Query) :
    (r.listing roots languages).ask files query =
      ((r.ask files query).1, (r.ask files query).2.listing roots languages) := by
  cases query with
  | scopeName path =>
    have hfound := h files path
    unfold found? at hfound
    have hresolved : (r.listing roots languages).resolved = r.resolved := rfl
    simp only [ask, scopeName, hresolved, hfound]
    cases r.resolved.get? path.components with
    | some scope => rfl
    | none =>
      cases path.fileName?.bind r.scopeOfName? <|> r.scopeOfFirstLine? files path <;> rfl
  | load name =>
    simp only [ask, load]
    have hgrammars : (r.listing roots languages).grammars = r.grammars := rfl
    have hsource : (r.listing roots languages).sourceOf files name = r.sourceOf files name := rfl
    have hlibrary : (r.listing roots languages).library files = r.library files := rfl
    have hengine : (r.listing roots languages).engine = r.engine := rfl
    simp only [hgrammars, hsource, hlibrary, hengine]
    cases r.grammars.get? name with
    | some g => rfl
    | none =>
      cases r.sourceOf files name with
      | error fault => rfl
      | ok source =>
        cases hcompile : Grammar.compile r.engine (r.library files) name with
        | mk result asked => cases result <;> rfl
  | hasGrammar name => rfl

theorem answers_listing {roots : List Path}
    (h : ∀ files path, (r.listing roots languages).found? files path = r.found? files path)
    (queries : List (Files × Query)) :
    (r.listing roots languages).answers queries = r.answers queries := by
  induction queries generalizing r with
  | nil => rfl
  | cons q queries ih =>
    obtain ⟨files, query⟩ := q
    have hnext : ∀ files' path, ((r.ask files query).2.listing roots languages).found? files' path =
        (r.ask files query).2.found? files' path := fun files' path =>
      calc ((r.ask files query).2.listing roots languages).found? files' path
        _ = ((r.ask files query).2.unread.listing roots languages).found? files' path := rfl
        _ = (r.unread.listing roots languages).found? files' path := by rw [ask_unread]
        _ = r.unread.found? files' path := h files' path
        _ = (r.ask files query).2.unread.found? files' path := by rw [ask_unread]
    have hrest := ih hnext
    simp only [answers, ask_listing h, hrest]

theorem new_again (engine : Engine) (files : Files) (order : Arrangement) {before : List Path}
    {root : Path} (hroot : root ∈ before) (after : List Path) : ∃ languages,
      Repeated (new engine files (before ++ after) order).languages languages ∧
        new engine files (before ++ root :: after) order =
          (new engine files (before ++ after) order).listing
            (before ++ root :: after) languages := by
  have hroots : Repeated (before ++ after) (before ++ root :: after) :=
    .intro before after (by simpa using hroot : [root] ⊆ before)
  have hscan : Repeated (scan files (before ++ after)) (scan files (before ++ root :: after)) :=
    hroots.flatMap _
  refine ⟨languagesOf engine (scan files (before ++ root :: after)), ?_, ?_⟩
  · rw [new_eq]
    exact hscan.flatMap _
  · have hnames := (hscan.flatMap fun e => e.2.grammars.filterMap fun g =>
      g.language.map (·, g.scopeName)).putAll {}
    have hpaths := (hscan.flatMap fun e => e.2.grammars.map fun g =>
      (g.scopeName, e.1.join g.path)).putAll {}
    rw [new_eq, new_eq]
    simp only [addAll, listing, grammarNames, grammarPaths, hnames, hpaths, List.nil_append]

theorem new_again_answers (engine : Engine) (files : Files) (order : Arrangement)
    {before : List Path} {root : Path} (hroot : root ∈ before) (after : List Path)
    (queries : List (Files × Query)) :
    (new engine files (before ++ root :: after) order).answers queries =
      (new engine files (before ++ after) order).answers queries := by
  obtain ⟨languages, hlanguages, hnew⟩ := new_again engine files order hroot after
  rw [hnew]
  refine answers_listing (fun files' path => ?_) queries
  simp only [found?, scopeOfFirstLine?_listing hlanguages,
    funext (scopeOfName?_listing hlanguages _)]

/-- For fixed files, a scope name has the grammar file and a language the scope name of its first
contribution, in the order in which extensions are looked at. It does not count in which order
folders are listed; what further roots say of a scope name or language that is known already does
not count either; and with a root that is there once more each query is answered as without it. -/
theorem first_contribution_wins (engine : Engine) (files : Files) (roots : List Path)
    (order : Arrangement) :
    (∃ found, (∀ other, Scanned files roots other ↔ other = found) ∧
      (∀ scope, (new engine files roots order).sources.get? scope =
        (grammarPaths found).lookup scope) ∧
      ∀ id, (new engine files roots order).languageScopes.get? id =
        (grammarNames found).lookup id) ∧
    (∀ relisted, files.Relisted relisted →
      new engine relisted roots order = new engine files roots order) ∧
    (∀ more,
      (∀ scope path, (new engine files roots order).sources.get? scope = some path →
        (new engine files (roots ++ more) order).sources.get? scope = some path) ∧
      ∀ id scope, (new engine files roots order).languageScopes.get? id = some scope →
        (new engine files (roots ++ more) order).languageScopes.get? id = some scope) ∧
    ∀ before root after, roots = before ++ after → root ∈ before → ∀ queries,
      (new engine files (before ++ root :: after) order).answers queries =
        (new engine files roots order).answers queries := by
  refine ⟨⟨scan files roots, fun other => scanned_iff, new_sources engine files roots order,
    new_languageScopes engine files roots order⟩, ?_, ?_, ?_⟩
  · intro relisted h
    rw [new_eq, new_eq, scan_relisted h]
  · intro more
    exact ⟨fun scope path h => new_sources_append h more,
      fun id scope h => new_languageScopes_append h more⟩
  · rintro before root after rfl hroot queries
    exact new_again_answers engine files order hroot after queries

theorem scan_two : scan ⟨[("f", Sample.extension), ("e", Sample.extension)], []⟩ [⟨"."⟩] =
    [⟨"./e"⟩, ⟨"./f"⟩].filterMap
      (extension? ⟨[("f", Sample.extension), ("e", Sample.extension)], []⟩) := by
  let files : Files := ⟨[("f", Sample.extension), ("e", Sample.extension)], []⟩
  have hnames : ["e", "f"].Perm (files.names ⟨"."⟩) := .swap _ _ _
  have hfolders := Folders.inside (by decide +kernel) hnames (by decide +kernel)
  have hscanned := scanned_iff.1 (.cons hfolders .nil)
  exact hscanned.symm.trans (by decide +kernel)

theorem first_contribution_wins_two :
    let listed : Files := ⟨[("f", Sample.extension), ("e", Sample.extension)], []⟩
    let relisted : Files := ⟨[("e", Sample.extension), ("f", Sample.extension)], []⟩
    let index := new Sample.engine listed
    new Sample.engine relisted [⟨"."⟩] = index [⟨"."⟩] ∧
    (index [⟨"."⟩, ⟨"f"⟩]).sources.get? "source.k" = some ⟨"./e/g.json"⟩ ∧
    (index [⟨"."⟩, ⟨"f"⟩]).languageScopes.get? "k" = some "source.k" ∧
    ∀ queries,
      (index [⟨"."⟩, ⟨"f"⟩, ⟨"."⟩]).answers queries = (index [⟨"."⟩, ⟨"f"⟩]).answers queries := by
  intro listed relisted index
  have hrelisted : listed.Relisted relisted :=
    ⟨.of_perm (by decide) (.swap _ _ _), rfl⟩
  have hsource : (index [⟨"."⟩]).sources.get? "source.k" = some ⟨"./e/g.json"⟩ := by
    rw [new_sources, scan_two]
    decide +kernel
  have hlanguage : (index [⟨"."⟩]).languageScopes.get? "k" = some "source.k" := by
    rw [new_languageScopes, scan_two]
    decide +kernel
  obtain ⟨-, hlisting, hmore, -⟩ := first_contribution_wins Sample.engine listed [⟨"."⟩] .written
  obtain ⟨-, -, -, hagain⟩ := first_contribution_wins Sample.engine listed [⟨"."⟩, ⟨"f"⟩] .written
  obtain ⟨hsources, hlanguages⟩ := hmore [⟨"f"⟩]
  exact ⟨hlisting relisted hrelisted, hsources _ _ hsource, hlanguages _ _ hlanguage,
    hagain [⟨"."⟩, ⟨"f"⟩] ⟨"."⟩ [] rfl (by simp)⟩

end Registry

end Highlighting
