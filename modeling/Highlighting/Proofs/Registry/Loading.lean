import Highlighting.Registry.Basic

/-!
What a registry keeps of files does not show in the grammars that it gives, as long as the files
stay as they are.
-/
namespace Highlighting

namespace Unicode

theorem lowerChar_of_mapCase {c : Char} (hdot : c.toNat ≠ 0x130)
    (h : mapCase lowerRuns c.toNat = none) : lowerChar c = [c] := by
  rw [lowerChar, if_neg hdot, h]

theorem lowerFrom_eq_self {text : List Char}
    (h : ∀ c ∈ text, c.toNat ≠ 0x3A3 ∧ lowerChar c = [c]) (before : List Char) :
    lowerFrom before text = text := by
  induction text generalizing before with
  | nil => rfl
  | cons c rest ih =>
    obtain ⟨⟨hsigma, hc⟩, hrest⟩ := List.forall_mem_cons.1 h
    rw [lowerFrom, if_neg hsigma, hc, ih hrest]
    rfl

end Unicode

theorem GrammarSource.ofFile_json {files : Files} {path : Path} {text : List Char} {name : String}
    {source : GrammarSource} (htext : files.text? path = some text)
    (hname : Unicode.toLower (path.fileName?.getD "") = name) (hjson : endsIn name ".json" = true)
    (hread : Json.decode? decode text = some source) : ofFile files path = .ok source := by
  simp only [ofFile, htext, hname, hjson, hread, if_true]

namespace Registry

/-- The registry before it looked into a grammar file. -/
def unread (r : Registry) : Registry := { r with read := {}, grammars := {}, resolved := {} }

/-- What is kept of grammar files is what the files give. -/
structure Faithful (files : Files) (r : Registry) : Prop where
  read : ∀ name source, r.read.get? name = some source → r.unread.sourceOf files name = .ok source
  grammars : ∀ name g, r.grammars.get? name = some g → (r.unread.load files name).1 = .ok g

structure Unread (r : Registry) : Prop where
  read : r.read = {}
  grammars : r.grammars = {}

theorem Unread.faithful {r : Registry} (h : r.Unread) (files : Files) : r.Faithful files where
  read name source hr := by rw [h.read] at hr; cases hr
  grammars name g hg := by rw [h.grammars] at hg; cases hg

theorem Unread.add {r : Registry} (h : r.Unread) (folder : Path) (m : Manifest) :
    (r.add folder m).Unread := by
  refine List.foldlRecOn m.grammars _ ⟨h.read, h.grammars⟩ ?_
  intro r h e _
  exact ⟨h.read, h.grammars⟩

theorem Unread.addRoot {r : Registry} (h : r.Unread) (files : Files) (root : Path) :
    (addRoot files r root).Unread := by
  refine List.foldlRecOn (extensionFolders files root) _ h ?_
  intro r h folder _
  rcases hm : manifest? files folder with _ | m
  · simpa only [hm, Option.elim_none] using h
  · simpa only [hm, Option.elim_some] using h.add folder m

theorem new_unread (engine : Engine) (files : Files) (roots : List Path) (order : Arrangement) :
    (new engine files roots order).Unread := by
  refine List.foldlRecOn roots _ ⟨rfl, rfl⟩ ?_
  intro r h root _
  exact h.addRoot files root

variable {files : Files} {r : Registry}

section
variable {name : String} {path : Path} {source : GrammarSource}

theorem Unread.sourceOf_of_entries (h : r.Unread) (hentries : r.sources.entries = [(name, path)])
    (hfile : GrammarSource.ofFile files path = .ok source) :
    r.sourceOf files name = .ok (r.order.arrange name source) := by
  have hread : r.read.get? name = none := by
    rw [h.read]
    rfl
  have hpath : r.sources.get? name = some path := by
    rw [Table.get?, hentries]
    exact List.lookup_cons_self
  simp only [sourceOf, hread, hpath, hfile]
  rfl

theorem Unread.library_of_entries (h : r.Unread) (hentries : r.sources.entries = [(name, path)])
    (hfile : GrammarSource.ofFile files path = .ok source) :
    r.library files = [(name, r.order.arrange name source)] := by
  simp [library, hentries, h.sourceOf_of_entries hentries hfile]

theorem Unread.sourceOf_unknown (h : r.Unread) (hentries : r.sources.entries = [(name, path)])
    {other : String} (hother : other ≠ name) : r.sourceOf files other = .error .unknown := by
  have hread : r.read.get? other = none := by
    rw [h.read]
    rfl
  have hpath : r.sources.get? other = none := by
    rw [Table.get?, hentries]
    simpa using hother
  simp only [sourceOf, hread, hpath]

theorem Unread.load_unknown (h : r.Unread) (hentries : r.sources.entries = [(name, path)])
    {other : String} (hother : other ≠ name) (files : Files) :
    (r.load files other).1 = .error (.grammarLoad other .unknown) := by
  have hgrammars : r.grammars.get? other = none := by
    rw [h.grammars]
    rfl
  rw [load, hgrammars]
  simp only [h.sourceOf_unknown hentries hother]

theorem Unread.load_of_entries (h : r.Unread) {g : Grammar}
    (hentries : r.sources.entries = [(name, path)])
    (hfile : GrammarSource.ofFile files path = .ok source)
    (hg : (Grammar.compile r.engine [(name, r.order.arrange name source)] name).1 = .ok g) :
    (r.load files name).1 = .ok g := by
  have hgrammars : r.grammars.get? name = none := by
    rw [h.grammars]
    rfl
  rw [load, hgrammars, h.sourceOf_of_entries hentries hfile]
  simp only [h.library_of_entries hentries hfile, hg]

end

theorem Faithful.sourceOf (h : r.Faithful files) (name : String) :
    r.sourceOf files name = r.unread.sourceOf files name := by
  cases hr : r.read.get? name with
  | none =>
    rw [Registry.sourceOf, hr]
    rfl
  | some source => rw [h.read name source hr, Registry.sourceOf, hr]

theorem sourceOf_unread (r : Registry) (files : Files) (name : String) :
    r.unread.sourceOf files name = match r.sources.get? name with
      | some path => (GrammarSource.ofFile files path).map (r.order.arrange name)
      | none => .error .unknown := rfl

theorem Faithful.library (h : r.Faithful files) : r.library files = r.unread.library files := by
  unfold Registry.library
  simp only [h.sourceOf]
  rfl

theorem sourceOf_of_lookup_library {name : String} {source : GrammarSource}
    (h : (r.library files).lookup name = some source) : r.sourceOf files name = .ok source := by
  obtain ⟨before, after, hl, -⟩ := List.lookup_eq_some_iff.1 h
  have hm : (name, source) ∈ r.library files := by rw [hl]; simp
  obtain ⟨⟨key, path⟩, -, he⟩ := List.mem_filterMap.1 hm
  dsimp only at he
  split at he
  · next s hs =>
    cases he
    exact hs
  · cases he

/-- A grammar is loaded as if nothing had been read before. -/
theorem Faithful.load_fst (h : r.Faithful files) (name : String) :
    (r.load files name).1 = (r.unread.load files name).1 := by
  cases hg : r.grammars.get? name with
  | some g =>
    rw [h.grammars name g hg, load, hg]
  | none =>
    have hu : r.unread.grammars.get? name = none := rfl
    rw [load, load, hg, hu]
    dsimp only
    rw [← h.sourceOf, ← h.library]
    cases r.sourceOf files name with
    | error fault => rfl
    | ok source =>
      have hengine : r.unread.engine = r.engine := rfl
      rw [hengine]
      cases (Grammar.compile r.engine (r.library files) name).1 <;> rfl

theorem get?_keep {library : Library} {names : List String} {read : Table String GrammarSource}
    {other : String} {source : GrammarSource}
    (h : (keep library names read).get? other = some source) :
    read.get? other = some source ∨ library.lookup other = some source := by
  induction names generalizing read with
  | nil => exact .inl h
  | cons n names ih =>
    change (keep library names ((library.lookup n).elim read (read.put n))).get? other = _ at h
    rcases ih h with h | h
    · cases hn : library.lookup n with
      | none =>
        rw [hn] at h
        exact .inl h
      | some s =>
        rw [hn] at h
        by_cases ho : other = n
        · subst other
          rw [Option.elim, Table.get?_put_self] at h
          exact .inr (hn.trans h)
        · rw [Option.elim, Table.get?_put_of_ne _ _ ho] at h
          exact .inl h
    · exact .inr h

/-- What a load does: it gives a grammar that is there, or it reads files and then either keeps a
new grammar or fails. -/
theorem load_cases (files : Files) (r : Registry) (name : String) :
    (∃ g, r.grammars.get? name = some g ∧ r.load files name = (.ok g, r)) ∨
    r.grammars.get? name = none ∧ ∃ read : Table String GrammarSource,
      (∀ other source, read.get? other = some source →
        r.read.get? other = some source ∨ (r.library files).lookup other = some source) ∧
      ((∃ scopeName fault, r.load files name =
          (.error (.grammarLoad scopeName fault), { r with read := read })) ∨
        ∃ g, r.load files name =
          (.ok g, { r with read := read, grammars := r.grammars.put name g })) := by
  cases hg : r.grammars.get? name with
  | some g => exact .inl ⟨g, rfl, by rw [load, hg]⟩
  | none =>
    refine .inr ⟨rfl, ?_⟩
    cases hs : r.sourceOf files name with
    | error fault =>
      refine ⟨r.read, fun _ _ => .inl, .inl ⟨name, fault, ?_⟩⟩
      rw [load, hg, hs]
    | ok source =>
      rw [load, hg, hs]
      rcases hc : Grammar.compile r.engine (r.library files) name with ⟨fault | g, asked⟩
      · exact ⟨keep (r.library files) (name :: asked) r.read, fun _ _ => get?_keep,
          .inl ⟨source.scopeName, fault, by simp only [hc]⟩⟩
      · exact ⟨keep (r.library files) (name :: asked) r.read, fun _ _ => get?_keep,
          .inr ⟨g, by simp only [hc]⟩⟩

theorem load_unread (files : Files) (r : Registry) (name : String) :
    (r.load files name).2.unread = r.unread := by
  rcases load_cases files r name with ⟨g, -, h⟩ | ⟨-, read, -, ⟨_, _, h⟩ | ⟨g, h⟩⟩ <;>
    rw [h] <;> rfl

theorem load_error {name : String} {failure : Failure}
    (hf : (r.load files name).1 = .error failure) :
    ∃ scopeName fault, failure = .grammarLoad scopeName fault := by
  rcases load_cases files r name with
    ⟨g, -, h⟩ | ⟨-, read, -, ⟨scopeName, fault, h⟩ | ⟨g, h⟩⟩ <;> rw [h] at hf <;> cases hf
  exact ⟨scopeName, fault, rfl⟩

theorem load_grammars_of_get? (files : Files) (name : String) {other : String} {g : Grammar}
    (hg : r.grammars.get? other = some g) :
    (r.load files name).2.grammars.get? other = some g := by
  rcases load_cases files r name with ⟨g, -, h⟩ | ⟨hn, read, -, ⟨_, _, h⟩ | ⟨g, h⟩⟩ <;> rw [h]
  · exact hg
  · exact hg
  · have ho : other ≠ name := by
      rintro rfl
      rw [hn] at hg
      cases hg
    exact (Table.get?_put_of_ne _ _ ho).trans hg

theorem load_of_get? {name : String} {g : Grammar} (hg : r.grammars.get? name = some g)
    (files : Files) : r.load files name = (.ok g, r) := by
  rw [load, hg]

theorem load_grammars_self {name : String} {g : Grammar} (hg : (r.load files name).1 = .ok g) :
    (r.load files name).2.grammars.get? name = some g := by
  rcases load_cases files r name with ⟨g', hn, h⟩ | ⟨-, read, -, ⟨_, _, h⟩ | ⟨g', h⟩⟩ <;>
    rw [h] at hg ⊢ <;> cases hg
  · exact hn
  · exact Table.get?_put_self ..

theorem load_grammars_cases {name other : String} {g : Grammar}
    (hg : (r.load files name).2.grammars.get? other = some g) :
    r.grammars.get? other = some g ∨ other = name ∧ (r.load files name).1 = .ok g := by
  rcases load_cases files r name with ⟨g', -, h⟩ | ⟨-, read, -, ⟨_, _, h⟩ | ⟨g', h⟩⟩ <;>
    rw [h] at hg ⊢
  · exact .inl hg
  · exact .inl hg
  · by_cases ho : other = name
    · subst other
      rw [Table.get?_put_self] at hg
      cases hg
      exact .inr ⟨rfl, rfl⟩
    · rw [Table.get?_put_of_ne _ _ ho] at hg
      exact .inl hg

theorem load_read_cases {name other : String} {source : GrammarSource}
    (hr : (r.load files name).2.read.get? other = some source) :
    r.read.get? other = some source ∨ (r.library files).lookup other = some source := by
  rcases load_cases files r name with ⟨g, -, h⟩ | ⟨-, read, hread, ⟨_, _, h⟩ | ⟨g, h⟩⟩ <;>
    rw [h] at hr
  · exact .inl hr
  · exact hread other source hr
  · exact hread other source hr

theorem Faithful.load (h : r.Faithful files) (name : String) :
    (r.load files name).2.Faithful files where
  read other source hr := by
    rw [load_unread]
    rcases load_read_cases hr with hr | hl
    · exact h.read other source hr
    · rw [← h.sourceOf]
      exact sourceOf_of_lookup_library hl
  grammars other g hg := by
    rw [load_unread]
    rcases load_grammars_cases hg with hg | ⟨rfl, hl⟩
    · exact h.grammars other g hg
    · rw [← h.load_fst, hl]

theorem load_resolved (files : Files) (r : Registry) (name : String) :
    (r.load files name).2.resolved = r.resolved := by
  rcases load_cases files r name with ⟨g, -, h⟩ | ⟨-, read, -, ⟨_, _, h⟩ | ⟨g, h⟩⟩ <;> rw [h]

theorem scopeName_snd (files : Files) (r : Registry) (path : Path) :
    ∃ resolved, (r.scopeName files path).2 = { r with resolved := resolved } := by
  unfold scopeName
  split
  · exact ⟨r.resolved, rfl⟩
  · split
    · exact ⟨_, rfl⟩
    · exact ⟨r.resolved, rfl⟩

theorem scopeName_unread (files : Files) (r : Registry) (path : Path) :
    (r.scopeName files path).2.unread = r.unread := by
  obtain ⟨resolved, h⟩ := scopeName_snd files r path
  rw [h]
  rfl

theorem scopeName_grammars (files : Files) (r : Registry) (path : Path) :
    (r.scopeName files path).2.grammars = r.grammars := by
  obtain ⟨resolved, h⟩ := scopeName_snd files r path
  rw [h]

theorem Faithful.scopeName (h : r.Faithful files) (path : Path) :
    (r.scopeName files path).2.Faithful files := by
  obtain ⟨resolved, hs⟩ := scopeName_snd files r path
  rw [hs]
  exact ⟨h.read, h.grammars⟩

theorem scopeName_error {path : Path} {failure : Failure}
    (h : (r.scopeName files path).1 = .error failure) : failure = .grammarNotFound path := by
  unfold Registry.scopeName at h
  split at h
  · cases h
  · split at h <;> cases h
    rfl

theorem scopeName_resolved {path : Path} {scope : String}
    (h : (r.scopeName files path).1 = .ok scope) :
    (r.scopeName files path).2.resolved.get? path.components = some scope := by
  unfold Registry.scopeName at h ⊢
  split at h
  · next hp =>
    cases h
    rw [hp]
  · split at h <;> cases h
    exact Table.get?_put_self ..

theorem scopeName_of_resolved {path : Path} {scope : String}
    (h : r.resolved.get? path.components = some scope) (files : Files) :
    r.scopeName files path = (.ok scope, r) := by
  rw [Registry.scopeName, h]

theorem scopeName_again {path : Path} {scope : String}
    (h : (r.scopeName files path).1 = .ok scope) {r' : Registry}
    (hr : r'.resolved = (r.scopeName files path).2.resolved) :
    r'.scopeName files path = (.ok scope, r') :=
  scopeName_of_resolved (hr ▸ scopeName_resolved h) files

end Registry

namespace Sample

set_option maxRecDepth 20000 in
theorem mapCase_lowerRuns :
    (['g', '.', 'j', 's', 'o', 'n'].all fun c =>
      (Unicode.mapCase Unicode.lowerRuns c.toNat).isNone) = true := by
  unfold Unicode.mapCase Unicode.lowerRuns Unicode.caseRuns Unicode.tableWords
  rw [String.toList_ofList]
  decide +kernel

theorem toLower_source : Unicode.toLower "g.json" = "g.json" := by
  have htext : "g.json".toList = ['g', '.', 'j', 's', 'o', 'n'] := by simp
  have hsmall : ∀ c ∈ ['g', '.', 'j', 's', 'o', 'n'], c.toNat < 0x80 := by simp
  have hkept : ∀ c ∈ ['g', '.', 'j', 's', 'o', 'n'],
      c.toNat ≠ 0x3A3 ∧ Unicode.lowerChar c = [c] := by
    intro c hc
    have hc' := hsmall c hc
    have hnone := Option.isNone_iff_eq_none.1 (List.all_eq_true.1 mapCase_lowerRuns c hc)
    exact ⟨by omega, Unicode.lowerChar_of_mapCase (by omega) hnone⟩
  rw [Unicode.toLower, htext, Unicode.lowerFrom_eq_self hkept]

end Sample

end Highlighting
