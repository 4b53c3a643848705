import Highlighting.Proofs.Grammar.CaptureOrder
import Highlighting.Proofs.Registry.Index
import Highlighting.Proofs.Registry.Resolution

/-!
Registries that go through captures in different orders. Where the order does not show in a grammar,
both load the same rules.
-/
namespace Highlighting

/-- Two failures are the same but for what is wrong with a grammar. -/
inductive Failure.Alike : Failure → Failure → Prop
  | refl (failure : Failure) : Alike failure failure
  | grammarLoad (scopeName : String) (fault fault' : GrammarFault) :
    Alike (.grammarLoad scopeName fault) (.grammarLoad scopeName fault')

/-- Both results are values that go together, or failures that are alike. -/
inductive Concur {α : Type} (R : α → α → Prop) : Except Failure α → Except Failure α → Prop
  | ok {a b : α} : R a b → Concur R (.ok a) (.ok b)
  | error {failure failure' : Failure} : failure.Alike failure' →
    Concur R (.error failure) (.error failure')

namespace Registry

def rearranged (r : Registry) (order : Arrangement) : Registry := { r with order := order }

theorem rearranged_sources (r : Registry) (order : Arrangement) :
    (r.rearranged order).sources = r.sources := rfl

/-- The order of captures does not show in the grammar of a scope name. -/
def Orderly (r : Registry) (files : Files) (name : String) : Prop :=
  ∀ source, r.sourceOf files name = .ok source →
    Compile.Steady (r.library files) name ∧ Compile.Parted (r.library files) name

variable {files : Files} {r r' : Registry}

theorem sourceOf_rearranged (r : Registry) (order : Arrangement) (files : Files) (name : String) :
    (∃ fault, r.unread.sourceOf files name = .error fault ∧
      (r.unread.rearranged order).sourceOf files name = .error fault) ∨
    ∃ source source', r.unread.sourceOf files name = .ok source ∧
      (r.unread.rearranged order).sourceOf files name = .ok source' ∧
      source.Reordered source' := by
  have hother : (r.unread.rearranged order).sourceOf files name = _ :=
    sourceOf_unread (r.rearranged order) files name
  rw [sourceOf_unread, hother, rearranged_sources]
  cases r.sources.get? name with
  | none => exact .inl ⟨.unknown, rfl, rfl⟩
  | some path =>
    cases hfile : GrammarSource.ofFile files path with
    | error fault => exact .inl ⟨fault, by simp only [hfile]; rfl, by simp only [hfile]; rfl⟩
    | ok source =>
      refine .inr ⟨_, _, by simp only [hfile]; rfl, by simp only [hfile]; rfl, ?_⟩
      exact (r.order.reordered name source).symm.trans (order.reordered name source)

theorem library_rearranged (r : Registry) (order : Arrangement) (files : Files) :
    Library.Reordered (r.unread.library files) ((r.unread.rearranged order).library files) := by
  intro file
  change Option.Rel GrammarSource.Reordered
    ((r.sources.entries.filterMap _).lookup file) ((r.sources.entries.filterMap _).lookup file)
  induction r.sources.entries with
  | nil => exact .none
  | cons entry entries ih =>
    obtain ⟨fault, h, h'⟩ | ⟨source, source', h, h', hreordered⟩ :=
      sourceOf_rearranged r order files entry.1
    · simpa only [List.filterMap_cons, h, h'] using ih
    · simp only [List.filterMap_cons, h, h', List.lookup_cons]
      split
      · exact .some hreordered
      · exact ih

theorem load_rearranged (r : Registry) (order : Arrangement) {name : String}
    (orderly : r.unread.Orderly files name) :
    Concur Grammar.Resembles (r.unread.load files name).1
      ((r.unread.rearranged order).load files name).1 := by
  have hnone : r.unread.grammars.get? name = none := rfl
  have hnone' : (r.unread.rearranged order).grammars.get? name = none := rfl
  have hengine : (r.unread.rearranged order).engine = r.unread.engine := rfl
  rw [load, load, hnone, hnone', hengine]
  obtain ⟨fault, h, h'⟩ | ⟨source, source', h, h', hreordered⟩ :=
    sourceOf_rearranged r order files name
  · simp only [h, h']
    exact .error (.refl _)
  · obtain ⟨hsteady, hparted⟩ := orderly source h
    simp only [h, h']
    obtain ⟨fault, fault', asked, asked', hc, hc'⟩ | ⟨g, g', asked, asked', hc, hc', hresembles⟩ :=
      Compile.compile_resembles r.unread.engine (library_rearranged r order files) hsteady hparted
    · simp only [hc, hc']
      rw [hreordered.rest]
      exact .error (.grammarLoad _ fault fault')
    · simp only [hc, hc']
      exact .ok hresembles

/-- Two registries know the same files, each with an order of its own, and keep what these give. -/
structure Beside (files : Files) (r r' : Registry) : Prop where
  left : r.Faithful files
  right : r'.Faithful files
  unread : r'.unread = r.unread.rearranged r'.order

theorem beside_of_unread (left : r.Faithful files) (right : r'.Faithful files)
    (h : r.unread = r'.unread) : Beside files r r' where
  left := left
  right := right
  unread := by
    rw [h]
    rfl

theorem Faithful.orderly (h : r.Faithful files) {name : String} :
    r.unread.Orderly files name ↔ r.Orderly files name := by
  rw [Orderly, Orderly, ← h.sourceOf, ← h.library]

theorem Beside.load_fst (h : Beside files r r') {name : String} (orderly : r.Orderly files name) :
    Concur Grammar.Resembles (r.load files name).1 (r'.load files name).1 := by
  rw [h.left.load_fst, h.right.load_fst, h.unread]
  exact load_rearranged r r'.order (h.left.orderly.2 orderly)

theorem Beside.load (h : Beside files r r') (name : String) :
    Beside files (r.load files name).2 (r'.load files name).2 where
  left := h.left.load name
  right := h.right.load name
  unread := by
    have horder := congrArg order (load_unread files r' name)
    rw [load_unread, load_unread, h.unread]
    exact congrArg r.unread.rearranged horder.symm

theorem Beside.sources_eq (h : Beside files r r') : r'.sources = r.sources := by
  have hsources := congrArg sources h.unread
  exact hsources

theorem Beside.found?_eq (h : Beside files r r') (path : Path) :
    r'.found? files path = r.found? files path := by
  rw [← found?_unread, h.unread]
  rfl

theorem Beside.scopeName (h : Beside files r r') (path : Path) :
    Beside files (r.scopeName files path).2 (r'.scopeName files path).2 where
  left := h.left.scopeName path
  right := h.right.scopeName path
  unread := by
    have horder := congrArg order (scopeName_unread files r' path)
    rw [scopeName_unread, scopeName_unread, h.unread]
    exact congrArg r.unread.rearranged horder.symm

/-- A look-up of a path depends on what was found before and on what extensions contribute. -/
theorem Beside.scopeName_eq (h : Beside files r r') (hr : r.resolved = r'.resolved) (path : Path) :
    (r.scopeName files path).1 = (r'.scopeName files path).1 ∧
      (r.scopeName files path).2.resolved = (r'.scopeName files path).2.resolved := by
  have hfound := h.found?_eq path
  unfold found? at hfound
  simp only [Registry.scopeName, hr, hfound]
  cases r'.resolved.get? path.components with
  | some scope => simp [hr]
  | none =>
    cases path.fileName?.bind r.scopeOfName? <|> r.scopeOfFirstLine? files path with
    | some scope => simp
    | none => simp [hr]

theorem unread_new (engine : Engine) (files : Files) (roots : List Path) (order : Arrangement) :
    (new engine files roots order).unread = new engine files roots order := by
  obtain ⟨hread, hgrammars⟩ := new_unread engine files roots order
  have hresolved := new_resolved engine files roots order
  generalize new engine files roots order = r at hread hgrammars hresolved
  obtain ⟨engine, roots, order, languages, scopes, sources, read, grammars, resolved⟩ := r
  subst hread hgrammars hresolved
  rfl

theorem new_rearranged (engine : Engine) (files : Files) (roots : List Path)
    (order order' : Arrangement) :
    (new engine files roots order).rearranged order' = new engine files roots order' := by
  rw [new_eq, new_eq]
  rfl

theorem new_beside (engine : Engine) (atStart files : Files) (roots : List Path)
    (order order' : Arrangement) :
    Beside files (new engine atStart roots order) (new engine atStart roots order') where
  left := (new_unread engine atStart roots order).faithful files
  right := (new_unread engine atStart roots order').faithful files
  unread := by rw [unread_new, unread_new, new_order, new_rearranged]

/-- The registry once it has loaded some grammars and looked up some paths. -/
def keeping (r : Registry) (sources : Table String Path) (grammars : Table String Grammar)
    (resolved : Table (List Path.Component) String) : Registry :=
  { r with sources := sources, read := {}, grammars := grammars, resolved := resolved }

theorem keeping_unread (r : Registry) {sources : Table String Path} (h : r.sources = sources)
    (grammars : Table String Grammar) (resolved : Table (List Path.Component) String) :
    (r.keeping sources grammars resolved).unread = r.unread := by
  subst h
  rfl

theorem keeping_faithful {sources : Table String Path} (h : r.sources = sources)
    {name : String} {g : Grammar} (hload : (r.unread.load files name).1 = .ok g)
    (resolved : Table (List Path.Component) String) :
    (r.keeping sources ⟨[(name, g)]⟩ resolved).Faithful files where
  read name source h := by cases h
  grammars other g' hg := by
    change List.lookup other [(name, g)] = some g' at hg
    rw [List.lookup_cons] at hg
    rw [keeping_unread r h]
    split at hg
    · next heq =>
      cases hg
      rw [beq_iff_eq.1 heq]
      exact hload
    · cases hg

theorem resolves_of_found {files : Files} {r : Registry} {names : List String}
    (hthere : ∀ name ∈ names, files.exists? ⟨name⟩ = true)
    (hfound : ∀ name ∈ names, r.found? files ⟨name⟩ = some "source.t")
    (hresolved : r.resolved = ⟨names.map fun name => ((Path.mk name).components, "source.t")⟩) :
    r.Resolves files := by
  intro path scope hpath hkept
  rw [hresolved] at hkept
  obtain ⟨before, after, hsplit, -⟩ := List.lookup_eq_some_iff.1 hkept
  have hmem : (path.components, scope) ∈
      names.map fun name => ((Path.mk name).components, "source.t") := by
    rw [show names.map _ = _ from hsplit]
    simp
  obtain ⟨name, hname, hentry⟩ := List.mem_map.1 hmem
  obtain ⟨hcomponents, rfl⟩ := Prod.mk.inj hentry
  rw [← hfound name hname]
  exact found?_eq hpath (hthere name hname) hcomponents.symm

end Registry

end Highlighting
