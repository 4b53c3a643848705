import Highlighting.Proofs.Files
import Highlighting.Registry.Basic
import Mathlib.Data.List.Basic

/-! What a new registry knows of grammars, put together from what extensions contribute. -/
namespace Highlighting

namespace Table
variable {κ ν : Type} [BEq κ]

/-- Puts the entries whose keys have no value yet, of some with one key the first. -/
def putAll (t : Table κ ν) (entries : List (κ × ν)) : Table κ ν :=
  entries.foldl (fun t e => t.putNew e.1 e.2) t

@[simp] theorem putAll_nil (t : Table κ ν) : t.putAll [] = t := rfl

theorem putAll_cons (t : Table κ ν) (e : κ × ν) (entries : List (κ × ν)) :
    t.putAll (e :: entries) = (t.putNew e.1 e.2).putAll entries := rfl

theorem putAll_append (t : Table κ ν) (first second : List (κ × ν)) :
    t.putAll (first ++ second) = (t.putAll first).putAll second :=
  List.foldl_append

theorem putAll_eq_self {t : Table κ ν} {entries : List (κ × ν)}
    (h : ∀ e ∈ entries, t.contains e.1 = true) : t.putAll entries = t := by
  induction entries with
  | nil => rfl
  | cons e entries ih =>
    obtain ⟨he, hrest⟩ := List.forall_mem_cons.1 h
    rw [putAll_cons, putNew, if_pos he, ih hrest]

variable [LawfulBEq κ]

theorem get?_putNew (t : Table κ ν) (key : κ) (value : ν) (other : κ) :
    (t.putNew key value).get? other = (t.get? other).or ([(key, value)].lookup other) := by
  by_cases h : other = key
  · subst h
    cases hkey : t.get? other with
    | some old => simp [putNew, contains, hkey]
    | none => simp [putNew, contains, hkey]
  · have hother : [(key, value)].lookup other = none := by simpa using h
    rw [hother, Option.or_none, putNew]
    split
    · rfl
    · exact get?_put_of_ne t value h

theorem get?_putAll (t : Table κ ν) (entries : List (κ × ν)) (key : κ) :
    (t.putAll entries).get? key = (t.get? key).or (entries.lookup key) := by
  induction entries generalizing t with
  | nil => simp
  | cons e entries ih =>
    rw [putAll_cons, ih, get?_putNew, Option.or_assoc, ← List.lookup_append]
    rfl

end Table

namespace Registry

inductive Folders (files : Files) (root : Path) : List Path → Prop
  | root : files.isFile (root.child manifestName) = true → Folders files root [root]
  | inside {names : List String} : files.isFile (root.child manifestName) = false →
      names.Perm (files.names root) → names.Pairwise (· ≤ ·) →
      Folders files root
        ((names.map root.child).filter fun folder => files.isFile (folder.child manifestName))

/-- An extension, if its manifest can be read. -/
def extension? (files : Files) (folder : Path) : Option (Path × Manifest) :=
  (manifest? files folder).map (folder, ·)

/-- The extensions below some roots, in the order in which they are looked at. -/
inductive Scanned (files : Files) : List Path → List (Path × Manifest) → Prop
  | nil : Scanned files [] []
  | cons {root : Path} {roots folders : List Path} {found : List (Path × Manifest)} :
      Folders files root folders → Scanned files roots found →
      Scanned files (root :: roots) (folders.filterMap (extension? files) ++ found)

theorem folders_iff {files : Files} {root : Path} {folders : List Path} :
    Folders files root folders ↔ folders = extensionFolders files root := by
  have hperm := List.mergeSort_perm (files.names root) fun a b => !decide (b < a)
  have hsorted : ((files.names root).mergeSort fun a b => !decide (b < a)).Pairwise (· ≤ ·) := by
    refine (List.pairwise_mergeSort ?_ ?_ _).imp ?_
    · intro a b c hab hbc
      simp only [Bool.not_eq_true', decide_eq_false_iff_not, String.not_lt] at hab hbc ⊢
      exact String.le_trans hab hbc
    · intro a b
      simp only [Bool.or_eq_true, Bool.not_eq_true', decide_eq_false_iff_not, String.not_lt]
      exact String.le_total a b
    · intro a b hab
      simpa only [Bool.not_eq_true', decide_eq_false_iff_not, String.not_lt] using hab
  simp only [extensionFolders]
  constructor
  · intro h
    cases h with
    | root hroot => rw [if_pos hroot]
    | @inside names hroot hnames hpairwise =>
      have heq := (hnames.trans hperm.symm).eq_of_pairwise
        (fun a b _ _ hab hba => String.le_antisymm hab hba) hpairwise hsorted
      simp only [hroot, Bool.false_eq_true, if_false, heq]
  · rintro rfl
    by_cases hroot : files.isFile (root.child manifestName) = true
    · rw [if_pos hroot]
      exact .root hroot
    · rw [if_neg hroot]
      exact .inside (by simpa using hroot) hperm hsorted

def scan (files : Files) (roots : List Path) : List (Path × Manifest) :=
  roots.flatMap fun root => (extensionFolders files root).filterMap (extension? files)

theorem scanned_iff {files : Files} {roots : List Path} {found : List (Path × Manifest)} :
    Scanned files roots found ↔ found = scan files roots := by
  constructor
  · intro h
    induction h with
    | nil => rfl
    | cons hfolders hrest ih => rw [ih, folders_iff.1 hfolders]; rfl
  · rintro rfl
    induction roots with
    | nil => exact .nil
    | cons root roots ih => exact .cons (folders_iff.2 rfl) ih

def grammarPaths (found : List (Path × Manifest)) : List (String × Path) :=
  found.flatMap fun e => e.2.grammars.map fun g => (g.scopeName, e.1.join g.path)

def grammarNames (found : List (Path × Manifest)) : List (String × String) :=
  found.flatMap fun e => e.2.grammars.filterMap fun g => g.language.map (·, g.scopeName)

def languagesOf (engine : Engine) (found : List (Path × Manifest)) : List Language :=
  found.flatMap fun e => e.2.languages.map (ofEntry engine)

def addAll (r : Registry) (found : List (Path × Manifest)) : Registry :=
  { r with
    languages := r.languages ++ languagesOf r.engine found
    languageScopes := r.languageScopes.putAll (grammarNames found)
    sources := r.sources.putAll (grammarPaths found) }

theorem addAll_append (r : Registry) (first second : List (Path × Manifest)) :
    r.addAll (first ++ second) = (r.addAll first).addAll second := by
  simp [addAll, languagesOf, grammarNames, grammarPaths, Table.putAll_append]

theorem addAll_nil (r : Registry) : r.addAll [] = r := by
  simp [addAll, languagesOf, grammarNames, grammarPaths]

theorem add_eq (r : Registry) (folder : Path) (m : Manifest) :
    r.add folder m = r.addAll [(folder, m)] := by
  obtain ⟨languages, grammars⟩ := m
  suffices h : ∀ r : Registry, grammars.foldl
      (fun r e =>
        { r with
          languageScopes := e.language.elim r.languageScopes fun language =>
            r.languageScopes.putNew language e.scopeName
          sources := r.sources.putNew e.scopeName (folder.join e.path) }) r =
      r.addAll [(folder, ⟨[], grammars⟩)] by
    rw [add, h]
    simp [addAll, languagesOf, grammarNames, grammarPaths]
  induction grammars with
  | nil => intro r; simp [addAll, languagesOf, grammarNames, grammarPaths]
  | cons e grammars ih =>
    intro r
    rw [List.foldl_cons, ih]
    cases hlanguage : e.language with
    | none =>
      simp [addAll, languagesOf, grammarNames, grammarPaths, hlanguage, Table.putAll_cons]
    | some language =>
      simp [addAll, languagesOf, grammarNames, grammarPaths, hlanguage, Table.putAll_cons]

theorem addRoot_eq (files : Files) (r : Registry) (root : Path) :
    addRoot files r root = r.addAll (scan files [root]) := by
  rw [addRoot, scan, List.flatMap_singleton]
  generalize extensionFolders files root = folders
  induction folders generalizing r with
  | nil => exact (addAll_nil r).symm
  | cons folder folders ih =>
    rw [List.foldl_cons, ih]
    cases hm : manifest? files folder with
    | none => simp [extension?, hm]
    | some m =>
      have hadd := addAll_append r [(folder, m)]
      simp [extension?, hm, add_eq, ← hadd]

theorem new_eq (engine : Engine) (files : Files) (roots : List Path) (order : Arrangement) :
    new engine files roots order =
      addAll { engine := engine, roots := roots, order := order } (scan files roots) := by
  suffices h : ∀ r : Registry, roots.foldl (addRoot files) r = r.addAll (scan files roots) from h _
  induction roots with
  | nil => exact fun r => (addAll_nil r).symm
  | cons root roots ih =>
    intro r
    rw [List.foldl_cons, ih, addRoot_eq, ← addAll_append]
    simp [scan]

theorem new_engine (engine : Engine) (files : Files) (roots : List Path) (order : Arrangement) :
    (new engine files roots order).engine = engine := by
  rw [new_eq]
  rfl

theorem new_order (engine : Engine) (files : Files) (roots : List Path) (order : Arrangement) :
    (new engine files roots order).order = order := by
  rw [new_eq]
  rfl

theorem scan_append (files : Files) (roots more : List Path) :
    scan files (roots ++ more) = scan files roots ++ scan files more := by
  simp [scan]

/-- How folders are listed does not count. -/
theorem scan_relisted {files relisted : Files} (h : files.Relisted relisted) (roots : List Path) :
    scan relisted roots = scan files roots := by
  have hcontent : ∀ p, relisted.content? p = files.content? p := fun p => (h.content? p).symm
  have hfolders : ∀ root, extensionFolders relisted root = extensionFolders files root := by
    intro root
    have hscanned := folders_iff.2 (rfl : extensionFolders files root = _)
    refine (folders_iff.1 ?_).symm
    generalize extensionFolders files root = folders at hscanned
    have hfile : ∀ p, files.isFile p = relisted.isFile p := by simp [Files.isFile, hcontent]
    cases hscanned with
    | root hroot => exact .root ((hfile _).symm.trans hroot)
    | inside hroot hnames hsorted =>
      simp only [hfile] at hroot ⊢
      exact .inside hroot (hnames.trans (h.names root)) hsorted
  have hextension : extension? relisted = extension? files := by
    funext folder
    simp [extension?, manifest?, Files.text?, hcontent]
  simp [scan, hfolders, hextension]

theorem new_sources (engine : Engine) (files : Files) (roots : List Path) (order : Arrangement)
    (scope : String) :
    (new engine files roots order).sources.get? scope =
      (grammarPaths (scan files roots)).lookup scope := by
  rw [new_eq, addAll, Table.get?_putAll]
  rfl

theorem new_languageScopes (engine : Engine) (files : Files) (roots : List Path)
    (order : Arrangement) (id : String) :
    (new engine files roots order).languageScopes.get? id =
      (grammarNames (scan files roots)).lookup id := by
  rw [new_eq, addAll, Table.get?_putAll]
  rfl

theorem new_sources_append {engine : Engine} {files : Files} {roots : List Path}
    {order : Arrangement} {scope : String} {path : Path}
    (h : (new engine files roots order).sources.get? scope = some path)
    (more : List Path) :
    (new engine files (roots ++ more) order).sources.get? scope = some path := by
  rw [new_sources] at h ⊢
  rw [scan_append, grammarPaths, List.flatMap_append, List.lookup_append]
  exact Option.or_eq_some_iff.2 (.inl h)

theorem new_languageScopes_append {engine : Engine} {files : Files} {roots : List Path}
    {order : Arrangement} {id scope : String}
    (h : (new engine files roots order).languageScopes.get? id = some scope) (more : List Path) :
    (new engine files (roots ++ more) order).languageScopes.get? id = some scope := by
  rw [new_languageScopes] at h ⊢
  rw [scan_append, grammarNames, List.flatMap_append, List.lookup_append]
  exact Option.or_eq_some_iff.2 (.inl h)

end Registry

end Highlighting
