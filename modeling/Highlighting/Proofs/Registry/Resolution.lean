import Highlighting.Proofs.Registry.Loading
import Mathlib.Data.List.Basic

/-!
Paths that have been looked up. What is kept of them goes by their components, and two ways to write
a path that is there lead to the same place; so nothing that is kept shows in a later answer.
-/
namespace Highlighting

namespace Path

def Component.part? : Component → Option String
  | .root | .here => none
  | .up => some ".."
  | .name s => some s

theorem part?_component? (part : String) :
    (component? part).bind Component.part? = if isIdle part then none else some part := by
  unfold component?
  by_cases hidle : isIdle part = true
  · rw [if_pos hidle, if_pos hidle]
    rfl
  · rw [if_neg hidle, if_neg hidle]
    by_cases hup : part = ".."
    · rw [if_pos hup, hup]
      rfl
    · rw [if_neg hup]
      rfl

theorem filterMap_components (p : Path) :
    p.components.filterMap Component.part? = p.parts.filter fun part => !isIdle part := by
  have hfront : ∀ front : List Component, (∀ c ∈ front, c.part? = none) →
      (front ++ p.parts.filterMap component?).filterMap Component.part? =
        p.parts.filter fun part => !isIdle part := by
    intro front hnone
    rw [List.filterMap_append, List.filterMap_eq_nil_iff.2 hnone, List.nil_append,
      List.filterMap_filterMap]
    simp only [part?_component?]
    rw [← List.filterMap_eq_filter]
    refine List.filterMap_congr fun part _ => ?_
    cases hidle : isIdle part <;> simp [Option.guard, hidle]
  unfold components
  apply hfront
  split
  · simp [Component.part?]
  split
  · simp [Component.part?]
  · simp

theorem root_mem_components (p : Path) : .root ∈ p.components ↔ p.isRooted = true := by
  have hparts : Component.root ∉ p.parts.filterMap component? := by
    intro hm
    obtain ⟨part, -, hc⟩ := List.mem_filterMap.1 hm
    unfold component? at hc
    split at hc
    · cases hc
    split at hc <;> cases hc
  unfold components
  rw [List.mem_append, or_iff_left hparts]
  split
  · next h => simp [h]
  split
  · next h _ => simp [h]
  · next h _ => simp [h]

end Path

theorem Place.foldlM_filter {parts : List String} {place place' : Place}
    (h : parts.foldlM step place = some place') :
    (parts.filter fun part => !Path.isIdle part).foldlM step place = some place' := by
  induction parts generalizing place with
  | nil => exact h
  | cons part parts ih =>
    rw [List.foldlM_cons] at h
    obtain ⟨next, hnext, hrest⟩ := Option.bind_eq_some_iff.1 h
    cases hidle : Path.isIdle part with
    | true =>
      rw [List.filter_cons_of_neg (by simp [hidle])]
      have hsame : next = place := by
        unfold step at hnext
        split at hnext
        · cases hnext
        · rw [if_pos hidle] at hnext
          exact (Option.some.inj hnext).symm
      rw [hsame] at hrest
      exact ih hrest
    | false =>
      rw [List.filter_cons_of_pos (by simp [hidle]), List.foldlM_cons, hnext]
      exact ih hrest

namespace Files
variable {files : Files} {p q : Path}

theorem place?_eq (hp : files.exists? p = true) (hq : files.exists? q = true)
    (h : p.components = q.components) : files.place? p = files.place? q := by
  have hway : ∀ {p : Path} {place : Place}, files.place? p = some place →
      (((if p.isRooted then [] else files.workingFolder).filter fun part =>
        !Path.isIdle part) ++ p.components.filterMap Path.Component.part?).foldlM Place.step
          ⟨.folder files.entries, []⟩ = some place := by
    intro p place hplace
    unfold place? at hplace
    split at hplace
    · cases hplace
    · rw [Path.filterMap_components, ← List.filter_append]
      refine Place.foldlM_filter ?_
      split at hplace
      · next hrooted => rwa [if_pos hrooted]
      · next hrooted => rwa [if_neg hrooted]
  obtain ⟨place, hplace⟩ := Option.isSome_iff_exists.1 hp
  obtain ⟨place', hplace'⟩ := Option.isSome_iff_exists.1 hq
  have hrooted : p.isRooted = q.isRooted := by
    rw [Bool.eq_iff_iff, ← Path.root_mem_components, ← Path.root_mem_components, h]
  have hone := hway hplace
  rw [h, hrooted, hway hplace'] at hone
  rw [hplace, hplace', hone]

theorem content?_eq (hp : files.exists? p = true) (hq : files.exists? q = true)
    (h : p.components = q.components) : files.content? p = files.content? q := by
  rw [content?, place?_eq hp hq h]
  rfl

end Files

namespace Registry
variable {files : Files} {r : Registry} {path : Path}

/-- The scope name that a path is found to have, by its name or its first line. -/
def found? (files : Files) (r : Registry) (path : Path) : Option String :=
  path.fileName?.bind r.scopeOfName? <|> r.scopeOfFirstLine? files path

theorem found?_unread (files : Files) (r : Registry) (path : Path) :
    r.unread.found? files path = r.found? files path := rfl

theorem found?_eq {p q : Path} (hp : files.exists? p = true) (hq : files.exists? q = true)
    (h : p.components = q.components) : r.found? files p = r.found? files q := by
  unfold found? Path.fileName? scopeOfFirstLine?
  rw [h, Files.content?_eq hp hq h]

theorem unread_resolved (r : Registry) (path : Path) :
    r.unread.resolved.get? path.components = none := rfl

theorem scopeName_cases (files : Files) (r : Registry) (path : Path) :
    (∃ scope, r.resolved.get? path.components = some scope ∧
      r.scopeName files path = (.ok scope, r)) ∨
    r.resolved.get? path.components = none ∧
      ((∃ scope, r.found? files path = some scope ∧ r.scopeName files path =
          (.ok scope, { r with resolved := r.resolved.put path.components scope })) ∨
        r.found? files path = none ∧
          r.scopeName files path = (.error (.grammarNotFound path), r)) := by
  unfold found? scopeName
  cases r.resolved.get? path.components with
  | some scope => exact .inl ⟨scope, rfl, rfl⟩
  | none =>
    refine .inr ⟨rfl, ?_⟩
    cases path.fileName?.bind r.scopeOfName? <|> r.scopeOfFirstLine? files path with
    | some scope => exact .inl ⟨scope, rfl, rfl⟩
    | none => exact .inr ⟨rfl, rfl⟩

theorem scopeName_eq_found (h : r.resolved.get? path.components = none) (files : Files) :
    (r.scopeName files path).1 =
      (r.found? files path).elim (.error (.grammarNotFound path)) .ok := by
  unfold scopeName found?
  rw [h]
  cases path.fileName?.bind r.scopeOfName? <|> r.scopeOfFirstLine? files path <;> rfl

theorem scopeName_of_unresolved (h : r.resolved.get? path.components = none) (files : Files) :
    (r.scopeName files path).1 = (r.unread.scopeName files path).1 := by
  rw [scopeName_eq_found h, scopeName_eq_found (unread_resolved r path), found?_unread]

def ResolvesOn (P : Path → Prop) (files : Files) (r : Registry) : Prop :=
  ∀ path scope, P path → r.resolved.get? path.components = some scope →
    r.found? files path = some scope

theorem ResolvesOn.scopeName_fst {P : Path → Prop} (h : r.ResolvesOn P files) (hpath : P path) :
    (r.scopeName files path).1 = (r.unread.scopeName files path).1 := by
  cases hr : r.resolved.get? path.components with
  | none => exact scopeName_of_unresolved hr files
  | some scope =>
    rw [scopeName_of_resolved hr, scopeName_eq_found (unread_resolved r path), found?_unread,
      h path scope hpath hr]
    rfl

theorem ResolvesOn.scopeName {P : Path → Prop} (h : r.ResolvesOn P files)
    (hsame : ∀ other, P other → other.components = path.components →
      r.found? files other = r.found? files path) :
    (r.scopeName files path).2.ResolvesOn P files := by
  obtain ⟨scope, -, hs⟩ | ⟨-, ⟨scope, hf, hs⟩ | ⟨-, hs⟩⟩ := scopeName_cases files r path
  · rwa [hs]
  · rw [hs]
    intro other scope' hother hr
    by_cases hc : other.components = path.components
    · dsimp only at hr
      rw [hc, Table.get?_put_self] at hr
      cases hr
      exact (hsame other hother hc).trans hf
    · exact h other scope' hother ((Table.get?_put_of_ne _ _ hc).symm.trans hr)
  · rwa [hs]

theorem ResolvesOn.load {P : Path → Prop} (h : r.ResolvesOn P files) (name : String) :
    (r.load files name).2.ResolvesOn P files := by
  intro path scope hpath hr
  rw [load_resolved] at hr
  rw [← found?_unread, load_unread, found?_unread]
  exact h path scope hpath hr

/-- What is kept of paths that are there is what they are found to have. -/
def Resolves (files : Files) (r : Registry) : Prop :=
  ∀ path scope, files.exists? path = true → r.resolved.get? path.components = some scope →
    r.found? files path = some scope

theorem Resolves.scopeName_fst (h : r.Resolves files) (hpath : files.exists? path = true) :
    (r.scopeName files path).1 = (r.unread.scopeName files path).1 :=
  ResolvesOn.scopeName_fst h hpath

theorem Resolves.scopeName (h : r.Resolves files) (hpath : files.exists? path = true) :
    (r.scopeName files path).2.Resolves files :=
  ResolvesOn.scopeName h fun _ hother hc => found?_eq hother hpath hc

theorem Resolves.load (h : r.Resolves files) (name : String) :
    (r.load files name).2.Resolves files :=
  ResolvesOn.load h name

theorem new_resolved (engine : Engine) (files : Files) (roots : List Path) (order : Arrangement) :
    (new engine files roots order).resolved = {} := by
  have hfold : ∀ {α : Type} {step : Registry → α → Registry} (items : List α) (r : Registry),
      (∀ r item, (step r item).resolved = r.resolved) →
        (items.foldl step r).resolved = r.resolved := by
    intro α step items r hstep
    induction items generalizing r with
    | nil => rfl
    | cons item items ih => exact (ih _).trans (hstep r item)
  refine hfold roots _ fun r root => hfold _ r fun r folder => ?_
  cases manifest? files folder with
  | none => rfl
  | some m => exact hfold m.grammars _ fun _ _ => rfl

/-- What is kept of files and of paths shows in no answer. -/
structure Fits (files : Files) (r : Registry) : Prop where
  faithful : r.Faithful files
  resolves : r.Resolves files

theorem Fits.scopeName (h : r.Fits files) {path : Path} (hpath : files.exists? path = true) :
    (r.scopeName files path).2.Fits files :=
  ⟨h.faithful.scopeName path, h.resolves.scopeName hpath⟩

theorem Fits.load (h : r.Fits files) (name : String) : (r.load files name).2.Fits files :=
  ⟨h.faithful.load name, h.resolves.load name⟩

end Registry

end Highlighting
