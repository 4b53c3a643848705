import Highlighting.Files
import Mathlib.Data.List.Forall2
import Mathlib.Data.List.Nodup

/-! Trees of files that are listed in some other order. Paths lead to the same in both. -/
namespace Highlighting

/-- The same tree, with what a folder holds listed in any order. -/
inductive Entry.Relisted : Entry → Entry → Prop
  | file (content : List UInt8) : Relisted (.file content) (.file content)
  | folder {entries entries' : List (String × Entry)} :
      (entries.map (·.1)).Perm (entries'.map (·.1)) →
      (∀ name entry entry', entries.lookup name = some entry →
        entries'.lookup name = some entry' → Relisted entry entry') →
      Relisted (.folder entries) (.folder entries')

namespace Entry.Relisted
variable {entries entries' : List (String × Entry)}

theorem mem_of_lookup {name : String} {entry : Entry} (h : entries.lookup name = some entry) :
    (name, entry) ∈ entries := by
  obtain ⟨before, after, rfl, -⟩ := List.lookup_eq_some_iff.1 h
  exact List.mem_append_right _ List.mem_cons_self

theorem lookup_eq_none_iff {name : String} :
    entries.lookup name = none ↔ name ∉ entries.map (·.1) := by
  rw [List.lookup_eq_none_iff, List.mem_map]
  constructor
  · rintro h ⟨e, he, rfl⟩
    simpa using h e he
  · intro h e he
    exact bne_iff_ne.2 fun hname => h ⟨e, he, hname.symm⟩

theorem refl : ∀ entry : Entry, Relisted entry entry
  | .file content => .file content
  | .folder entries => .folder (.refl _) fun name entry entry' h h' => by
      obtain rfl : entry = entry' := Option.some.inj (h.symm.trans h')
      have hmem := mem_of_lookup h
      exact refl entry
termination_by entry => entry
decreasing_by
  have := List.sizeOf_lt_of_mem hmem
  simp only [Prod.mk.sizeOf_spec] at this
  simp only [folder.sizeOf_spec]
  omega

theorem of_perm (hnodup : (entries.map (·.1)).Nodup) (hperm : entries.Perm entries') :
    Relisted (.folder entries) (.folder entries') := by
  refine .folder (hperm.map _) fun name entry entry' h h' => ?_
  have hmem := mem_of_lookup h
  have hmem' := hperm.mem_iff.2 (mem_of_lookup h')
  obtain rfl : entry = entry' :=
    congrArg Prod.snd (List.inj_on_of_nodup_map hnodup hmem hmem' rfl)
  exact refl entry

theorem lookup (h : Relisted (.folder entries) (.folder entries')) (name : String) :
    Option.Rel Relisted (entries.lookup name) (entries'.lookup name) := by
  obtain - | ⟨hnames, hentries⟩ := h
  cases he : entries.lookup name with
  | none =>
    have hnone := lookup_eq_none_iff.1 he
    rw [hnames.mem_iff, ← lookup_eq_none_iff] at hnone
    rw [hnone]
    exact .none
  | some entry =>
    cases he' : entries'.lookup name with
    | none =>
      have hnone := lookup_eq_none_iff.1 he'
      rw [← hnames.mem_iff, ← lookup_eq_none_iff, he] at hnone
      cases hnone
    | some entry' => exact .some (hentries name entry entry' he he')

end Entry.Relisted

structure Place.Relisted (place place' : Place) : Prop where
  entry : place.entry.Relisted place'.entry
  holders : List.Forall₂ Entry.Relisted place.holders place'.holders

theorem Place.Relisted.step {place place' : Place} (h : place.Relisted place') (part : String) :
    Option.Rel Relisted (place.step part) (place'.step part) := by
  obtain ⟨entry, holders⟩ := place
  obtain ⟨entry', holders'⟩ := place'
  obtain ⟨hentry, hholders⟩ := h
  cases hentry with
  | file content => exact .none
  | @folder entries entries' hnames hentries =>
    have hfolder : Entry.Relisted (.folder entries) (.folder entries') := .folder hnames hentries
    simp only [Place.step]
    split
    · exact .some ⟨hfolder, hholders⟩
    split
    · cases hholders with
      | nil => exact .some ⟨hfolder, .nil⟩
      | cons hholder hrest => exact .some ⟨hholder, hrest⟩
    · have hinner := hfolder.lookup part
      generalize entries.lookup part = inner, entries'.lookup part = inner' at hinner
      cases hinner with
      | none => exact .none
      | some hinner => exact .some ⟨hinner, .cons hfolder hholders⟩

theorem Place.Relisted.foldlM {place place' : Place} (h : place.Relisted place')
    (parts : List String) :
    Option.Rel Relisted (parts.foldlM Place.step place) (parts.foldlM Place.step place') := by
  induction parts generalizing place place' with
  | nil => exact .some h
  | cons part parts ih =>
    rw [List.foldlM_cons, List.foldlM_cons]
    have hnext := h.step part
    generalize place.step part = next, place'.step part = next' at hnext
    cases hnext with
    | none => exact .none
    | some hnext => exact ih hnext

namespace Files

/-- The same files, with what a folder holds listed in any order. -/
structure Relisted (files files' : Files) : Prop where
  tree : Entry.Relisted (.folder files.entries) (.folder files'.entries)
  workingFolder : files.workingFolder = files'.workingFolder

namespace Relisted
variable {files files' : Files}

theorem place? (h : files.Relisted files') (p : Path) :
    Option.Rel Place.Relisted (files.place? p) (files'.place? p) := by
  unfold Files.place?
  split
  · exact .none
  · rw [h.workingFolder]
    exact Place.Relisted.foldlM ⟨h.tree, .nil⟩ _

theorem content? (h : files.Relisted files') (p : Path) :
    files.content? p = files'.content? p := by
  have hplace := h.place? p
  unfold Files.content?
  generalize files.place? p = place, files'.place? p = place' at hplace
  cases hplace with
  | none => rfl
  | @some place place' hplace =>
    obtain ⟨entry, holders⟩ := place
    obtain ⟨entry', holders'⟩ := place'
    cases hplace.entry with
    | file content => rfl
    | folder hnames hentries => rfl

theorem names (h : files.Relisted files') (p : Path) :
    (files.names p).Perm (files'.names p) := by
  have hplace := h.place? p
  unfold Files.names
  generalize files.place? p = place, files'.place? p = place' at hplace
  cases hplace with
  | none => exact .refl _
  | @some place place' hplace =>
    obtain ⟨entry, holders⟩ := place
    obtain ⟨entry', holders'⟩ := place'
    cases hplace.entry with
    | file content => exact .refl _
    | folder hnames hentries => exact hnames

end Relisted

end Files

end Highlighting
