import Highlighting.Path
import Mathlib.Data.List.Basic

/-! Paths as they are written and as they are compared. -/
namespace Highlighting

namespace Unicode
variable {α : Type}

theorem splitAll_ne_nil (sep : α → Bool) (xs : List α) : splitAll sep xs ≠ [] := by
  cases xs with
  | nil => simp [splitAll]
  | cons x rest =>
    rw [splitAll]
    split
    · simp
    · split <;> simp

theorem splitAll_cons_sep (sep : α → Bool) {x : α} (hx : sep x = true) (rest : List α) :
    splitAll sep (x :: rest) = [] :: splitAll sep rest := by
  rw [splitAll]
  split
  · next hnil => exact absurd hnil (splitAll_ne_nil sep rest)
  · next hcons => rw [if_pos hx, hcons]

theorem splitAll_cons (sep : α → Bool) {x : α} (hx : sep x = false) (rest : List α) :
    ∃ word words, splitAll sep rest = word :: words ∧
      splitAll sep (x :: rest) = (x :: word) :: words := by
  obtain ⟨word, words, hrest⟩ := List.exists_cons_of_ne_nil (splitAll_ne_nil sep rest)
  refine ⟨word, words, hrest, ?_⟩
  rw [splitAll, hrest]
  simp [hx]

theorem intercalate_splitAll [BEq α] [LawfulBEq α] (mark : α) (xs : List α) :
    [mark].intercalate (splitAll (· == mark) xs) = xs := by
  induction xs with
  | nil => rfl
  | cons x rest ih =>
    cases hx : x == mark with
    | true =>
      obtain ⟨word, words, hrest⟩ :=
        List.exists_cons_of_ne_nil (splitAll_ne_nil (· == mark) rest)
      rw [splitAll_cons_sep (· == mark) hx, hrest, List.intercalate_cons_cons, ← hrest, ih]
      simp [eq_of_beq hx]
    | false =>
      obtain ⟨word, words, hrest, hall⟩ := splitAll_cons (· == mark) hx rest
      rw [hall]
      rw [hrest] at ih
      cases words with
      | nil => simpa using ih
      | cons next words =>
        rw [List.intercalate_cons_cons] at ih ⊢
        rw [← ih]
        rfl

end Unicode

namespace Path

/-- Nothing stands between two slashes or behind the last one, and no dot but in front. -/
def IsNormal (p : Path) : Prop := p.text = "/" ∨ ∀ part ∈ p.parts.tail, isIdle part = false

instance (p : Path) : Decidable p.IsNormal := inferInstanceAs (Decidable (_ ∨ _))

theorem eq_of_parts {p q : Path} (h : p.parts = q.parts) : p = q := by
  have hsplit : Unicode.splitAll (· == '/') p.text.toList =
      Unicode.splitAll (· == '/') q.text.toList :=
    List.map_injective_iff.2 (fun _ _ => String.ofList_injective) h
  have hjoin := congrArg (List.intercalate ['/']) hsplit
  rw [Unicode.intercalate_splitAll, Unicode.intercalate_splitAll] at hjoin
  obtain ⟨text⟩ := p
  obtain ⟨text'⟩ := q
  exact congrArg Path.mk (String.toList_inj.1 hjoin)

theorem parts_of_isRooted {p : Path} (h : p.isRooted = true) :
    ∃ part rest, p.parts = "" :: part :: rest := by
  unfold isRooted at h
  cases hp : p.text.toList with
  | nil => rw [hp] at h; cases h
  | cons c rest =>
    rw [hp] at h
    have hc : (c == '/') = true := h
    obtain ⟨word, words, hrest⟩ :=
      List.exists_cons_of_ne_nil (Unicode.splitAll_ne_nil (· == '/') rest)
    refine ⟨String.ofList word, words.map String.ofList, ?_⟩
    rw [parts, hp, Unicode.splitAll_cons_sep (· == '/') hc, hrest]
    rfl

theorem parts_of_not_isRooted {p : Path} (h : p.isRooted = false) :
    p.parts = [""] ∨ ∃ part rest, part ≠ "" ∧ p.parts = part :: rest := by
  unfold isRooted at h
  cases hp : p.text.toList with
  | nil => exact .inl (by rw [parts, hp]; rfl)
  | cons c rest =>
    rw [hp] at h
    have hc : (c == '/') = false := h
    obtain ⟨word, words, -, hall⟩ := Unicode.splitAll_cons (· == '/') hc rest
    refine .inr ⟨String.ofList (c :: word), words.map String.ofList, ?_, ?_⟩
    · intro hempty
      simpa using congrArg String.toList hempty
    · rw [parts, hp, hall]
      rfl

def Component.written : Component → String
  | .root => ""
  | .here => "."
  | .up => ".."
  | .name s => s

def written : List Component → List String
  | [] => [""]
  | [.root] => ["", ""]
  | components => components.map Component.written

theorem written_cons {c : Component} (h : c ≠ .root) (rest : List Component) :
    written (c :: rest) = c.written :: rest.map Component.written := by
  cases c with
  | root => exact absurd rfl h
  | here => rfl
  | up => rfl
  | name s => rfl

theorem written_component? {part : String} (h : isIdle part = false) :
    ∃ c, component? part = some c ∧ c.written = part ∧ c ≠ .root := by
  rw [component?, h]
  by_cases hup : part = ".."
  · exact ⟨.up, by simp [hup], hup.symm, nofun⟩
  · exact ⟨.name part, by simp [hup], rfl, nofun⟩

theorem written_filterMap {parts : List String} (h : ∀ part ∈ parts, isIdle part = false) :
    (parts.filterMap component?).map Component.written = parts := by
  induction parts with
  | nil => rfl
  | cons part parts ih =>
    obtain ⟨hpart, hparts⟩ := List.forall_mem_cons.1 h
    obtain ⟨c, hc, hwritten, -⟩ := written_component? hpart
    rw [List.filterMap_cons_some hc, List.map_cons, hwritten, ih hparts]

theorem IsNormal.parts_eq {p : Path} (h : p.IsNormal) : p.parts = written p.components := by
  obtain hroot | h := h
  · obtain ⟨text⟩ := p
    subst hroot
    rfl
  cases hrooted : p.isRooted with
  | true =>
    obtain ⟨part, rest, hparts⟩ := parts_of_isRooted hrooted
    rw [hparts] at h
    obtain ⟨c, hc, -, -⟩ := written_component? (h part List.mem_cons_self)
    have hrest := written_filterMap h
    have hempty : component? "" = none := rfl
    rw [components, hrooted, if_pos rfl, hparts, List.filterMap_cons_none hempty]
    rw [List.tail_cons, List.filterMap_cons_some hc] at hrest
    rw [List.filterMap_cons_some hc, ← hrest]
    rfl
  | false =>
    have hfront : p.components = (if p.parts.head? == some "." then [.here] else []) ++
        p.parts.filterMap component? := by
      rw [components, hrooted]
      rfl
    rw [hfront]
    obtain hparts | ⟨part, rest, hne, hparts⟩ := parts_of_not_isRooted hrooted
    · rw [hparts]
      rfl
    rw [hparts] at h ⊢
    have hrest := written_filterMap h
    rw [List.tail_cons] at hrest
    by_cases hdot : part = "."
    · subst hdot
      have hidle : component? "." = none := rfl
      rw [List.filterMap_cons_none hidle]
      exact congrArg ("." :: ·) hrest.symm
    · have hpart : isIdle part = false := by simp [isIdle, hne, hdot]
      obtain ⟨c, hc, hwritten, hroot⟩ := written_component? hpart
      have hhead : ((part :: rest).head? == some ".") = false := by simpa using hdot
      rw [hhead, List.filterMap_cons_some hc]
      exact (congrArg₂ List.cons hwritten.symm hrest.symm).trans (written_cons hroot _).symm

theorem IsNormal.eq_of_components {p q : Path} (hp : p.IsNormal) (hq : q.IsNormal)
    (h : p.components = q.components) : p = q :=
  eq_of_parts (by rw [hp.parts_eq, h, hq.parts_eq])

end Path

end Highlighting
