/-! Finite maps as association lists without repeated keys. -/
namespace Highlighting

structure Table (κ ν : Type) where
  entries : List (κ × ν) := []
  deriving Repr, Inhabited

namespace Table

variable {κ ν : Type} [BEq κ]

def empty : Table κ ν := ⟨[]⟩

def get? (t : Table κ ν) (key : κ) : Option ν := t.entries.lookup key

def contains (t : Table κ ν) (key : κ) : Bool := (t.get? key).isSome

def erase (t : Table κ ν) (key : κ) : Table κ ν := ⟨t.entries.filter fun e => !(e.1 == key)⟩

def put (t : Table κ ν) (key : κ) (value : ν) : Table κ ν :=
  ⟨(key, value) :: (t.erase key).entries⟩

def putNew (t : Table κ ν) (key : κ) (value : ν) : Table κ ν :=
  if t.contains key then t else t.put key value

/-- The table of entries of which later ones replace earlier ones. -/
def ofList (entries : List (κ × ν)) : Table κ ν :=
  entries.foldl (fun t e => t.put e.1 e.2) empty

@[simp] theorem get?_empty (key : κ) : (empty : Table κ ν).get? key = none := rfl

variable [LawfulBEq κ]

theorem lookup_filter_self (key : κ) (entries : List (κ × ν)) :
    (entries.filter fun e => !(e.1 == key)).lookup key = none := by
  induction entries with
  | nil => rfl
  | cons e rest ih =>
    obtain ⟨k, v⟩ := e
    by_cases h : k = key
    · simp [h, ih]
    · have : (key == k) = false := by simpa using fun e => h e.symm
      simp [h, List.lookup_cons, this, ih]

theorem lookup_filter_of_ne {key other : κ} (h : other ≠ key) (entries : List (κ × ν)) :
    (entries.filter fun e => !(e.1 == key)).lookup other = entries.lookup other := by
  induction entries with
  | nil => rfl
  | cons e rest ih =>
    obtain ⟨k, v⟩ := e
    by_cases hk : k = key
    · have : (other == key) = false := by simpa using h
      simp [hk, List.lookup_cons, ih, this]
    · simp [hk, List.lookup_cons, ih]

@[simp] theorem get?_put_self (t : Table κ ν) (key : κ) (value : ν) :
    (t.put key value).get? key = some value := by
  simp [put, get?]

theorem get?_put_of_ne (t : Table κ ν) {key other : κ} (value : ν) (h : other ≠ key) :
    (t.put key value).get? other = t.get? other := by
  have : (other == key) = false := by simpa using h
  simp [put, get?, List.lookup_cons, this, erase, lookup_filter_of_ne h]

@[simp] theorem get?_erase_self (t : Table κ ν) (key : κ) : (t.erase key).get? key = none :=
  lookup_filter_self key t.entries

theorem get?_erase_of_ne (t : Table κ ν) {key other : κ} (h : other ≠ key) :
    (t.erase key).get? other = t.get? other :=
  lookup_filter_of_ne h t.entries

end Table

end Highlighting
