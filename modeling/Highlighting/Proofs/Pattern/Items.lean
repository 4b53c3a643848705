import Highlighting.Grammar.BackReference

/-!
The items of a pattern, as they are told apart from left to right: a character, or a backslash
together with the character behind it.
-/
namespace Highlighting

namespace Pattern

inductive Item
  | plain (c : Char)
  | escaped (c : Char)
  /-- A backslash that nothing follows. -/
  | backslash
  deriving Repr, DecidableEq, Inhabited

def Item.text : Item → List Char
  | .plain c => [c]
  | .escaped c => ['\\', c]
  | .backslash => ['\\']

def items : List Char → List Item
  | '\\' :: c :: rest => .escaped c :: items rest
  | ['\\'] => [.backslash]
  | c :: rest => .plain c :: items rest
  | [] => []

def openings (pattern : List Char) : Nat := (items pattern).count (.plain '(')

variable {pattern rest : List Char} {c : Char}

theorem ne_backslash (hescape : ∀ d more, c = '\\' → rest = d :: more → False)
    (hlast : c = '\\' → rest = [] → False) : c ≠ '\\' := by
  intro hc
  cases rest with
  | nil => exact hlast hc rfl
  | cons d more => exact hescape d more hc rfl

theorem items_cons (h : c ≠ '\\') : items (c :: rest) = .plain c :: items rest := by
  rw [items]
  · intro _ _ hc
    exact absurd hc h
  · intro hc
    exact absurd hc h

@[simp] theorem openings_nil : openings [] = 0 := rfl

@[simp] theorem openings_escaped : openings ('\\' :: c :: rest) = openings rest := by
  simp [openings, items]

@[simp] theorem openings_open : openings ('(' :: rest) = openings rest + 1 := by
  simp [openings, items]

theorem openings_cons (h : c ≠ '\\') (hopen : c ≠ '(') : openings (c :: rest) = openings rest := by
  simp [openings, items_cons h, hopen]

theorem openings_le_cons (h : c ≠ '\\') : openings rest ≤ openings (c :: rest) := by
  by_cases hopen : c = '('
  · simp [hopen]
  · exact Nat.le_of_eq (openings_cons h hopen).symm

/-- Behind a character that is no backslash a new item begins, whatever stands before it. -/
theorem openings_le_append (before : List Char) (h : c ≠ '\\') :
    openings rest ≤ openings (before ++ c :: rest) := by
  fun_induction items before with
  | case1 d before ih => simpa using ih
  | case2 => simp
  | case3 d before hnot hlast ih =>
    exact Nat.le_trans ih (openings_le_cons (ne_backslash hnot hlast))
  | case4 => exact openings_le_cons h

theorem openings_le_of_drop {n : Nat} (h : pattern.drop n = c :: rest) (hc : c ≠ '\\') :
    openings rest ≤ openings pattern := by
  have hle : openings rest ≤ openings (pattern.take n ++ c :: rest) := openings_le_append _ hc
  rwa [← h, List.take_append_drop] at hle

end Pattern

namespace BackReference
open Pattern

def itemOf (c : Char) : Item := if isSpecial c then .escaped c else .plain c

def referred? : Item → Option Nat
  | .escaped c => Words.digit? c
  | _ => none

def replaced (text : Text) (groups : List (Option Span)) (item : Item) : List Item :=
  match referred? item with
  | some index => (taken text groups index).map itemOf
  | none => [item]

section
variable (text : Text) (groups : List (Option Span)) (source : List Char)

end

end BackReference

end Highlighting
