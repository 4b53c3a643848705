/-!
Sets of code points as ascending, disjoint, closed intervals. `RangeSet.ofIntervals` builds one from
intervals in any order, and the Boolean operations keep the form, so membership is a binary search.
-/
namespace Highlighting.Unicode

def lastCode : Nat := 0x10FFFF

/-- A set of code points; its intervals are ascending and do not touch. -/
structure RangeSet where
  intervals : Array (Nat × Nat)
  deriving Repr, DecidableEq, Inhabited

namespace RangeSet

def empty : RangeSet := ⟨#[]⟩

def all : RangeSet := ⟨#[(0, lastCode)]⟩

def singleton (code : Nat) : RangeSet := ⟨#[(code, code)]⟩

/-- Adds an interval that starts no earlier than those before it; touching intervals become one. -/
def append (done : Array (Nat × Nat)) (next : Nat × Nat) : Array (Nat × Nat) :=
  match done.back? with
  | none => done.push next
  | some (lo, hi) =>
    if next.1 ≤ hi + 1 then done.pop.push (lo, max hi next.2) else done.push next

/-- The union of the given intervals; an interval whose ends are reversed holds nothing. -/
def ofIntervals (intervals : List (Nat × Nat)) : RangeSet :=
  let sorted := (intervals.filter fun r => r.1 ≤ r.2).mergeSort fun a b => a.1 ≤ b.1
  ⟨sorted.foldl append #[]⟩

def union (a b : RangeSet) : RangeSet :=
  if a.intervals.isEmpty then b
  else if b.intervals.isEmpty then a
  else ⟨(List.merge a.intervals.toList b.intervals.toList fun x y => x.1 ≤ y.1).foldl append #[]⟩

def complement (a : RangeSet) : RangeSet :=
  let (gaps, next) := a.intervals.foldl
    (fun (gaps, next) (lo, hi) =>
      (if next < lo then gaps.push (next, lo - 1) else gaps, hi + 1)) (#[], 0)
  ⟨if next ≤ lastCode then gaps.push (next, lastCode) else gaps⟩

def inter (a b : RangeSet) : RangeSet := (a.complement.union b.complement).complement

def diff (a b : RangeSet) : RangeSet := a.inter b.complement

def unions (sets : List RangeSet) : RangeSet := sets.foldl union empty

/-- Looks for `code` among the intervals from `lo` to `hi`, ends excluded. -/
def search (intervals : Array (Nat × Nat)) (code lo hi : Nat) : Bool :=
  if lo < hi then
    let mid := lo + (hi - lo) / 2
    match intervals[mid]? with
    | none => false
    | some (a, b) =>
      if code < a then search intervals code lo mid
      else if b < code then search intervals code (mid + 1) hi
      else true
  else false
termination_by hi - lo

def contains (a : RangeSet) (code : Nat) : Bool :=
  search a.intervals code 0 a.intervals.size

def containsChar (a : RangeSet) (c : Char) : Bool := a.contains c.toNat

def members (a : RangeSet) : List Nat :=
  a.intervals.toList.flatMap fun (lo, hi) => (List.range (hi + 1 - lo)).map (lo + ·)

end RangeSet

/-! Tables are written as text: intervals in hexadecimal, apart by blanks, `41-5A` or `5F`. -/

def hexDigit? (c : Char) : Option Nat :=
  if '0' ≤ c ∧ c ≤ '9' then some (c.toNat - '0'.toNat)
  else if 'a' ≤ c ∧ c ≤ 'f' then some (c.toNat - 'a'.toNat + 10)
  else if 'A' ≤ c ∧ c ≤ 'F' then some (c.toNat - 'A'.toNat + 10)
  else none

/-- The value of a run of hexadecimal digits; other characters are passed over. -/
def hexValue (digits : List Char) : Nat :=
  digits.foldl (fun n c => match hexDigit? c with | some d => 16 * n + d | none => n) 0

def splitAll {α : Type} (sep : α → Bool) (xs : List α) : List (List α) :=
  match xs with
  | [] => [[]]
  | x :: rest =>
    match splitAll sep rest with
    | [] => [[x]]
    | word :: words => if sep x then [] :: word :: words else (x :: word) :: words

def rowWords (row : List Char) : List (List Char) :=
  (splitAll (fun c => c == ' ' || c == '\n') row).filter (· ≠ [])

def tableWords (text : String) : List (List Char) := rowWords text.toList

def RangeSet.ofTable (text : String) : RangeSet :=
  .ofIntervals <| (tableWords text).map fun word =>
    match splitAll (· == '-') word with
    | [lo, hi] => (hexValue lo, hexValue hi)
    | _ => (hexValue word, hexValue word)

end Highlighting.Unicode
