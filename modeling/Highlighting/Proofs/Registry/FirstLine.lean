import Highlighting.Proofs.Text.Encoding
import Highlighting.Proofs.Text.Utf8
import Highlighting.Registry.Basic

/-!
What is seen of the first line of a file. If the bytes that are looked at end where a character is
cut, it is nothing.
-/
namespace Highlighting

/-- No longer beginning of a text takes `limit` bytes or fewer. -/
structure Utf8.Longest (limit : Nat) (text kept : List Char) : Prop where
  begins : kept <+: text
  size_le : size kept ≤ limit
  longest : ∀ other, other <+: text → size other ≤ limit → other.length ≤ kept.length

theorem Utf8.longest_fitting (limit : Nat) (text : List Char) :
    Longest limit text (fitting limit text) where
  begins := fitting_prefix limit text
  size_le := size_fitting_le limit text
  longest _ hother hsize := (prefix_fitting hother hsize).length_le

theorem Utf8.feed_not_mem_encode {text : List Char} (h : '\n' ∉ text) :
    (10 : UInt8) ∉ encode text := by
  intro hfeed
  obtain ⟨before, rest, hbytes⟩ := List.append_of_mem hfeed
  have hdecode := decode_encode text
  rw [hbytes] at hdecode
  obtain ⟨x, y, -, -, rfl⟩ := eq_of_decode_append_cons (by decide) hdecode
  exact h (List.mem_append_right x List.mem_cons_self)

namespace Lines

/-- The bytes have the line as their first one; unless it is the last one, its end belongs to it. -/
inductive IsFirst : List UInt8 → List Char → Prop
  | last {line : List Char} : '\n' ∉ line → IsFirst (Utf8.encode line) line
  | ended {line : List Char} {rest : List UInt8} : '\n' ∉ line →
      IsFirst (Utf8.encode (line ++ ['\n']) ++ rest) (line ++ ['\n'])

/-- What is left of a text without the marks of line ends that it ends in. -/
def Trims (text left : List Char) : Prop :=
  ∃ ends, text = left ++ ends ∧ (∀ c ∈ ends, c = '\r' ∨ c = '\n') ∧
    ∀ c ∈ left.getLast?, c ≠ '\r' ∧ c ≠ '\n'

theorem trimEnd_eq_iff {text left : List Char} : trimEnd text = left ↔ Trims text left := by
  let isEnd := fun c : Char => c == '\r' || c == '\n'
  have hend : ∀ c, isEnd c = true ↔ c = '\r' ∨ c = '\n' := by simp [isEnd]
  constructor
  · rintro rfl
    refine ⟨(text.reverse.takeWhile isEnd).reverse, ?_, ?_, ?_⟩
    · rw [trimEnd, ← List.reverse_append, List.takeWhile_append_dropWhile, List.reverse_reverse]
    · intro c hc
      exact (hend c).1 (List.mem_takeWhile_imp (List.mem_reverse.1 hc))
    · intro c hc
      rw [trimEnd, List.getLast?_reverse] at hc
      have hnot := List.head?_dropWhile_not isEnd text.reverse
      rw [Option.mem_def.1 hc] at hnot
      simpa [isEnd] using hnot
  · rintro ⟨ends, rfl, hends, hleft⟩
    have hall : ∀ c ∈ ends.reverse, isEnd c = true :=
      fun c hc => (hend c).2 (hends c (List.mem_reverse.1 hc))
    have hkept : left.reverse.dropWhile isEnd = left.reverse := by
      cases hback : left.reverse with
      | nil => rfl
      | cons c back =>
        have hc : ¬ isEnd c = true := by
          have hlast : c ∈ left.getLast? := by simp [← List.head?_reverse, hback]
          simpa [hend] using hleft c hlast
        simp [hc]
    rw [trimEnd, List.reverse_append, List.dropWhile_append_of_pos hall, hkept,
      List.reverse_reverse]

section Through
variable {α : Type} [BEq α] [LawfulBEq α] {mark : α}

theorem through_of_not_mem {xs : List α} (h : mark ∉ xs) : through mark xs = xs := by
  induction xs with
  | nil => rfl
  | cons x xs ih =>
    obtain ⟨hx, hxs⟩ := List.ne_and_not_mem_of_not_mem_cons h
    simp [through, hx.symm, ih hxs]

theorem through_append_cons {before : List α} (h : mark ∉ before) (rest : List α) :
    through mark (before ++ mark :: rest) = before ++ [mark] := by
  induction before with
  | nil => simp [through]
  | cons x before ih =>
    obtain ⟨hx, hbefore⟩ := List.ne_and_not_mem_of_not_mem_cons h
    simp [through, hx.symm, ih hbefore]

theorem through_take (mark : α) (xs : List α) (count : Nat) :
    through mark (xs.take count) = (through mark xs).take count := by
  induction xs generalizing count with
  | nil => simp [through]
  | cons x xs ih =>
    cases count with
    | zero => simp [through]
    | succ count => by_cases hx : x = mark <;> simp [through, hx, ih]

end Through

theorem IsFirst.through {bytes : List UInt8} {line : List Char} (h : IsFirst bytes line) :
    through 10 bytes = Utf8.encode line := by
  cases h with
  | last hline => exact through_of_not_mem (Utf8.feed_not_mem_encode hline)
  | @ended line rest hline =>
    have hfeed : Utf8.encode ['\n'] = [10] := by decide
    rw [Utf8.encode_append, hfeed, List.append_assoc, List.singleton_append,
      through_append_cons (Utf8.feed_not_mem_encode hline)]

theorem IsFirst.first?_eq {bytes : List UInt8} {line : List Char} (h : IsFirst bytes line)
    (limit : Nat) :
    first? limit bytes =
      if Utf8.fitting limit line = line ∨ Utf8.size (Utf8.fitting limit line) = limit then
        some (trimEnd (Utf8.fitting limit line))
      else none := by
  rw [first?, through_take, h.through, Utf8.decode_take_encode]
  split <;> rfl

end Lines

namespace Registry

def startsWith (line : List Char) (l : Language) : Bool :=
  l.firstLine.any fun m => (m.search line.toArray 0).isSome

theorem scopeOfFirstLine?_eq (r : Registry) {files : Files} {path : Path} {bytes : List UInt8}
    (hfile : files.content? path = some bytes) :
    r.scopeOfFirstLine? files path = (Lines.first? firstLineLimit bytes).bind fun line =>
      (r.languages.filter (startsWith line)).findSome? r.scopeOf := by
  simp [scopeOfFirstLine?, hfile]
  rfl

/-- Of the first line of a file, the longest beginning is seen for which the bytes are enough that
are looked at, without the marks of line ends that it ends in, and languages are found by it. But if
this is not the line and does not take all these bytes, so that they end inside a character, nothing
is seen and no language is found. -/
theorem firstLine_seen_iff {files : Files} {path : Path} {bytes : List UInt8} {line : List Char}
    (hfile : files.content? path = some bytes) (hline : Lines.IsFirst bytes line) :
    ∃ kept, Utf8.Longest firstLineLimit line kept ∧
      (∀ seen, Lines.first? firstLineLimit bytes = some seen ↔
        (kept = line ∨ Utf8.size kept = firstLineLimit) ∧ Lines.Trims kept seen) ∧
      (kept = line ∨ Utf8.size kept = firstLineLimit → ∃ seen, Lines.Trims kept seen ∧
        ∀ r : Registry, r.scopeOfFirstLine? files path =
          (r.languages.filter (startsWith seen)).findSome? r.scopeOf) ∧
      (kept ≠ line → Utf8.size kept < firstLineLimit →
        ∀ r : Registry, r.scopeOfFirstLine? files path = none) := by
  have hfirst := hline.first?_eq firstLineLimit
  have hlongest := Utf8.longest_fitting firstLineLimit line
  generalize Utf8.fitting firstLineLimit line = kept at hfirst hlongest
  refine ⟨kept, hlongest, fun seen => ?_, fun hwhole => ?_, fun hpart hfew r => ?_⟩
  · rw [hfirst, Option.ite_none_right_eq_some, Option.some.injEq, Lines.trimEnd_eq_iff]
  · refine ⟨Lines.trimEnd kept, Lines.trimEnd_eq_iff.1 rfl, fun r => ?_⟩
    rw [scopeOfFirstLine?_eq r hfile, hfirst, if_pos hwhole]
    rfl
  · have hcut : ¬ (kept = line ∨ Utf8.size kept = firstLineLimit) := by
      rintro (h | h)
      · exact hpart h
      · omega
    rw [scopeOfFirstLine?_eq r hfile, hfirst, if_neg hcut]
    rfl

theorem firstLine_seen_return :
    let line := ['k', 'é', '\r', '\n']
    let bytes := Utf8.encode line ++ [0xFF]
    let files : Files := ⟨[("b", .file bytes)], []⟩
    files.content? ⟨"b"⟩ = some bytes ∧ Lines.IsFirst bytes line ∧
      Lines.first? firstLineLimit bytes = some ['k', 'é'] := by
  intro line bytes files
  have hfile : files.content? ⟨"b"⟩ = some bytes := by decide +kernel
  have hfeed : '\n' ∉ ['k', 'é', '\r'] := by decide
  have hline : Lines.IsFirst bytes line := .ended hfeed
  obtain ⟨kept, hlongest, hseen, -⟩ := firstLine_seen_iff hfile hline
  have hsize : Utf8.size line ≤ firstLineLimit := by decide +kernel
  have hall := hlongest.longest line List.prefix_rfl hsize
  have hkept : kept = line := hlongest.begins.eq_of_length_le hall
  subst hkept
  exact ⟨hfile, hline, (hseen _).2 ⟨.inl rfl, ['\r', '\n'], rfl, by simp, by simp⟩⟩

/-- Of a long line nothing is seen if the bytes that are looked at end inside a character. -/
theorem firstLine_unseen :
    ¬ ∀ (files : Files) (path : Path) (bytes : List UInt8) (line : List Char),
      files.content? path = some bytes → Lines.IsFirst bytes line →
      ∃ kept seen, Utf8.Longest firstLineLimit line kept ∧ Lines.Trims kept seen ∧
        Lines.first? firstLineLimit bytes = some seen := by
  intro h
  let line := List.replicate 1023 'k' ++ ['é']
  have hfile : (Files.mk [("b", .file (Utf8.encode line))] []).content? ⟨"b"⟩ =
      some (Utf8.encode line) := by decide +kernel
  have hline : Lines.IsFirst (Utf8.encode line) line := .last (by decide +kernel)
  have hnone : Lines.first? firstLineLimit (Utf8.encode line) = none := by decide +kernel
  obtain ⟨kept, seen, -, -, hseen⟩ := h _ _ _ _ hfile hline
  rw [hnone] at hseen
  cases hseen

end Registry

end Highlighting
