import Highlighting.Text.Lines
import Mathlib

/-! Text as bytes, and its lines. -/
namespace Highlighting

namespace Utf8

/-- A character of which some bytes are missing has a code that takes more than one byte. -/
def Long (code lo : Nat) : (owed : Nat) → Prop
  | 0 => True
  | 1 => 0x80 ≤ lo ∧ 2 ≤ code
  | _ + 2 => 0x80 ≤ lo ∧ 2 ≤ 64 * code + (lo - 0x80)

theorem Long.zero : Long 0 0 0 := trivial

theorem Long.le {owed code lo : Nat} (h : Long code lo (owed + 1)) : 0x80 ≤ lo := by
  cases owed with
  | zero => exact h.1
  | succ owed => exact h.1

inductive Reads (owed : Nat) (b : UInt8) (read : List UInt8 → Option (List Char)) : Prop
  | single (between : owed = 0) (small : b.toNat < 0x80)
      (eq : ∀ rest, read rest = (Char.ofNat b.toNat :: ·) <$> decode rest)
  | refused (eq : ∀ rest, read rest = none)
  | last {code : Nat} (large : 0x80 ≤ b.toNat) (long : 0x80 ≤ code)
      (eq : ∀ rest, read rest = (Char.ofNat code :: ·) <$> decode rest)
  | more {owed code lo : Nat} (hi : Nat) (large : 0x80 ≤ b.toNat) (long : Long code lo (owed + 1))
      (eq : ∀ rest, read rest = decodeFrom (owed + 1) code lo hi rest)

theorem reads_first (b : UInt8) : Reads 0 b fun rest => decode (b :: rest) := by
  by_cases h1 : b.toNat < 0x80
  · exact .single rfl h1 fun rest => by simp [decode, decodeFrom, h1]
  by_cases h2 : 0xC2 ≤ b.toNat ∧ b.toNat < 0xE0
  · have hlong : Long (b.toNat - 0xC0) 0x80 1 := ⟨by omega, by omega⟩
    exact .more 0xBF (by omega) hlong fun rest => by simp [decode, decodeFrom, h1, h2]
  by_cases h3 : 0xE0 ≤ b.toNat ∧ b.toNat < 0xF0
  · have hlong : Long (b.toNat - 0xE0) (if b.toNat = 0xE0 then 0xA0 else 0x80) 2 := by
      constructor <;> split <;> omega
    exact .more (if b.toNat = 0xED then 0x9F else 0xBF) (by omega) hlong fun rest => by
      simp only [decode, decodeFrom, if_neg h1, if_neg h2, if_pos h3]
  by_cases h4 : 0xF0 ≤ b.toNat ∧ b.toNat < 0xF5
  · have hlong : Long (b.toNat - 0xF0) (if b.toNat = 0xF0 then 0x90 else 0x80) 3 := by
      constructor <;> split <;> omega
    exact .more (if b.toNat = 0xF4 then 0x8F else 0xBF) (by omega) hlong fun rest => by
      simp only [decode, decodeFrom, if_neg h1, if_neg h2, if_neg h3, if_pos h4]
  · exact .refused fun rest => by
      simp only [decode, decodeFrom, if_neg h1, if_neg h2, if_neg h3, if_neg h4]

theorem reads_next {owed code lo : Nat} (h : Long code lo (owed + 1)) (hi : Nat) (b : UInt8) :
    Reads (owed + 1) b fun rest => decodeFrom (owed + 1) code lo hi (b :: rest) := by
  by_cases hb : lo ≤ b.toNat ∧ b.toNat ≤ hi
  · cases owed with
    | zero =>
      obtain ⟨hlo, hcode⟩ := h
      exact .last (by omega) (by omega : 0x80 ≤ 64 * code + (b.toNat - 0x80)) fun rest => by
        simp only [decodeFrom, if_pos hb, if_true, decode]
    | succ owed =>
      obtain ⟨hlo, hcode⟩ := h
      have hlong : Long (64 * code + (b.toNat - 0x80)) 0x80 (owed + 1) := by
        cases owed with
        | zero => exact ⟨by omega, by omega⟩
        | succ owed => exact ⟨by omega, by omega⟩
      exact .more 0xBF (by omega) hlong fun rest => by
        simp only [decodeFrom, if_pos hb, Nat.add_one_ne_zero, if_false]
  · exact .refused fun rest => by simp only [decodeFrom, if_neg hb]

theorem reads {owed code lo : Nat} (h : Long code lo owed) (hi : Nat) (b : UInt8) :
    Reads owed b fun rest => decodeFrom owed code lo hi (b :: rest) := by
  cases owed with
  | zero => exact reads_first b
  | succ owed => exact reads_next h hi b

@[simp] theorem decode_nil : decode [] = some [] := rfl

theorem decodeFrom_append_cons {owed code lo : Nat} (h : Long code lo owed) (hi : Nat)
    (before rest : List UInt8) {b : UInt8} (hb : b.toNat < 0x80) :
    decodeFrom owed code lo hi (before ++ b :: rest) =
      (decodeFrom owed code lo hi before).bind fun x =>
        (decode rest).map fun y => x ++ Char.ofNat b.toNat :: y := by
  induction before generalizing owed code lo hi with
  | nil =>
    cases owed with
    | zero => simp [decodeFrom, decode, hb]
    | succ owed =>
      -- The byte is too small to go on with a character that has begun.
      have hlo := h.le
      have hout : ¬ (lo ≤ b.toNat ∧ b.toNat ≤ hi) := by omega
      simp [decodeFrom, hout]
  | cons a before ih =>
    have hnext : decode (before ++ b :: rest) = (decode before).bind fun x =>
        (decode rest).map fun y => x ++ Char.ofNat b.toNat :: y := ih .zero 0
    rw [List.cons_append]
    cases reads h hi a with
    | single between small eq =>
      rw [eq, eq, hnext]
      cases decode before <;> simp [Function.comp_def]
    | refused eq => simp [eq]
    | last large long eq =>
      rw [eq, eq, hnext]
      cases decode before <;> simp [Function.comp_def]
    | more hi' large long eq => rw [eq, eq, ih long]

theorem decode_append_cons (before rest : List UInt8) {b : UInt8} (hb : b.toNat < 0x80) :
    decode (before ++ b :: rest) =
      (decode before).bind fun x => (decode rest).map fun y => x ++ Char.ofNat b.toNat :: y :=
  decodeFrom_append_cons .zero 0 before rest hb

theorem eq_of_decode_append_cons {before rest : List UInt8} {b : UInt8} {text : List Char}
    (hb : b.toNat < 0x80) (h : decode (before ++ b :: rest) = some text) :
    ∃ x y, decode before = some x ∧ decode rest = some y ∧
      text = x ++ Char.ofNat b.toNat :: y := by
  rw [decode_append_cons before rest hb] at h
  obtain ⟨x, hx, hrest⟩ := Option.bind_eq_some_iff.1 h
  obtain ⟨y, hy, htext⟩ := Option.map_eq_some_iff.1 hrest
  exact ⟨x, y, hx, hy, htext.symm⟩

theorem toNat_ofNat_of_lt {n : Nat} (h : n < 0x80) : (Char.ofNat n).toNat = n := by
  rw [Char.toNat_ofNat, if_pos (.inl (by omega))]

theorem mem_of_decodeFrom {owed code lo hi : Nat} (h : Long code lo owed) {bytes : List UInt8}
    {text : List Char} (htext : decodeFrom owed code lo hi bytes = some text) {c : Char}
    (hc : c ∈ text) (hsmall : c.toNat < 0x80) (hnull : c.toNat ≠ 0) :
    ∃ b ∈ bytes, b.toNat = c.toNat := by
  induction bytes generalizing owed code lo hi text with
  | nil =>
    have hnil : text = [] := by
      by_cases howed : owed = 0
      · simpa [decodeFrom, howed, eq_comm] using htext
      · simp [decodeFrom, howed] at htext
    simp [hnil] at hc
  | cons b bytes ih =>
    have hrest : ∀ {owed code lo hi : Nat} {text : List Char}, Long code lo owed →
        decodeFrom owed code lo hi bytes = some text → c ∈ text →
        ∃ b' ∈ b :: bytes, b'.toNat = c.toNat := by
      intro owed code lo hi text hlong htext hc
      obtain ⟨b', hb', heq⟩ := ih hlong htext hc
      exact ⟨b', List.mem_cons_of_mem b hb', heq⟩
    cases reads h hi b with
    | single between small eq =>
      rw [eq] at htext
      obtain ⟨rest, hdecode, rfl⟩ := Option.map_eq_some_iff.1 htext
      obtain rfl | hc := List.mem_cons.1 hc
      · exact ⟨b, List.mem_cons_self, (toNat_ofNat_of_lt small).symm⟩
      · exact hrest .zero hdecode hc
    | refused eq =>
      rw [eq] at htext
      cases htext
    | @last code large long eq =>
      rw [eq] at htext
      obtain ⟨rest, hdecode, rfl⟩ := Option.map_eq_some_iff.1 htext
      obtain rfl | hc := List.mem_cons.1 hc
      · rw [Char.toNat_ofNat] at hsmall hnull
        by_cases hvalid : code.isValidChar
        · rw [if_pos hvalid] at hsmall
          omega
        · exact absurd (if_neg hvalid) hnull
      · exact hrest .zero hdecode hc
    | more hi' large long eq =>
      rw [eq] at htext
      exact hrest long htext hc

theorem mem_of_decode {mark : UInt8} (hsmall : mark.toNat < 0x80) (hnull : mark.toNat ≠ 0)
    {bytes : List UInt8} {text : List Char} (htext : decode bytes = some text)
    (hc : Char.ofNat mark.toNat ∈ text) : mark ∈ bytes := by
  have hmark := toNat_ofNat_of_lt hsmall
  obtain ⟨b, hb, heq⟩ := mem_of_decodeFrom .zero htext hc (by omega) (by omega)
  rw [hmark, UInt8.toNat_inj] at heq
  exact heq ▸ hb

theorem ne_nil_of_decodeFrom {owed code lo hi : Nat} (h : Long code lo owed) {bytes : List UInt8}
    {text : List Char} (htext : decodeFrom owed code lo hi bytes = some text)
    (hsome : 0 < owed ∨ bytes ≠ []) : text ≠ [] := by
  induction bytes generalizing owed code lo hi text with
  | nil =>
    have howed : owed ≠ 0 := by simpa [Nat.pos_iff_ne_zero] using hsome
    simp [decodeFrom, howed] at htext
  | cons b bytes ih =>
    cases reads h hi b with
    | single between small eq =>
      rw [eq] at htext
      obtain ⟨rest, -, rfl⟩ := Option.map_eq_some_iff.1 htext
      simp
    | refused eq =>
      rw [eq] at htext
      cases htext
    | last large long eq =>
      rw [eq] at htext
      obtain ⟨rest, -, rfl⟩ := Option.map_eq_some_iff.1 htext
      simp
    | more hi' large long eq =>
      rw [eq] at htext
      exact ih long htext (.inl (Nat.succ_pos _))

theorem decode_eq_nil {bytes : List UInt8} (h : decode bytes = some []) : bytes = [] := by
  by_contra hne
  exact ne_nil_of_decodeFrom .zero h (.inr hne) rfl

theorem length_le_size (text : List Char) : text.length ≤ size text := by
  induction text with
  | nil => exact Nat.zero_le _
  | cons c text ih =>
    have hpos := c.utf8Size_pos
    simp only [size, List.foldr_cons, List.length_cons] at ih ⊢
    omega

end Utf8

namespace Lines
variable {α : Type} [BEq α] [LawfulBEq α] {feed ret : α}

theorem splitFrom_append {before : List α} (hfeed : feed ∉ before) (line rest : List α) :
    splitFrom feed ret line (before ++ rest) =
      splitFrom feed ret (before.reverse ++ line) rest := by
  induction before generalizing line with
  | nil => rfl
  | cons c before ih =>
    obtain ⟨hc, hbefore⟩ := List.ne_and_not_mem_of_not_mem_cons hfeed
    have hne : (c == feed) = false := by simpa using hc.symm
    simp [splitFrom, hne, ih hbefore]

theorem splitFrom_append_cons {before : List α} (hfeed : feed ∉ before) (line rest : List α) :
    splitFrom feed ret line (before ++ feed :: rest) =
      (dropOne ret (before.reverse ++ line)).reverse :: splitFrom feed ret [] rest := by
  rw [splitFrom_append hfeed]
  simp [splitFrom]

theorem splitFrom_of_not_mem {before : List α} (hfeed : feed ∉ before) (line : List α) :
    splitFrom feed ret line before =
      if (before.reverse ++ line).isEmpty then [] else [(before.reverse ++ line).reverse] := by
  have happend : splitFrom feed ret line (before ++ []) = _ := splitFrom_append hfeed line []
  rw [List.append_nil] at happend
  rw [happend]
  simp [splitFrom]

theorem splitFrom_concat_append (before line rest : List α) :
    splitFrom feed ret line ((before ++ [feed]) ++ rest) =
      splitFrom feed ret line (before ++ [feed]) ++ splitFrom feed ret [] rest := by
  induction before generalizing line with
  | nil => simp [splitFrom]
  | cons c before ih =>
    by_cases hc : c = feed
    · simpa [splitFrom, hc] using ih []
    · simpa [splitFrom, hc] using ih (c :: line)

theorem ofBytes_append {first : List UInt8} (h : first.getLast?.all (· == 10) = true)
    (second : List UInt8) : ofBytes (first ++ second) = ofBytes first ++ ofBytes second := by
  obtain rfl | ⟨before, last, rfl⟩ := first.eq_nil_or_concat'
  · rfl
  · obtain rfl : last = 10 := by simpa using h
    exact splitFrom_concat_append before [] second

theorem getLast?_ne {before : List UInt8} {last : UInt8} {text : List Char} (hlast : last ≠ 13)
    (h : Utf8.decode (before ++ [last]) = some text) : text.getLast? ≠ some '\r' := by
  intro hreturn
  have hmark : (13 : UInt8).toNat < 0x80 := by decide
  have hnull : (13 : UInt8).toNat ≠ 0 := by decide
  -- Behind the last return there is a byte, so there is a character, and it is no return.
  have hthere := Utf8.mem_of_decode hmark hnull h (List.mem_of_getLast? hreturn)
  obtain ⟨behind, front, hsplit, hbehind⟩ := List.eq_append_cons_of_mem
    (List.mem_reverse.2 hthere)
  have hbytes : before ++ [last] = front.reverse ++ 13 :: behind.reverse := by
    simpa using congrArg List.reverse hsplit
  have hsome : behind ≠ [] := by
    rintro rfl
    exact hlast (by simpa using congrArg List.getLast? hbytes)
  rw [hbytes] at h
  obtain ⟨x, y, -, hy, rfl⟩ := Utf8.eq_of_decode_append_cons hmark h
  cases y with
  | nil => exact hsome (by simpa using Utf8.decode_eq_nil hy)
  | cons c y =>
    rw [List.getLast?_append_cons, List.getLast?_cons_cons] at hreturn
    have hbehind' := Utf8.mem_of_decode hmark hnull hy (List.mem_of_getLast? hreturn)
    exact hbehind (List.mem_reverse.1 hbehind')

theorem decode_dropOne {line : List UInt8} {text : List Char} (h : Utf8.decode line = some text) :
    Utf8.decode (dropOne 13 line.reverse).reverse = some (dropOne '\r' text.reverse).reverse := by
  have hmark : (13 : UInt8).toNat < 0x80 := by decide
  cases hline : line.reverse with
  | nil =>
    obtain rfl := List.reverse_eq_nil_iff.1 hline
    have htext : text = [] := by simpa [eq_comm] using h
    simp [htext, dropOne]
  | cons last before =>
    obtain rfl : line = before.reverse ++ [last] := by simpa using congrArg List.reverse hline
    by_cases hlast : last = 13
    · subst hlast
      obtain ⟨x, y, hx, hy, rfl⟩ := Utf8.eq_of_decode_append_cons hmark h
      obtain rfl : y = [] := by simpa [eq_comm] using hy
      simp [dropOne, hx]
    · have hkept : text.reverse.head? ≠ some '\r' := by
        rw [List.head?_reverse]
        exact getLast?_ne hlast h
      have hbytes : dropOne 13 (last :: before) = last :: before := by simp [dropOne, hlast]
      have htext : dropOne '\r' text.reverse = text.reverse := by
        cases hreverse : text.reverse with
        | nil => rfl
        | cons c rest =>
          have hc : c ≠ '\r' := by simpa [hreverse] using hkept
          simp [dropOne, hc]
      rw [hbytes, htext, List.reverse_cons, List.reverse_reverse]
      exact h

theorem decode_ofBytes {bytes : List UInt8} {text : List Char} (h : Utf8.decode bytes = some text) :
    (ofBytes bytes).map Utf8.decode = (ofChars text).map some := by
  have hmark : (10 : UInt8).toNat < 0x80 := by decide
  have hnone : ∀ {bytes : List UInt8} {text : List Char}, Utf8.decode bytes = some text →
      10 ∉ bytes → '\n' ∉ text := fun htext hbytes hc =>
    hbytes (Utf8.mem_of_decode hmark (by decide) htext hc)
  induction hn : bytes.length using Nat.strong_induction_on generalizing bytes text with
  | _ n ih =>
    by_cases hfeed : (10 : UInt8) ∈ bytes
    · obtain ⟨before, rest, rfl, hbefore⟩ := List.eq_append_cons_of_mem hfeed
      obtain ⟨x, y, hx, hy, rfl⟩ := Utf8.eq_of_decode_append_cons hmark h
      have hshort : rest.length < n := by
        rw [← hn, List.length_append, List.length_cons]
        omega
      have hlines := ih rest.length hshort hy rfl
      have hfirst := decode_dropOne hx
      have hmark' : Char.ofNat (10 : UInt8).toNat = '\n' := by decide
      rw [hmark', ofBytes, ofChars, splitFrom_append_cons hbefore,
        splitFrom_append_cons (hnone hx hbefore), List.map_cons, List.map_cons,
        List.append_nil, List.append_nil, hfirst]
      exact congrArg _ hlines
    · rw [ofBytes, ofChars, splitFrom_of_not_mem hfeed, splitFrom_of_not_mem (hnone h hfeed)]
      by_cases hnil : bytes = []
      · subst hnil
        have htext : text = [] := by simpa [eq_comm] using h
        simp [htext]
      · have htext : text ≠ [] := fun hempty => hnil (Utf8.decode_eq_nil (hempty ▸ h))
        simp [hnil, htext, h]

end Lines

end Highlighting
