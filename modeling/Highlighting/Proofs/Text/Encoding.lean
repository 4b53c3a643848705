import Highlighting.Text.Utf8
import Mathlib.Data.List.Basic

/-! Texts as bytes, and where the first bytes of a text are text themselves. -/
namespace Highlighting.Utf8

def encode (text : List Char) : List UInt8 := text.flatMap String.utf8EncodeChar

@[simp] theorem encode_nil : encode [] = [] := rfl

@[simp] theorem encode_cons (c : Char) (text : List Char) :
    encode (c :: text) = String.utf8EncodeChar c ++ encode text := rfl

theorem encode_append (first second : List Char) :
    encode (first ++ second) = encode first ++ encode second := by
  simp [encode]

@[simp] theorem size_nil : size [] = 0 := rfl

@[simp] theorem size_cons (c : Char) (text : List Char) :
    size (c :: text) = c.utf8Size + size text := rfl

theorem decodeFrom_eq_none {owed : Nat} {bytes : List UInt8} (h : bytes.length < owed)
    (code lo hi : Nat) : decodeFrom owed code lo hi bytes = none := by
  induction bytes generalizing owed code lo hi with
  | nil =>
    have howed : owed ≠ 0 := by simpa [Nat.pos_iff_ne_zero] using h
    simp [decodeFrom, howed]
  | cons b bytes ih =>
    cases owed with
    | zero => simp at h
    | succ more =>
      have hmore : bytes.length < more := by simpa using h
      by_cases hb : lo ≤ b.toNat ∧ b.toNat ≤ hi
      · have hne : more ≠ 0 := by omega
        simp [decodeFrom, hb, hne, ih hmore]
      · simp [decodeFrom, hb]

theorem toNat_byte {n : Nat} (h : n < 256) : (UInt8.ofNat n).toNat = n := by
  simp
  omega

section Steps
variable {b : UInt8} {code lo hi : Nat} (rest : List UInt8)

theorem decode_single (h : b.toNat < 0x80) :
    decode (b :: rest) = (Char.ofNat b.toNat :: ·) <$> decode rest := by
  simp [decode, decodeFrom, h]

theorem decode_two (h : 0xC2 ≤ b.toNat ∧ b.toNat < 0xE0) :
    decode (b :: rest) = decodeFrom 1 (b.toNat - 0xC0) 0x80 0xBF rest := by
  have h1 : ¬ b.toNat < 0x80 := by omega
  simp only [decode, decodeFrom, if_neg h1, if_pos h]

theorem decode_three (h : 0xE0 ≤ b.toNat ∧ b.toNat < 0xF0) :
    decode (b :: rest) = decodeFrom 2 (b.toNat - 0xE0) (if b.toNat = 0xE0 then 0xA0 else 0x80)
      (if b.toNat = 0xED then 0x9F else 0xBF) rest := by
  have h1 : ¬ b.toNat < 0x80 := by omega
  have h2 : ¬ (0xC2 ≤ b.toNat ∧ b.toNat < 0xE0) := by omega
  simp only [decode, decodeFrom, if_neg h1, if_neg h2, if_pos h]

theorem decode_four (h : 0xF0 ≤ b.toNat ∧ b.toNat < 0xF5) :
    decode (b :: rest) = decodeFrom 3 (b.toNat - 0xF0) (if b.toNat = 0xF0 then 0x90 else 0x80)
      (if b.toNat = 0xF4 then 0x8F else 0xBF) rest := by
  have h1 : ¬ b.toNat < 0x80 := by omega
  have h2 : ¬ (0xC2 ≤ b.toNat ∧ b.toNat < 0xE0) := by omega
  have h3 : ¬ (0xE0 ≤ b.toNat ∧ b.toNat < 0xF0) := by omega
  simp only [decode, decodeFrom, if_neg h1, if_neg h2, if_neg h3, if_pos h]

theorem decodeFrom_more (h : lo ≤ b.toNat ∧ b.toNat ≤ hi) (more : Nat) :
    decodeFrom (more + 2) code lo hi (b :: rest) =
      decodeFrom (more + 1) (64 * code + (b.toNat - 0x80)) 0x80 0xBF rest := by
  simp only [decodeFrom, if_pos h, Nat.add_one_ne_zero, if_false]

theorem decodeFrom_last (h : lo ≤ b.toNat ∧ b.toNat ≤ hi) :
    decodeFrom 1 code lo hi (b :: rest) =
      (Char.ofNat (64 * code + (b.toNat - 0x80)) :: ·) <$> decode rest := by
  simp only [decodeFrom, if_pos h, if_true, decode]

end Steps

/-- The first byte of a character says how many there are, and all of them say which one it is. -/
structure Encodes (c : Char) (first : UInt8) (others : List UInt8) : Prop where
  decode : ∀ rest, decode (first :: (others ++ rest)) = (c :: ·) <$> decode rest
  owed : others ≠ [] → ∃ code lo hi, ∀ rest,
    Utf8.decode (first :: rest) = decodeFrom others.length code lo hi rest

theorem encodes (c : Char) : ∃ first others, String.utf8EncodeChar c = first :: others ∧
    Encodes c first others := by
  have hc : Char.ofNat c.toNat = c := Char.ofNat_toNat c
  have hvalid : c.toNat < 0xD800 ∨ 0xDFFF < c.toNat ∧ c.toNat < 0x110000 := c.valid
  have hval : c.val.toNat = c.toNat := rfl
  generalize c.toNat = n at hc hvalid hval
  by_cases h1 : n ≤ 0x7F
  · refine ⟨UInt8.ofNat n, [], by simp [String.utf8EncodeChar, hval, h1], ?_, by simp⟩
    have ha := toNat_byte (n := n) (by omega)
    intro rest
    rw [List.nil_append, decode_single rest (by omega), ha, hc]
  by_cases h2 : n ≤ 0x7FF
  · have ha := toNat_byte (n := n / 64 % 32 + 192) (by omega)
    have hb := toNat_byte (n := n % 64 + 128) (by omega)
    have hbytes : String.utf8EncodeChar c =
        [UInt8.ofNat (n / 64 % 32 + 192), UInt8.ofNat (n % 64 + 128)] := by
      simp only [String.utf8EncodeChar, hval, if_neg h1, if_pos h2]
    refine ⟨_, _, hbytes, fun rest => ?_,
      fun _ => ⟨_, _, _, fun rest => decode_two rest (by omega)⟩⟩
    have hcode : 64 * (n / 64 % 32 + 192 - 0xC0) + (n % 64 + 128 - 0x80) = n := by omega
    rw [List.singleton_append, decode_two _ (by omega), decodeFrom_last _ (by omega), ha, hb,
      hcode, hc]
  by_cases h3 : n ≤ 0xFFFF
  · have ha := toNat_byte (n := n / 4096 % 16 + 224) (by omega)
    have hb := toNat_byte (n := n / 64 % 64 + 128) (by omega)
    have hd := toNat_byte (n := n % 64 + 128) (by omega)
    have hbytes : String.utf8EncodeChar c = [UInt8.ofNat (n / 4096 % 16 + 224),
        UInt8.ofNat (n / 64 % 64 + 128), UInt8.ofNat (n % 64 + 128)] := by
      simp only [String.utf8EncodeChar, hval, if_neg h1, if_neg h2, if_pos h3]
    refine ⟨_, _, hbytes, fun rest => ?_,
      fun _ => ⟨_, _, _, fun rest => decode_three rest (by omega)⟩⟩
    have hcode : 64 * (64 * (n / 4096 % 16 + 224 - 0xE0) + (n / 64 % 64 + 128 - 0x80)) +
        (n % 64 + 128 - 0x80) = n := by omega
    -- The second byte keeps short forms and surrogates out.
    have hsecond : (if n / 4096 % 16 + 224 = 0xE0 then 0xA0 else 0x80) ≤ n / 64 % 64 + 128 ∧
        n / 64 % 64 + 128 ≤ if n / 4096 % 16 + 224 = 0xED then 0x9F else 0xBF := by
      constructor <;> split <;> omega
    rw [← ha, ← hb] at hsecond
    rw [List.cons_append, List.singleton_append, decode_three _ (by omega),
      decodeFrom_more _ hsecond, decodeFrom_last _ (by omega), ha, hb, hd, hcode, hc]
  · have ha := toNat_byte (n := n / 262144 % 8 + 240) (by omega)
    have hb := toNat_byte (n := n / 4096 % 64 + 128) (by omega)
    have hd := toNat_byte (n := n / 64 % 64 + 128) (by omega)
    have he := toNat_byte (n := n % 64 + 128) (by omega)
    have hbytes : String.utf8EncodeChar c = [UInt8.ofNat (n / 262144 % 8 + 240),
        UInt8.ofNat (n / 4096 % 64 + 128), UInt8.ofNat (n / 64 % 64 + 128),
        UInt8.ofNat (n % 64 + 128)] := by
      simp only [String.utf8EncodeChar, hval, if_neg h1, if_neg h2, if_neg h3]
    refine ⟨_, _, hbytes, fun rest => ?_,
      fun _ => ⟨_, _, _, fun rest => decode_four rest (by omega)⟩⟩
    have hcode : 64 * (64 * (64 * (n / 262144 % 8 + 240 - 0xF0) + (n / 4096 % 64 + 128 - 0x80)) +
        (n / 64 % 64 + 128 - 0x80)) + (n % 64 + 128 - 0x80) = n := by omega
    have hsecond : (if n / 262144 % 8 + 240 = 0xF0 then 0x90 else 0x80) ≤ n / 4096 % 64 + 128 ∧
        n / 4096 % 64 + 128 ≤ if n / 262144 % 8 + 240 = 0xF4 then 0x8F else 0xBF := by
      constructor <;> split <;> omega
    rw [← ha, ← hb] at hsecond
    rw [List.cons_append, List.cons_append, List.singleton_append, decode_four _ (by omega),
      decodeFrom_more _ hsecond, decodeFrom_more _ (by omega), decodeFrom_last _ (by omega),
      ha, hb, hd, he, hcode, hc]

theorem decode_char (c : Char) (rest : List UInt8) :
    decode (String.utf8EncodeChar c ++ rest) = (c :: ·) <$> decode rest := by
  obtain ⟨first, others, hbytes, h⟩ := encodes c
  rw [hbytes]
  exact h.decode rest

theorem decode_encode (text : List Char) : decode (encode text) = some text := by
  induction text with
  | nil => rfl
  | cons c text ih => simp [decode_char, ih]

theorem decode_take_char (c : Char) {count : Nat} (hsome : 0 < count) (hnot : count < c.utf8Size) :
    decode ((String.utf8EncodeChar c).take count) = none := by
  obtain ⟨first, others, hbytes, h⟩ := encodes c
  have hlength := String.length_utf8EncodeChar c
  rw [hbytes, List.length_cons] at hlength
  have hothers : others ≠ [] := by
    rintro rfl
    simp at hlength
    omega
  obtain ⟨code, lo, hi, howed⟩ := h.owed hothers
  obtain ⟨count, rfl⟩ := Nat.exists_eq_add_of_lt hsome
  rw [hbytes, Nat.zero_add, List.take_succ_cons, howed]
  refine decodeFrom_eq_none ?_ code lo hi
  rw [List.length_take]
  omega

/-- The longest beginning of a text for which `limit` bytes are enough. -/
def fitting (limit : Nat) : List Char → List Char
  | [] => []
  | c :: rest => if c.utf8Size ≤ limit then c :: fitting (limit - c.utf8Size) rest else []

theorem fitting_prefix (limit : Nat) (text : List Char) : fitting limit text <+: text := by
  induction text generalizing limit with
  | nil => exact List.nil_prefix
  | cons c text ih =>
    by_cases hc : c.utf8Size ≤ limit
    · simpa [fitting, hc] using ih (limit - c.utf8Size)
    · simp [fitting, hc]

theorem size_fitting_le (limit : Nat) (text : List Char) : size (fitting limit text) ≤ limit := by
  induction text generalizing limit with
  | nil => exact Nat.zero_le _
  | cons c text ih =>
    by_cases hc : c.utf8Size ≤ limit
    · have hrest := ih (limit - c.utf8Size)
      simp [fitting, hc]
      omega
    · simp [fitting, hc]

theorem prefix_fitting {limit : Nat} {text other : List Char} (hother : other <+: text)
    (hsize : size other ≤ limit) : other <+: fitting limit text := by
  induction text generalizing limit other with
  | nil => simpa [fitting] using hother
  | cons c text ih =>
    cases other with
    | nil => exact List.nil_prefix
    | cons d other =>
      obtain ⟨rfl, hrest⟩ := List.cons_prefix_cons.1 hother
      rw [size_cons] at hsize
      have hd : d.utf8Size ≤ limit := by omega
      have hfits := ih hrest (by omega : size other ≤ limit - d.utf8Size)
      simpa [fitting, hd] using hfits

/-- The first bytes of a text are text if and only if they end where a character does. -/
theorem decode_take_encode (limit : Nat) (text : List Char) :
    decode ((encode text).take limit) =
      if fitting limit text = text ∨ size (fitting limit text) = limit then
        some (fitting limit text)
      else none := by
  induction text generalizing limit with
  | nil => simp [fitting, decode, decodeFrom]
  | cons c text ih =>
    have hlength := String.length_utf8EncodeChar c
    by_cases hc : c.utf8Size ≤ limit
    · have hall : (String.utf8EncodeChar c).take limit = String.utf8EncodeChar c :=
        List.take_of_length_le (by omega)
      have hends : size (c :: fitting (limit - c.utf8Size) text) = limit ↔
          size (fitting (limit - c.utf8Size) text) = limit - c.utf8Size := by
        rw [size_cons]
        omega
      rw [encode_cons, List.take_append, hall, hlength, decode_char, ih]
      simp only [fitting, if_pos hc, List.cons.injEq, true_and, hends]
      split <;> rfl
    · have hnone : limit - (String.utf8EncodeChar c).length = 0 := by omega
      rw [encode_cons, List.take_append, hnone, List.take_zero, List.append_nil]
      simp only [fitting, if_neg hc, size_nil]
      by_cases hzero : limit = 0
      · simp [hzero, decode, decodeFrom]
      · rw [decode_take_char c (by omega) (by omega), if_neg]
        simp
        omega

end Highlighting.Utf8
