import Highlighting.Proofs.Transport.Conversation

/-! What is written, as a text: each message takes one line. -/
namespace Highlighting

def OneLine (text : List Char) : Prop := ∀ c ∈ text, ' ' ≤ c

namespace OneLine
variable {a b : List Char}

@[simp] theorem nil : OneLine [] := by simp [OneLine]

@[simp] theorem cons_iff {c : Char} : OneLine (c :: a) ↔ ' ' ≤ c ∧ OneLine a := by simp [OneLine]

@[simp] theorem append_iff : OneLine (a ++ b) ↔ OneLine a ∧ OneLine b := by
  simp only [OneLine, List.mem_append, or_imp, forall_and]

theorem mono (h : OneLine b) (hab : a ⊆ b) : OneLine a := fun c hc => h c (hab hc)

theorem replicate (n : Nat) {c : Char} (hc : ' ' ≤ c) : OneLine (List.replicate n c) := by
  intro c' hmem
  rwa [List.eq_of_mem_replicate hmem]

theorem le_digitChar (n : Nat) : ' ' ≤ n.digitChar := by
  have hsmall : ∀ n < 16, ' ' ≤ n.digitChar := by decide
  obtain hn | hn := Nat.lt_or_ge n 16
  · exact hsmall n hn
  · rw [Nat.digitChar_eq_star.2 hn]
    decide

theorem toDigitsCore (b fuel n : Nat) (h : OneLine a) :
    OneLine (Nat.toDigitsCore b fuel n a) := by
  induction fuel generalizing n a with
  | zero => exact h
  | succ fuel ih =>
    have hnext : OneLine ((n % b).digitChar :: a) := cons_iff.2 ⟨le_digitChar _, h⟩
    rw [Nat.toDigitsCore]
    split
    · exact hnext
    · exact ih _ hnext

theorem toDigits (b n : Nat) : OneLine (Nat.toDigits b n) := toDigitsCore b _ n nil

theorem ofInt (i : Int) : OneLine (toString i).toList := by
  rw [Int.toString_eq_repr]
  cases i with
  | ofNat n => simpa [Int.repr, Nat.repr] using toDigits 10 n
  | negSucc n => simpa [Int.repr, Nat.repr] using toDigits 10 (n + 1)

theorem feed_not_mem (h : OneLine a) : '\n' ∉ a := fun hc => absurd (h _ hc) (by decide)

theorem ret_not_mem (h : OneLine a) : '\r' ∉ a := fun hc => absurd (h _ hc) (by decide)

end OneLine

theorem Binary64.oneLine_write (x : Binary64) : OneLine x.write.toList := by
  have hdigits : OneLine x.shortest.text := .toDigits 10 _
  have hsign : OneLine (if x.negative then ['-'] else []) := by
    split <;> simp
  have hexponent : OneLine ('e' :: (toString (x.shortest.point - 1)).toList) :=
    OneLine.cons_iff.2 ⟨by decide, .ofInt _⟩
  unfold write
  dsimp only
  split
  · simp [hsign]
  · rw [String.toList_ofList, OneLine.append_iff]
    refine ⟨hsign, ?_⟩
    split_ifs
    · simp [hdigits, OneLine.replicate]
    · have htake := hdigits.mono (List.take_subset x.shortest.point.toNat _)
      have hdrop := hdigits.mono (List.drop_subset x.shortest.point.toNat _)
      simp [htake, hdrop]
    · simp [hdigits, OneLine.replicate]
    · cases htext : x.shortest.text with
      | nil => simpa using hexponent
      | cons first rest =>
        obtain ⟨hfirst, hrest⟩ := OneLine.cons_iff.1 (htext ▸ hdigits)
        cases rest with
        | nil => exact OneLine.cons_iff.2 ⟨hfirst, hexponent⟩
        | cons second rest =>
          have hbehind : OneLine ('.' :: (second :: rest)) := OneLine.cons_iff.2 ⟨by decide, hrest⟩
          exact OneLine.append_iff.2 ⟨OneLine.cons_iff.2 ⟨hfirst, hbehind⟩, hexponent⟩

namespace Json

theorem oneLine_escape (c : Char) : OneLine (escape c) := by
  unfold escape
  split
  case h_8 =>
    split
    · simp [OneLine.toDigits, OneLine.replicate]
    · next hlarge => simpa using hlarge
  all_goals simp

theorem oneLine_writeString (s : String) : OneLine (writeString s) := by
  have hescaped : OneLine (s.toList.flatMap escape) := by
    intro c hc
    obtain ⟨c', -, hmem⟩ := List.mem_flatMap.1 hc
    exact oneLine_escape c' c hmem
  simp [writeString, hescaped]

theorem oneLine_writeNumber (n : Number) : OneLine (writeNumber n) := by
  cases n with
  | natural n => exact .toDigits 10 n
  | negative n => simpa [writeNumber] using OneLine.toDigits 10 n
  | real x => exact x.oneLine_write

mutual

theorem oneLine_writeBefore {rest : List Char} (hrest : OneLine rest) :
    ∀ json : Json, OneLine (json.writeBefore rest)
  | .null | .unusable | .bool true | .bool false => by simp [writeBefore, hrest]
  | .number n => by simp [writeBefore, oneLine_writeNumber n, hrest]
  | .string s => by simp [writeBefore, oneLine_writeString s, hrest]
  | .array items => by
    have hitems : OneLine (writeItems (']' :: rest) items) :=
      oneLine_writeItems (by simpa using hrest) items
    simp [writeBefore, hitems]
  | .object entries => by
    have hentries : OneLine (writeEntries ('}' :: rest) entries) :=
      oneLine_writeEntries (by simpa using hrest) entries
    simp [writeBefore, hentries]

theorem oneLine_writeItems {rest : List Char} (hrest : OneLine rest) :
    ∀ items : List Json, OneLine (writeItems rest items)
  | [] => hrest
  | [item] => oneLine_writeBefore hrest item
  | item :: next :: items => by
    have hitems := oneLine_writeItems hrest (next :: items)
    exact oneLine_writeBefore (by simpa using hitems) item

theorem oneLine_writeEntries {rest : List Char} (hrest : OneLine rest) :
    ∀ entries : List (String × Json), OneLine (writeEntries rest entries)
  | [] => hrest
  | [(key, value)] => by
    have hvalue := oneLine_writeBefore hrest value
    simp [writeEntries, oneLine_writeString key, hvalue]
  | (key, value) :: next :: entries => by
    have hentries := oneLine_writeEntries hrest (next :: entries)
    have hbehind : OneLine (',' :: writeEntries rest (next :: entries)) := by simpa using hentries
    have hvalue := oneLine_writeBefore hbehind value
    simp [writeEntries, oneLine_writeString key, hvalue]

end

theorem oneLine_write (json : Json) : OneLine json.write.toList := by
  simpa [write] using oneLine_writeBefore .nil json

end Json

theorem Lines.ofChars_feed {line : List Char} (hline : OneLine line) (rest : List Char) :
    ofChars (line ++ '\n' :: rest) = line :: ofChars rest := by
  have hkept : dropOne '\r' line.reverse = line.reverse := by
    cases hreverse : line.reverse with
    | nil => rfl
    | cons c before =>
      have hmem : c ∈ line := List.mem_reverse.1 (hreverse ▸ List.mem_cons_self)
      have hc : c ≠ '\r' := fun heq => hline.ret_not_mem (heq ▸ hmem)
      simp [dropOne, hc]
  rw [ofChars, splitFrom_append_cons hline.feed_not_mem, List.append_nil, hkept,
    List.reverse_reverse]
  rfl

namespace Service

def text (s : Service) : List Char := s.output.flatMap fun line => line.toList ++ ['\n']

def WritesLines (s : Service) : Prop := ∀ line ∈ s.output, OneLine line.toList

variable {s : Service}

theorem WritesLines.perform (h : s.WritesLines) (files : Files) (limit : Option Nat)
    (i : Incoming) : (s.perform files limit i).2.WritesLines := by
  unfold Service.perform
  by_cases hmethod : i.method = enableMethod
  · rwa [if_pos hmethod]
  · rw [if_neg hmethod]
    cases Request.ofCall i.method i.arguments with
    | error fault => exact h
    | ok request =>
      intro line hline
      obtain hold | hnew := List.mem_append.1 hline
      · exact h line hold
      · obtain ⟨call, -, rfl⟩ := List.mem_map.1 hnew
        exact call.toJson.oneLine_write

theorem WritesLines.write (h : s.WritesLines) (limit : Option Nat) (json : Json) :
    (s.write limit json.write).2.WritesLines := by
  unfold Service.write
  split
  · intro line hline
    obtain hold | hnew := List.mem_append.1 hline
    · exact h line hold
    · obtain rfl := List.mem_singleton.1 hnew
      exact json.oneLine_write
  · exact h

theorem WritesLines.serveLine (h : s.WritesLines) (files : Files) (limit : Option Nat)
    (line : List Char) : (s.serveLine files limit line).2.WritesLines := by
  obtain hpassed | ⟨hblank, i, hread⟩ := passed_or_read line
  · rwa [s.serveLine_of_passed files hpassed]
  · rw [s.serveLine_of_read files hblank hread]
    have hperformed := h.perform files limit i
    generalize s.perform files limit i = r at hperformed
    obtain ⟨_ | result, s'⟩ := r
    · exact hperformed
    · cases i.id with
      | none => exact hperformed
      | some id => exact WritesLines.write hperformed limit _

theorem WritesLines.serveLines (h : s.WritesLines) (files : Files) (limit : Option Nat)
    (lines : List (List UInt8)) : (s.serveLines files limit lines).2.WritesLines := by
  induction lines generalizing s with
  | nil => exact h
  | cons line lines ih =>
    rw [Service.serveLines]
    cases Utf8.decode line with
    | none => exact h
    | some text =>
      have hserved := h.serveLine files limit text
      cases hline : s.serveLine files limit text with
      | mk fault s' =>
        rw [hline] at hserved
        simp only [hline]
        cases fault with
        | none => exact ih hserved
        | some fault => exact hserved

theorem WritesLines.ofChars_text (h : s.WritesLines) :
    Lines.ofChars s.text = s.output.map String.toList := by
  obtain ⟨highlighter, output⟩ := s
  induction output with
  | nil => rfl
  | cons line output ih =>
    obtain ⟨hline, hrest⟩ := List.forall_mem_cons.1 h
    have hlines := Lines.ofChars_feed hline (text ⟨highlighter, output⟩)
    rw [ih hrest] at hlines
    simpa [text] using hlines

/-- The text that serving writes, to a pipe with a limit or without, has the messages as its lines:
none of them spreads over several. -/
theorem ofChars_text_serve (h : Highlighter) (files : Files) (limit : Option Nat)
    (input : List UInt8) :
    Lines.ofChars (serve h files limit input).2.text =
      (serve h files limit input).2.output.map String.toList := by
  have hempty : WritesLines ⟨h, []⟩ := by simp [WritesLines]
  exact (hempty.serveLines files limit (Lines.ofBytes input)).ofChars_text

end Service

end Highlighting
