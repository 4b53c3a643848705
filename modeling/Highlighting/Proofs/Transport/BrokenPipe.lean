import Highlighting.Proofs.Highlighter.Truncation
import Highlighting.Proofs.Transport.Conversation

/-! A pipe that breaks. -/
namespace Highlighting

def Utterance.isReply : Utterance → Bool
  | .call _ => false
  | .result .. | .error .. => true

theorem Utterance.isReply_reply (id : Json) (result : Except RequestFault Json) :
    (reply id result).isReply = true := by
  cases result <;> rfl

/-- What is said shows in the third character of its text. -/
theorem Utterance.isReply_eq (u : Utterance) : u.isReply = (u.text.toList[2]? != some 'm') := by
  cases u with
  | call c =>
    simp [isReply, text, HostCall.toJson, Json.write, Json.writeBefore, Json.writeEntries,
      Json.writeString, Json.escape]
  | result | error =>
    simp [isReply, text, Json.write, Json.writeBefore, Json.writeEntries, Json.writeString,
      Json.escape]

namespace Service

theorem host_takes (k written : Nat) : (host (some k) written).Takes (k - written) := by
  intro attempts call
  have hfresh : (host (some k) written).accepted = [] := rfl
  rw [hfresh]
  simp only [host, Option.all_some, decide_eq_true_eq]
  split
  · simp; omega
  · simp; omega

/-- Of the lines that one service has written another one has the first; it is the same service
unless some are missing. -/
structure Truncated (k : Nat) (full cut : Service) : Prop where
  output : cut.output = full.output.take k
  same : full.output.length ≤ k → cut = full

variable {k : Nat} {full cut : Service}

theorem Truncated.cases (h : Truncated k full cut) :
    full.output.length ≤ k ∧ cut = full ∨
      k < full.output.length ∧ cut.output.length = k := by
  by_cases hlen : full.output.length ≤ k
  · exact .inl ⟨hlen, h.same hlen⟩
  · refine .inr ⟨by omega, ?_⟩
    rw [h.output, List.length_take]
    omega

theorem Truncated.append (h : Truncated k full cut) (hfull : k < full.output.length)
    (later : List String) (highlighter highlighter' : Highlighter) :
    Truncated k ⟨highlighter, full.output ++ later⟩ ⟨highlighter', cut.output⟩ where
  output := by
    simp only [h.output]
    exact (List.take_append_of_le_length (by omega)).symm
  same hlen := by
    simp only [List.length_append] at hlen
    omega

theorem accepted_of_full {written : Nat} (hfull : k ≤ written) (h : Highlighter) (files : Files)
    (request : Request) : (h.handle files (host (some k) written) request).2.2.accepted = [] := by
  have hcut := Highlighter.handle_cut (host_takes k written) rfl h files request
  rw [hcut.accepted, Nat.sub_eq_zero_of_le hfull, List.take_zero]

theorem handle_truncated (h : Truncated k full cut) (files : Files) (request : Request) :
    let r := full.highlighter.handle files .willing request
    let r' := cut.highlighter.handle files (host (some k) cut.output.length) request
    let full' : Service := ⟨r.2.1, full.output ++ r.2.2.accepted.map fun c => c.toJson.write⟩
    Truncated k full' ⟨r'.2.1, cut.output ++ r'.2.2.accepted.map fun c => c.toJson.write⟩ ∧
      (full'.output.length ≤ k → r'.1 = r.1) := by
  intro r r' full'
  have hcut := Highlighter.handle_cut (host_takes k cut.output.length) rfl cut.highlighter files
    request
  -- As long as nothing is missing the two highlighters are one; from then on the pipe is full.
  obtain ⟨hlen, rfl⟩ | ⟨hfull, hlen⟩ := h.cases
  · have hsame : full'.output.length ≤ k → r'.1 = r.1 ∧ r'.2.1 = r.2.1 := by
      intro hle
      simp only [full', List.length_append, List.length_map] at hle
      have hfits : r.2.2.accepted.length ≤ k - cut.output.length := by omega
      exact hcut.same hfits
    have houtput : cut.output ++ r'.2.2.accepted.map (fun c => c.toJson.write) =
        full'.output.take k := by
      have haccepted : r'.2.2.accepted = r.2.2.accepted.take (k - cut.output.length) :=
        hcut.accepted
      simp only [full', haccepted, List.take_append, List.take_of_length_le hlen, List.map_take]
    refine ⟨⟨houtput, fun hle => ?_⟩, fun hle => (hsame hle).1⟩
    rw [houtput, List.take_of_length_le hle, (hsame hle).2]
  · have hnone : r'.2.2.accepted = [] := accepted_of_full hlen.ge _ files request
    rw [hnone, List.map_nil, List.append_nil]
    refine ⟨h.append hfull _ _ _, fun hle => ?_⟩
    simp only [full', List.length_append] at hle
    omega

theorem perform_truncated (h : Truncated k full cut) (files : Files) (i : Incoming) :
    Truncated k (full.perform files none i).2 (cut.perform files (some k) i).2 ∧
      ((full.perform files none i).2.output.length ≤ k →
        (cut.perform files (some k) i).1 = (full.perform files none i).1) := by
  unfold perform
  by_cases hmethod : i.method = enableMethod
  · simp only [hmethod, if_true]
    refine ⟨⟨h.output, fun hle => ?_⟩, fun _ => trivial⟩
    rw [h.same hle]
  · rw [if_neg hmethod, if_neg hmethod]
    cases Request.ofCall i.method i.arguments with
    | error fault => exact ⟨h, fun _ => rfl⟩
    | ok request =>
      simp only [host_none]
      obtain ⟨htruncated, hsame⟩ := handle_truncated h files request
      exact ⟨htruncated, fun hle => by rw [hsame hle]⟩

theorem write_truncated (h : Truncated k full cut) {line line' : String}
    (hline : full.output.length ≤ k → line' = line) :
    ∃ cut', Truncated k ⟨full.highlighter, full.output ++ [line]⟩ cut' ∧
      cut.write (some k) line' =
        (if k ≤ full.output.length then some .writeFailed else none, cut') := by
  have hlength : cut.output.length = min k full.output.length := by
    rw [h.output, List.length_take]
  by_cases hfull : k ≤ full.output.length
  · have hout : ¬ cut.output.length < k := by omega
    refine ⟨cut, ⟨?_, fun hle => ?_⟩, by simp [write, hout, hfull]⟩
    · rw [h.output, List.take_append_of_le_length hfull]
    · simp only [List.length_append, List.length_singleton] at hle
      omega
  · have hin : cut.output.length < k := by omega
    have hsame := h.same (by omega)
    have hsameLine := hline (by omega)
    refine ⟨⟨full.highlighter, full.output ++ [line]⟩, ⟨?_, fun _ => rfl⟩, ?_⟩
    · exact (List.take_of_length_le (by simp; omega)).symm
    · rw [hsame] at hin ⊢
      simp [write, hin, hfull, hsameLine]

theorem write_highlighter (s : Service) (limit : Option Nat) (line : String) :
    (s.write limit line).2.highlighter = s.highlighter := by
  unfold write
  split <;> rfl

theorem write_of_full {s : Service} (hfull : k ≤ s.output.length) (line : String) :
    s.write (some k) line = (some .writeFailed, s) := by
  rw [write, Option.all_some, if_neg (by simpa using hfull)]

/-- A reply stands behind the first `k` things that are said. -/
def lost (k : Nat) (said : List Utterance) : Bool := (said.drop k).any Utterance.isReply

theorem lost_eq (k : Nat) (said : List Utterance) :
    lost k said =
      ((said.map Utterance.text).drop k).any fun line => line.toList[2]? != some 'm' := by
  rw [lost, funext Utterance.isReply_eq, ← List.map_drop, List.any_map]
  rfl

theorem lost_append (said later : List Utterance) (k : Nat) :
    lost k (said ++ later) = (lost k said || lost (k - said.length) later) := by
  rw [lost, List.drop_append, List.any_append]
  rfl

theorem lt_of_lost {said : List Utterance} (h : lost k said = true) : k < said.length := by
  obtain ⟨u, hmem, -⟩ := List.any_eq_true.1 h
  have hpos := List.length_pos_of_mem hmem
  rw [List.length_drop] at hpos
  omega

theorem lost_calls (calls : List HostCall) (k : Nat) : lost k (calls.map .call) = false := by
  rw [lost, ← List.map_drop, List.any_map]
  simp [Function.comp_def, Utterance.isReply]

theorem lost_spoken (id : Option Json) (calls : List HostCall) (result : Except RequestFault Json)
    (k : Nat) : lost k (spoken id calls result) = (id.isSome && decide (k ≤ calls.length)) := by
  rw [spoken, lost_append, lost_calls, Bool.false_or, List.length_map, lost]
  cases id with
  | none => simp
  | some id =>
    by_cases hk : k ≤ calls.length
    · simp [Nat.sub_eq_zero_of_le hk, hk, Utterance.isReply_reply]
    · rw [List.drop_eq_nil_of_le (by simp; omega)]
      simp [hk]

/-- Where carrying out a call leaves the program, it leaves it behind a pipe that breaks as well. -/
theorem perform_lags {files : Files}
    (l : Highlighter.Lags files full.highlighter cut.highlighter) (i : Incoming)
    (there : (full.perform files none i).1.isSome = true) :
    (cut.perform files (some k) i).1.isSome = true ∧
      Highlighter.Lags files (full.perform files none i).2.highlighter
        (cut.perform files (some k) i).2.highlighter := by
  unfold perform at there ⊢
  by_cases hmethod : i.method = enableMethod
  · simp only [if_pos hmethod, Option.isSome_some, true_and]
    exact ⟨l.left, l.right, l.agree, id⟩
  · simp only [if_neg hmethod] at there ⊢
    cases hcall : Request.ofCall i.method i.arguments with
    | error fault => exact ⟨rfl, l⟩
    | ok request =>
      simp only [hcall, host_none] at there ⊢
      have hgoes : (full.highlighter.handle files .willing request).1 ≠ .aborted := by
        intro habort
        rw [if_pos habort] at there
        cases there
      obtain ⟨hne, hlags⟩ := l.handle (host (some k) cut.output.length) request hgoes
      exact ⟨by rw [if_neg hne]; rfl, hlags⟩

/-- How a line is served behind a pipe that takes `k` lines, beside what is said behind one without
a limit. -/
structure LineCut (files : Files) (k : Nat) (full cut : Service) (said : List Utterance)
    (h' : Highlighter) (result : Option ServeFault × Service) : Prop where
  truncated : Truncated k ⟨h', full.output ++ said.map Utterance.text⟩ result.2
  ends : result.1 = some .aborted ∧ k ≤ full.output.length + said.length ∨
    result.1 = if lost (k - full.output.length) said then some .writeFailed else none
  lags : Highlighter.Lags files full.highlighter cut.highlighter →
    result.1 ≠ some .aborted ∧ Highlighter.Lags files h' result.2.highlighter

theorem LineCut.lost_of_none {said : List Utterance} {h' : Highlighter} {cut' : Service}
    {files : Files} (c : LineCut files k full cut said h' (none, cut')) :
    lost (k - full.output.length) said = false := by
  obtain ⟨hgone, -⟩ | hends := c.ends
  · cases hgone
  · by_contra hlost
    rw [if_pos (by simpa using hlost)] at hends
    cases hends

theorem LineCut.full_of_some {said : List Utterance} {h' : Highlighter} {cut' : Service}
    {files : Files} {fault : ServeFault} (c : LineCut files k full cut said h' (some fault, cut')) :
    k ≤ full.output.length + said.length ∧
      (fault = .aborted ∨ fault = .writeFailed ∧ lost (k - full.output.length) said = true) := by
  obtain ⟨hgone, hle⟩ | hends := c.ends
  · exact ⟨hle, .inl (Option.some.inj hgone)⟩
  · split at hends
    · next hlost =>
      have hlt := lt_of_lost hlost
      exact ⟨by omega, .inr ⟨Option.some.inj hends, hlost⟩⟩
    · cases hends

theorem lineCut_of_performed (h : Truncated k full cut) {files : Files} {line : List Char}
    {i : Incoming} (hblank : Words.isBlank line = false) (hread : Incoming.read? line = some i)
    {result : Except RequestFault Json} {h' : Highlighter} {calls : List HostCall}
    (hperform : full.perform files none i =
      (some result, ⟨h', full.output ++ (calls.map Utterance.call).map Utterance.text⟩)) :
    LineCut files k full cut (spoken i.id calls result) h'
      (cut.serveLine files (some k) line) := by
  obtain ⟨htruncated, hsame⟩ := perform_truncated h files i
  have hlags : Highlighter.Lags files full.highlighter cut.highlighter →
      (cut.perform files (some k) i).1.isSome = true ∧
        Highlighter.Lags files (full.perform files none i).2.highlighter
          (cut.perform files (some k) i).2.highlighter := fun l =>
    perform_lags l i (by rw [hperform]; rfl)
  rw [serveLine_of_read _ files hblank hread]
  rw [hperform] at htruncated hsame hlags
  generalize cut.perform files (some k) i = r at htruncated hsame hlags ⊢
  obtain ⟨_ | result', cut'⟩ := r
  · -- the program is gone only where the pipe is full
    have hfull : k < full.output.length + calls.length := by
      by_contra hle
      have hnone := hsame (by simpa using hle)
      cases hnone
    refine ⟨?_, .inl ⟨rfl, ?_⟩, fun l => ?_⟩
    · have hlater := htruncated.append (by simpa using hfull)
        ((i.id.toList.map fun id => Utterance.reply id result).map Utterance.text) h'
        cut'.highlighter
      simpa [spoken] using hlater
    · simp only [spoken, List.length_append, List.length_map]
      omega
    · cases (hlags l).1
  · cases hid : i.id with
    | none =>
      refine ⟨by simpa [spoken] using htruncated, .inr ?_, fun l => ⟨by simp, (hlags l).2⟩⟩
      rw [lost_spoken]
      rfl
    | some id =>
      obtain ⟨cut'', hwritten, hwrite⟩ := write_truncated htruncated fun hle =>
        congrArg (fun result => (reply id result).write) (Option.some.inj (hsame hle))
      have hkept := write_highlighter cut' (some k) (reply id result').write
      dsimp only at hwritten hwrite ⊢
      rw [hwrite] at hkept ⊢
      refine ⟨?_, .inr ?_, fun l => ⟨?_, ?_⟩⟩
      · simpa [spoken, Utterance.text_reply] using hwritten
      · simp [lost_spoken, Nat.add_comm]
      · split <;> simp
      · exact hkept ▸ (hlags l).2

section Full
variable {s : Service} (hfull : k ≤ s.output.length) (files : Files)
include hfull

theorem perform_of_full (i : Incoming) : (s.perform files (some k) i).2.output = s.output := by
  unfold perform
  by_cases hmethod : i.method = enableMethod
  · rw [if_pos hmethod]
  · rw [if_neg hmethod]
    cases Request.ofCall i.method i.arguments with
    | error fault => rfl
    | ok request =>
      simp only [accepted_of_full hfull, List.map_nil, List.append_nil]

theorem serveLine_of_full (line : List Char) :
    (s.serveLine files (some k) line).2.output = s.output := by
  obtain hpassed | ⟨hblank, i, hread⟩ := passed_or_read line
  · rw [serveLine_of_passed _ files hpassed]
  · rw [serveLine_of_read _ files hblank hread]
    have houtput := perform_of_full hfull files i
    generalize s.perform files (some k) i = r at houtput
    obtain ⟨_ | result, s'⟩ := r
    · exact houtput
    · cases i.id with
      | none => exact houtput
      | some id =>
        dsimp only at houtput ⊢
        rw [write_of_full (houtput ▸ hfull)]
        exact houtput

theorem serveLines_of_full (lines : List (List UInt8)) :
    (s.serveLines files (some k) lines).2.output = s.output := by
  induction lines generalizing s with
  | nil => rfl
  | cons line lines ih =>
    rw [serveLines]
    cases Utf8.decode line with
    | none => rfl
    | some text =>
      have houtput := serveLine_of_full hfull files text
      dsimp only
      generalize s.serveLine files (some k) text = r at houtput
      obtain ⟨_ | fault, s'⟩ := r
      · exact (ih (houtput ▸ hfull)).trans houtput
      · exact houtput

end Full

/-- A call that takes the program down behind a pipe without a limit leaves it, if at all, behind a
full pipe. -/
theorem serveLine_aborted (h : Truncated k full cut) {files : Files} {line : List Char}
    {i : Incoming} (hblank : Words.isBlank line = false) (hread : Incoming.read? line = some i)
    {h' : Highlighter} (hperform : full.perform files none i = (none, ⟨h', full.output⟩)) :
    let result := cut.serveLine files (some k) line
    result.2.output = full.output.take k ∧
      (result.1 = some .aborted ∨ k ≤ result.2.output.length) := by
  intro result
  obtain ⟨htruncated, hsame⟩ := perform_truncated h files i
  have hserve := serveLine_of_read cut files hblank hread (some k)
  rw [hperform] at htruncated hsame
  generalize cut.perform files (some k) i = r at htruncated hsame hserve
  obtain ⟨_ | answer, cut'⟩ := r
  · simp only [result, hserve]
    exact ⟨htruncated.output, .inl trivial⟩
  · have hlength : cut'.output.length = k := by
      obtain ⟨hle, -⟩ | ⟨-, hlength⟩ := htruncated.cases
      · cases hsame hle
      · exact hlength
    have houtput : result.2.output = cut'.output := by
      simp only [result, hserve]
      cases i.id with
      | none => rfl
      | some id => exact congrArg (fun r => r.2.output) (write_of_full hlength.ge _)
    rw [houtput]
    exact ⟨htruncated.output, .inr hlength.ge⟩

theorem serveLine_truncated (h : Truncated k full cut) (files : Files) (line : List Char) :
    (∃ said h', Said files full.highlighter line said h' ∧
      full.serveLine files none line = (none, ⟨h', full.output ++ said.map Utterance.text⟩) ∧
      LineCut files k full cut said h' (cut.serveLine files (some k) line)) ∨
    ∃ h', Fatal files full.highlighter line h' ∧
      full.serveLine files none line = (some .aborted, ⟨h', full.output⟩) ∧
      (cut.serveLine files (some k) line).2.output = full.output.take k ∧
      ((cut.serveLine files (some k) line).1 = some .aborted ∨
        k ≤ (cut.serveLine files (some k) line).2.output.length) := by
  obtain hpassed | ⟨hblank, i, hread⟩ := passed_or_read line
  · refine .inl ⟨[], full.highlighter, said_of_passed files hpassed _, ?_, ?_⟩
    · simp [serveLine_of_passed _ files hpassed]
    · rw [serveLine_of_passed _ files hpassed]
      exact ⟨by simpa using h, .inr (by simp [lost]), fun l => ⟨nofun, l⟩⟩
  obtain ⟨result, h', calls, hperformed, hperform⟩ |
    ⟨request, h', host, hmethod, hcall, hrun, hperform⟩ := full.perform_cases files i
  · exact .inl ⟨_, h', said_of_performed files hblank hread hperformed,
      serveLine_of_performed _ files hblank hread hperform,
      lineCut_of_performed h hblank hread hperform⟩
  · refine .inr ⟨h', .intro hblank (Incoming.read?_eq_some_iff.1 hread) hmethod hcall hrun, ?_,
      serveLine_aborted h hblank hread hperform⟩
    rw [serveLine_of_read _ files hblank hread, hperform]

/-- How lines are served behind a pipe that takes `k` lines: the lines that are written are the
first ones of what would be, and serving ends at the first reply that is not taken. -/
theorem serveLines_truncated (files : Files) {lines : List (List UInt8)} {texts : List (List Char)}
    (htexts : lines.map Utf8.decode = texts.map some) (h : Truncated k full cut) :
    ∃ parts h' gone, Conversation files full.highlighter texts parts h' gone ∧
      let output := full.output ++ parts.flatten.map Utterance.text
      let missing := lost (k - full.output.length) parts.flatten
      let result := cut.serveLines files (some k) lines
      full.serveLines files none lines = (if gone then some .aborted else none, ⟨h', output⟩) ∧
      result.2.output = output.take k ∧
      (result.1 ≠ some .aborted ∨ Highlighter.Lags files full.highlighter cut.highlighter →
        (missing = true → result.1 = some .writeFailed) ∧
        (missing = false → gone = false → result.1 = none)) := by
  induction lines generalizing texts full cut with
  | nil =>
    obtain rfl : texts = [] := List.map_eq_nil_iff.1 htexts.symm
    refine ⟨[], full.highlighter, false, .nil _, ?_⟩
    rw [List.flatten_nil, List.map_nil, List.append_nil]
    exact ⟨rfl, h.output, fun _ => ⟨by simp [lost], fun _ _ => rfl⟩⟩
  | cons line lines ih =>
    cases texts with
    | nil => cases htexts
    | cons text texts =>
      obtain ⟨hline, hlines⟩ := List.cons_eq_cons.1 htexts
      simp only [serveLines, hline]
      obtain ⟨said, h', hsaid, hserve, hcut⟩ | ⟨h', hfatal, hserve, houtput, hends⟩ :=
        serveLine_truncated h files text
      · obtain ⟨parts, h'', gone, hparts, hrest, houtput, hends⟩ := ih hlines hcut.truncated
        generalize cut.serveLine files (some k) text = r at hcut houtput hends ⊢
        obtain ⟨fault, cut'⟩ := r
        refine ⟨said :: parts, h'', gone, .cons hsaid hparts, ?_⟩
        simp only [hserve, List.flatten_cons, List.map_append, ← List.append_assoc, lost_append]
        simp only [List.length_append, List.length_map, ← Nat.sub_sub] at hends
        refine ⟨hrest, ?_⟩
        cases fault with
        | none =>
          refine ⟨houtput, fun hkept => ?_⟩
          rw [hcut.lost_of_none, Bool.false_or]
          exact hends (hkept.imp_right fun l => (hcut.lags l).2)
        | some fault =>
          -- there is no room for what would be written later
          obtain ⟨hfull, hends⟩ := hcut.full_of_some
          have hroom : k ≤ (full.output ++ said.map Utterance.text).length := by
            rwa [List.length_append, List.length_map]
          refine ⟨hcut.truncated.output.trans (List.take_append_of_le_length hroom).symm,
            fun hkept => ?_⟩
          obtain rfl | ⟨rfl, hlost⟩ := hends
          · exact (hkept.elim (absurd rfl) fun l => (hcut.lags l).1 rfl).elim
          · rw [hlost, Bool.true_or]
            exact ⟨fun _ => rfl, fun hnone => by cases hnone⟩
      · refine ⟨[], h', true, .gone hfatal texts, ?_⟩
        rw [List.flatten_nil, List.map_nil, List.append_nil, hserve]
        generalize cut.serveLine files (some k) text = r at houtput hends ⊢
        obtain ⟨_ | fault, cut'⟩ := r
        · have hfull : k ≤ cut'.output.length := hends.resolve_left (by simp)
          refine ⟨rfl, (serveLines_of_full hfull files lines).trans houtput, fun _ => ?_⟩
          exact ⟨by simp [lost], fun _ hgoes => by cases hgoes⟩
        · exact ⟨rfl, houtput, fun _ => ⟨by simp [lost], fun _ hgoes => by cases hgoes⟩⟩

/-- Behind a pipe that breaks after `k` lines, serving text writes the first `k` of the lines that
it would write. As long as no call takes the program down, it ends with an error exactly if one of
the others is a reply; a line that asks for no reply is never the reason. -/
theorem broken_pipe_truncates (files : Files) (h : Highlighter) {input : List UInt8}
    {text : List Char} (htext : Utf8.decode input = some text) (k : Nat) :
    let cut := serve h files (some k) input
    (∃ parts h' gone, Conversation files h (Lines.ofChars text) parts h' gone ∧
      serve h files none input =
        (if gone then some .aborted else none, ⟨h', parts.flatten.map Utterance.text⟩) ∧
      cut.2.output = (parts.flatten.map Utterance.text).take k ∧
      (cut.1 ≠ some .aborted ∨ h.tokenizer.Coherent ∧ h.tokenizer.registry.Fits files →
        (lost k parts.flatten = true → cut.1 = some .writeFailed) ∧
        (lost k parts.flatten = false → gone = false → cut.1 = none)) ∧
      (h.Bounded files →
        gone = false ∧ cut.1 = if lost k parts.flatten then some .writeFailed else none)) ∧
    ∀ (s : Service) (line : List Char), (∀ i, Incoming.Spells line i → i.id = none) →
      (s.serveLine files (some k) line).1 ≠ some .writeFailed := by
  intro cut
  constructor
  · have hempty : Truncated k ⟨h, []⟩ ⟨h, []⟩ := ⟨by simp, fun _ => rfl⟩
    obtain ⟨parts, h', gone, hparts, hserve, houtput, hends⟩ :=
      serveLines_truncated files (Lines.decode_ofBytes htext) hempty
    have hsettled : cut.1 ≠ some .aborted ∨
        h.tokenizer.Coherent ∧ h.tokenizer.registry.Fits files →
          (lost k parts.flatten = true → cut.1 = some .writeFailed) ∧
          (lost k parts.flatten = false → gone = false → cut.1 = none) := fun hkept =>
      hends (hkept.imp_right fun ⟨coherent, fits⟩ => .refl coherent fits)
    refine ⟨parts, h', gone, hparts, hserve, houtput, hsettled, fun b => ?_⟩
    obtain ⟨hlost, hnone⟩ := hsettled (.inr ⟨b.coherent, b.fits⟩)
    have hgone := hparts.not_gone b
    refine ⟨hgone, ?_⟩
    cases hl : lost k parts.flatten with
    | true => exact hlost hl
    | false => exact hnone hl hgone
  · intro s line hunasked
    obtain hpassed | ⟨hblank, i, hread⟩ := passed_or_read line
    · rw [serveLine_of_passed _ files hpassed]
      nofun
    · rw [serveLine_of_read _ files hblank hread,
        hunasked i (Incoming.read?_eq_some_iff.1 hread)]
      rcases s.perform files (some k) i with ⟨_ | result, s'⟩ <;> nofun

theorem lost_sampleOutput (k : Nat) :
    (sampleOutput.drop k).any (fun line => line.toList[2]? != some 'm') = decide (k < 4) := by
  have hreplies : sampleOutput.map (fun line => line.toList[2]? != some 'm') =
      [false, true, true, true, false, false] := by
    simp [sampleOutput]
  have hmap : (sampleOutput.drop k).any (fun line => line.toList[2]? != some 'm') =
      ([false, true, true, true, false, false].drop k).any id := by
    rw [← hreplies, ← List.map_drop, List.any_map]
    rfl
  rw [hmap]
  by_cases hk : k < 6
  · have hall : ∀ k < 6,
        ([false, true, true, true, false, false].drop k).any id = decide (k < 4) := by
      decide
    exact hall k hk
  · rw [List.drop_eq_nil_of_le (by simp; omega)]
    simp
    omega

def undecorateLine : List Char := "[null,\"undecorate\",[1,0]]".toList

def undecorateCall : Incoming where
  id := none
  method := "undecorate"
  arguments := [.number (.natural 1), .number (.natural 0)]

theorem read?_undecorateLine : Incoming.read? undecorateLine = some undecorateCall := by cbv

theorem broken_pipe_truncates_sample :
    let files := Sample.installed "c" "x"
    let cut := fun k => serve sampleStart files (some k) (Sample.bytes sampleText)
    (∀ k, (cut k).2.output = sampleOutput.take k ∧
      (cut k).1 = if k < 4 then some .writeFailed else none) ∧
    Incoming.Spells undecorateLine undecorateCall ∧
      (Service.serveLine ⟨sampleStart, []⟩ files (some 0) undecorateLine).1 ≠
        some .writeFailed := by
  intro files cut
  have hspells := Incoming.read?_eq_some_iff.1 read?_undecorateLine
  have hunasked : ∀ i, Incoming.Spells undecorateLine i → i.id = none := by
    intro i hi
    obtain rfl := Option.some.inj (read?_undecorateLine.symm.trans
        (Incoming.read?_eq_some_iff.2 hi))
    rfl
  refine ⟨fun k => ?_, hspells,
    (broken_pipe_truncates files sampleStart decode_sampleText 0).2 _ _ hunasked⟩
  obtain ⟨parts, h', gone, -, hserve, houtput, -, hbounded⟩ :=
    (broken_pipe_truncates files sampleStart decode_sampleText k).1
  obtain ⟨-, hends⟩ := hbounded sampleStart_bounded
  have htexts : parts.flatten.map Utterance.text = sampleOutput := by
    rw [← serve_sampleText.2, hserve]
  rw [lost_eq, htexts, lost_sampleOutput] at hends
  rw [htexts] at houtput
  exact ⟨houtput, by simpa using hends⟩

theorem serveLine_undecorateLine (h : Highlighter) (files : Files) :
    (Service.mk h []).serveLine files none undecorateLine =
        (none, ⟨{ h with store := h.store.apply (.removeMarks 1 ⟨0, none⟩) },
          [(HostCall.removeMarks 1 ⟨0, none⟩).toJson.write]⟩) ∧
      (Service.mk h []).serveLine files (some 0) undecorateLine =
        (none, ⟨{ h with disabled := true }, []⟩) := by
  have hblank : Words.isBlank undecorateLine = false := by cbv
  have hmethod : undecorateCall.method ≠ enableMethod := by simp [undecorateCall, enableMethod]
  have hcall : Request.ofCall undecorateCall.method undecorateCall.arguments =
      .ok (.undecorate 1 ⟨0, none⟩) := by cbv
  rw [serveLine_of_read _ _ hblank read?_undecorateLine,
    serveLine_of_read _ _ hblank read?_undecorateLine]
  unfold perform
  rw [if_neg hmethod, if_neg hmethod, hcall]
  simp only [host_none, Highlighter.handle, Highlighter.undecorate_eq, MarkStore.callAll]
  exact ⟨rfl, rfl⟩

theorem serveLine_fatalLine_of_disabled {s : Service} (hoff : s.highlighter.disabled = true)
    {k : Nat} (hfull : k ≤ s.output.length) :
    s.serveLine Sample.files (some k) fatalLine = (some .writeFailed, s) := by
  rw [serveLine_of_read _ _ isBlank_fatalLine read?_fatalLine, perform, if_neg fatalCall_method,
    ofCall_fatalCall]
  simp only [Highlighter.handle, Highlighter.highlight_of_disabled _ _ hoff, reduceCtorEq, if_false,
    Host.accepted, host, List.filter_nil, List.map_nil, List.append_nil]
  exact write_of_full hfull _

/-- Behind a full pipe a call to the editor is refused and turns highlighting off, so that the call
that would take the program down is replied to. -/
theorem broken_pipe_truncates_fatal :
    let input := Sample.bytes (undecorateLine ++ '\n' :: fatalLine)
    let full := serve fatalStart Sample.files none input
    let cut := serve fatalStart Sample.files (some 0) input
    full.1 = some .aborted ∧
      full.2.output =
        ["\x7b\"method\":\"removeHighlightMarks\"," ++
          "\"params\":\x7b\"bufnr\":1,\"start\":0,\"end\":null\x7d\x7d"] ∧
      cut.1 = some .writeFailed ∧ cut.2.output = [] := by
  intro input full cut
  have hlines : Lines.ofBytes (Sample.bytes (undecorateLine ++ '\n' :: fatalLine)) =
      [Sample.bytes undecorateLine, Sample.bytes fatalLine] := by cbv
  have hfirst : Utf8.decode (Sample.bytes undecorateLine) = some undecorateLine := by cbv
  have hsecond : Utf8.decode (Sample.bytes fatalLine) = some fatalLine := by cbv
  obtain ⟨hremoved, hrefused⟩ := serveLine_undecorateLine fatalStart Sample.files
  obtain ⟨h', hfatal⟩ := serveLine_fatalLine
    (s := ⟨{ fatalStart with store := fatalStart.store.apply (.removeMarks 1 ⟨0, none⟩) },
      [(HostCall.removeMarks 1 ⟨0, none⟩).toJson.write]⟩) rfl rfl
  have hreplied := serveLine_fatalLine_of_disabled
    (s := ⟨{ fatalStart with disabled := true }, []⟩) rfl (Nat.zero_le 0)
  have hfull : full = (some .aborted, ⟨h', [(HostCall.removeMarks 1 ⟨0, none⟩).toJson.write]⟩) := by
    simp only [full, serve, input, hlines, serveLines, hfirst, hsecond, hremoved, hfatal]
  have hcut : cut = (some .writeFailed, ⟨{ fatalStart with disabled := true }, []⟩) := by
    simp only [cut, serve, input, hlines, serveLines, hfirst, hsecond, hrefused, hreplied]
  rw [hfull, hcut]
  exact ⟨rfl, by cbv, rfl, rfl⟩

end Service

end Highlighting
