import Highlighting.Proofs.Sample
import Highlighting.Proofs.Tokenizer.Changes

/-! What a parse says has changed, told from the calls before it alone. -/
namespace Highlighting

/-- The number of lines that two texts begin with alike. -/
def CommonLength (old new : List String) (n : Nat) : Prop :=
  ∃ common, common <+: old ∧ common <+: new ∧ common.length = n ∧
    ∀ other, other <+: old → other <+: new → other.length ≤ n

theorem commonLength_of_firstDifference {old new : List String} {start : Nat}
    (h : firstDifference old new = some start) : CommonLength old new start := by
  obtain ⟨hold, hnew, htake, hdiffer⟩ := firstDifference_eq_some h
  refine ⟨old.take start, List.take_prefix _ _, htake ▸ List.take_prefix _ _,
    List.length_take_of_le hold, fun other ho hn => ?_⟩
  -- a longer common beginning would have the same line at `start`
  refine Nat.le_of_not_lt fun hlt => hdiffer ?_
  rw [List.prefix_iff_getElem?.1 ho start hlt, List.prefix_iff_getElem?.1 hn start hlt]

namespace Tokenizer

structure Done where
  scopeName : String
  lines : List String
  tokens : List Token

/-- What a parse of a buffer says of the lines given, where `last` is the parse before it. -/
structure Done.ChangesTo (last : Done) (lines : List String) (parsed : Parsed) : Prop where
  none_iff : parsed.changeStart = none ↔ lines = last.lines
  start_common : ∀ start, parsed.changeStart = some start → CommonLength last.lines lines start
  kept : parsed.tokens.filter (fun t => parsed.changeStart.all (t.line < ·)) =
    last.tokens.filter fun t => parsed.changeStart.all (t.line < ·)
  differ : ∀ line, parsed.tokens.filter (·.line = line) ≠ last.tokens.filter (·.line = line) →
    ∃ start, parsed.changeStart = some start ∧ start ≤ line

/-- What the caller knows of a buffer after one call more. -/
def remember (t : Tokenizer) (files : Files) (buffer : Nat) (last : Option Done) :
    Call → Option Done
  | .parse other scopeName lines =>
    if other = buffer then
      match (t.parse files other scopeName lines).1 with
      | .ok parsed => some ⟨scopeName, lines, parsed.tokens⟩
      | .error _ => last
    else last
  | .forget other => if other = buffer then none else last
  | .tokenize .. | .scopeName _ => last

def lastDone (buffer : Nat) : Tokenizer → Option Done → List (Files × Call) → Option Done
  | _, last, [] => last
  | t, last, (files, call) :: calls =>
    lastDone buffer (t.step files call) (t.remember files buffer last call) calls

def done? (t : Tokenizer) (buffer : Nat) : Option Done :=
  (t.buffers.get? buffer).map fun s => ⟨s.scopeName, s.lines, s.tokens.flatten⟩

/-- A tokenizer keeps of a buffer what its caller knows. -/
theorem done?_step (t : Tokenizer) (files : Files) (buffer : Nat) (call : Call) :
    (t.step files call).done? buffer = t.remember files buffer (t.done? buffer) call := by
  cases call with
  | parse other scopeName lines =>
    rw [step, remember]
    rcases hp : t.parse files other scopeName lines with ⟨failure | parsed, t'⟩
    · have hb := (parse_error hp).1
      simp only [done?, hb, ite_self]
    · obtain ⟨g, s, -, rfl, hn, hl, ht⟩ := parse_ok hp
      by_cases ho : other = buffer
      · subst other
        simp only [done?, if_true, Table.get?_put_self, Option.map_some, hn, hl, ht]
      · simp only [done?, if_neg ho, Table.get?_put_of_ne _ _ (Ne.symm ho)]
  | tokenize scopeName lines => rfl
  | forget other =>
    rw [step, remember, done?, forget]
    by_cases ho : other = buffer
    · subst other
      rw [Table.get?_erase_self, if_pos rfl]
      rfl
    · rw [Table.get?_erase_of_ne _ (Ne.symm ho), if_neg ho]
      rfl
  | scopeName path => rfl

theorem done?_run (t : Tokenizer) (buffer : Nat) (calls : List (Files × Call)) :
    (t.run calls).done? buffer = lastDone buffer t (t.done? buffer) calls := by
  induction calls generalizing t with
  | nil => rfl
  | cons call calls ih =>
    obtain ⟨files, call⟩ := call
    have hstep := done?_step t files buffer call
    rw [lastDone, ← hstep]
    exact ih (t.step files call)

variable {g : Grammar} {s : BufferState}

/-- A scan on top of a buffer's state changes what the first difference of the lines says. -/
theorem changesTo_of_scan (hc : s.Coherent g) {lines : List String} {tokens : List (List Token)}
    {ends : List Stack} (hs : g.scanLines 0 (.initial g) lines {} = .ok (tokens, ends)) :
    Done.ChangesTo ⟨s.scopeName, s.lines, s.tokens.flatten⟩ lines
      ⟨tokens.flatten, firstDifference s.lines lines⟩ := by
  cases hd : firstDifference s.lines lines with
  | none =>
    have hlines := firstDifference_eq_none_iff.1 hd
    obtain rfl := tokens_eq_of_same hc hs hlines
    exact ⟨iff_of_true rfl hlines.symm, nofun, rfl, fun line hne => absurd rfl hne⟩
  | some start =>
    have hkept := tokens_unchanged hc hs hd
    have hne : lines ≠ s.lines := by
      rintro rfl
      exact Option.some_ne_none start (hd.symm.trans (firstDifference_eq_none_iff.2 rfl))
    refine ⟨iff_of_false nofun hne, ?_, hkept, fun line hdiffer => ⟨start, rfl, ?_⟩⟩
    · rintro _ ⟨⟩
      exact commonLength_of_firstDifference hd
    · refine Nat.le_of_not_lt fun hlt => hdiffer ?_
      -- the tokens of a line above `start` are among those that are kept
      have hline : ∀ all : List Token, all.filter (·.line = line) =
          (all.filter (·.line < start)).filter (·.line = line) := by
        intro all
        rw [List.filter_filter]
        refine List.filter_congr fun t _ => ?_
        by_cases ht : t.line = line <;> simp [ht, hlt]
      rw [hline, hline s.tokens.flatten, hkept]

/-- After any calls, failed ones included, a parse that succeeds has changed everything if the
buffer has no parse that counts, or one with another scope; else it has changed the lines from the
first one that differs on, and the tokens above are those of that last parse. -/
theorem changeStart_exact (registry : Registry) (calls : List (Files × Call)) (files : Files)
    (buffer : Nat) (scopeName : String) (lines : List String) (parsed : Parsed)
    (h : ((run { registry := registry } calls).parse files buffer scopeName lines).1 =
      .ok parsed) :
    match lastDone buffer { registry := registry } none calls with
    | none => parsed.changeStart = some 0
    | some last =>
      if last.scopeName = scopeName then last.ChangesTo lines parsed
      else parsed.changeStart = some 0 := by
  have hlast := done?_run { registry := registry } buffer calls
  have hcoherent := (coherent_of_registry registry).run calls
  generalize run { registry := registry } calls = t at h hlast hcoherent
  obtain ⟨failure, hp, -⟩ | ⟨g, tokens, ends, hl, hs, hp⟩ :=
    hcoherent.parse_cases files buffer scopeName lines
  · rw [hp] at h
    cases h
  rw [hp] at h
  cases h
  rw [show lastDone buffer { registry := registry } none calls = t.done? buffer from hlast.symm,
    done?]
  cases hb : t.buffers.get? buffer with
  | none => rfl
  | some s =>
    rw [Option.map_some]
    by_cases hn : s.scopeName = scopeName
    · have hscan := changesTo_of_scan (hcoherent.previous hl s hb hn) hs
      simpa only [resume, hn, if_true] using hscan
    · simp only [resume, hn, if_false]

theorem changeStart_exact_edited :
    let calls : List (Files × Call) := [(Sample.files, .parse 1 "source.k" ["k", "k"]),
      (Sample.files, .parse 1 "source.x" [""]), (Sample.files, .parse 2 "source.k" ["k"])]
    let old : Done := ⟨"source.k", ["k", "k"],
      [⟨["source.k", "keyword.k"], 0, 0, 1⟩, ⟨["source.k", "keyword.k"], 1, 0, 1⟩]⟩
    let new : Parsed := ⟨[⟨["source.k", "keyword.k"], 0, 0, 1⟩, ⟨["source.k"], 1, 0, 1⟩,
      ⟨["source.k", "keyword.k"], 1, 1, 1⟩], some 1⟩
    ((run { registry := Sample.registry } calls).parse Sample.files 1 "source.k" ["k", " k"]).1 =
        .ok new ∧
      lastDone 1 { registry := Sample.registry } none calls = some old ∧
      old.ChangesTo ["k", " k"] new := by
  intro calls old new
  have hparse : ((run { registry := Sample.registry } calls).parse Sample.files 1 "source.k"
      ["k", " k"]).1 = .ok new := by
    unfold calls new
    cbv
  have hold : lastDone 1 { registry := Sample.registry } none calls = some old := by
    unfold calls old
    cbv
  have hexact := changeStart_exact Sample.registry calls Sample.files 1 "source.k" _ new hparse
  rw [hold] at hexact
  exact ⟨hparse, hold, hexact⟩

end Tokenizer

end Highlighting
