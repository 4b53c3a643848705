import Highlighting.Proofs.Highlighter.Reachable
import Highlighting.Proofs.Sample

/-! What a request for marks asks of the editor, and what it leaves in the store. -/
namespace Highlighting
open MarkStore (addCalls removeCalls)

theorem GroupRule.contains_of_mem_marksOn {rule : GroupRule} {tokens : List Token}
    {range : LineRange} {m : Mark} (h : m ∈ rule.marksOn tokens range) :
    range.contains m.line = true := by
  obtain ⟨t, ht, hm⟩ := List.mem_filterMap.1 h
  exact GroupRule.mark?_line hm ▸ (List.mem_filter.1 ht).2

namespace MarkStore

structure Extended (buffer : Nat) (marks : List Mark) (old new : MarkStore) : Prop where
  onLine_eq : ∀ line,
    onLine line (new.marks buffer) = onLine line (old.marks buffer) ++ onLine line marks
  others : ∀ other, other ≠ buffer → new.marks other = old.marks other

structure Replaced (buffer : Nat) (range : LineRange) (marks : List Mark)
    (old new : MarkStore) : Prop where
  onLine_eq : ∀ line, onLine line (new.marks buffer) =
    if range.contains line then onLine line marks else onLine line (old.marks buffer)
  others : ∀ other, other ≠ buffer → new.marks other = old.marks other

variable {s : MarkStore} {buffer : Nat}

theorem extended_addCalls (h : ByLine (s.marks buffer)) (marks : List Mark) :
    s.Extended buffer marks ((addCalls buffer marks).foldl apply s) :=
  ⟨onLine_addCalls h marks, fun _ ho => marks_addCalls_of_ne ho marks⟩

theorem replaced_of_calls (h : ∀ buffer, ByLine (s.marks buffer)) {range : LineRange}
    {marks : List Mark} (hin : ∀ m ∈ marks, range.contains m.line = true) :
    s.Replaced buffer range marks
      ((removeCalls buffer range ++ addCalls buffer marks).foldl apply s) := by
  rw [List.foldl_append]
  have hcleared := byLine_foldl_apply h (removeCalls buffer range) buffer
  refine ⟨fun line => ?_, fun other ho => ?_⟩
  · rw [onLine_addCalls hcleared, onLine_removeCalls (h buffer)]
    split
    · rfl
    · next hout =>
      have hnone : onLine line marks = [] := by
        refine List.filter_eq_nil_iff.2 fun m hm => ?_
        simp only [decide_eq_true_eq]
        rintro rfl
        exact hout (hin m hm)
      rw [hnone, List.append_nil]
  · rw [marks_addCalls_of_ne ho, marks_removeCalls_of_ne ho]

end MarkStore

namespace Highlighter
variable (h : Highlighter) (files : Files) (host : Host) (buffer : Nat) (v : View)

structure Reads (scopeName : String) (tokens : List Token) (changeStart : Option Nat)
    (tokenizer : Tokenizer) : Prop where
  parses : h.Parses files buffer v scopeName ⟨tokens, changeStart⟩ tokenizer
  current : ((h.tokenizer.scopeName files v.path).2.tokenize files scopeName v.lines).1 = .ok tokens

/-- What becomes of a request for marks, with all that it asks of the editor. -/
inductive Traced : Outcome × Highlighter × Host → Prop
  | skipped (reason : SkipReason) (tokenizer : Tokenizer) :
      Traced (.skipped reason, { h with tokenizer := tokenizer }, host)
  /-- The program is gone before it has asked for anything. -/
  | aborted (tokenizer : Tokenizer) (exhausts : h.Exhausts files buffer v tokenizer) :
      Traced (.aborted, { h with tokenizer := tokenizer }, host)
  | noChange {scopeName : String} {tokens : List Token} {tokenizer : Tokenizer}
      (reads : h.Reads files buffer v scopeName tokens none tokenizer)
      (refresh : v.refresh = false) :
      Traced (.noChange, { h with tokenizer := tokenizer }, host)
  | partialUpdate {scopeName : String} {tokens : List Token} {start : Nat} {tokenizer : Tokenizer}
      {marks : List Mark} {store : MarkStore}
      (reads : h.Reads files buffer v scopeName tokens (some start) tokenizer)
      (refresh : v.refresh = false)
      (wanted : marks =
        (h.rules.resolve scopeName).marksOn tokens (.between start v.visibleEnd))
      (extended : h.store.Extended buffer marks store) :
      Traced (.partialUpdate start v.visibleEnd marks.length,
        { h with tokenizer := tokenizer, store := store },
        { host with attempts := host.attempts ++ (addCalls buffer marks).map (⟨·, none⟩) })
  | fullRefresh {scopeName : String} {tokens : List Token} {changeStart : Option Nat}
      {tokenizer : Tokenizer} {range : LineRange} {marks : List Mark} {store : MarkStore}
      (reads : h.Reads files buffer v scopeName tokens changeStart tokenizer)
      (refresh : v.refresh = true)
      (whole : range = changeStart.elim .all fun start => .between start v.visibleEnd)
      (wanted : marks = (h.rules.resolve scopeName).marksOn tokens range)
      (replaced : h.store.Replaced buffer range marks store) :
      Traced (.fullRefresh range.first range.last marks.length,
        { h with tokenizer := tokenizer, store := store },
        { host with attempts := host.attempts ++
            (removeCalls buffer range ++ addCalls buffer marks).map (⟨·, none⟩) })
  /-- The editor refuses one of the calls that a plan comes to. -/
  | refused {scopeName : String} {tokens : List Token} {changeStart : Option Nat}
      {tokenizer : Tokenizer} {before after : List HostCall} {call : HostCall} (reason : String)
      (refusal : Option String)
      (reads : h.Reads files buffer v scopeName tokens changeStart tokenizer)
      (planned : (Plan.decide changeStart v.refresh v.visibleEnd).calls buffer
        (h.rules.resolve scopeName) tokens = before ++ call :: after) :
      Traced (.disabled (.highlightApply reason),
        { h with
          tokenizer := tokenizer, store := before.foldl MarkStore.apply h.store, disabled := true },
        { host with attempts := host.attempts ++ before.map (⟨·, none⟩) ++
            [⟨call, some reason⟩, ⟨.disable, refusal⟩] })
  /-- There is no plan. -/
  | failed (failure : Failure) (tokenizer : Tokenizer) (refusal : Option String)
      (own : ∀ reason, failure ≠ .highlightApply reason) :
      Traced (.disabled failure, { h with tokenizer := tokenizer, disabled := true },
        { host with attempts := host.attempts ++ [⟨.disable, refusal⟩] })

variable {h files buffer v}

def accept (h : Highlighter) (host : Host) (buffer : Nat) (rule : GroupRule) (tokens : List Token)
    (visibleEnd : Nat) (plan : Plan) : Outcome × Highlighter × Host :=
  (plan.answer rule tokens visibleEnd,
    { h with store := (plan.calls buffer rule tokens).foldl MarkStore.apply h.store },
    { host with attempts := host.attempts ++ (plan.calls buffer rule tokens).map (⟨·, none⟩) })

theorem Reads.accepted (sound : h.Sound) {scopeName : String} {tokens : List Token}
    {changeStart : Option Nat} {tokenizer : Tokenizer}
    (reads : h.Reads files buffer v scopeName tokens changeStart tokenizer) (host : Host) :
    Traced h files host buffer v
      (accept { h with tokenizer := tokenizer } host buffer (h.rules.resolve scopeName) tokens
        v.visibleEnd (.decide changeStart v.refresh v.visibleEnd)) := by
  have renewed : ∀ range, v.refresh = true →
      range = changeStart.elim .all (fun start => .between start v.visibleEnd) →
      Traced h files host buffer v
        (accept { h with tokenizer := tokenizer } host buffer (h.rules.resolve scopeName) tokens
          v.visibleEnd (.fullRefresh range range)) := by
    intro range hrefresh hrange
    refine .fullRefresh reads hrefresh hrange rfl (MarkStore.replaced_of_calls sound.byLine ?_)
    exact fun m => GroupRule.contains_of_mem_marksOn
  cases hrefresh : v.refresh with
  | true =>
    cases changeStart with
    | none => exact renewed .all hrefresh rfl
    | some start => exact renewed (.between start v.visibleEnd) hrefresh rfl
  | false =>
    cases changeStart with
    | none =>
      have htraced : Traced h files host buffer v _ := .noChange reads hrefresh
      simpa [accept, Plan.decide, Plan.calls, Plan.answer] using htraced
    | some start =>
      exact .partialUpdate reads hrefresh rfl (MarkStore.extended_addCalls (sound.byLine buffer) _)

/-- Whatever the editor refuses, a request for marks makes the calls that go with its answer, in
their order, and changes the marks as they do; where it ends in failure, highlighting is turned off
by one call more, the last. -/
theorem serve_traced (reachable : h.Reachable) (files : Files) (host : Host) (buffer : Nat)
    (v : View) : Traced h files host buffer v (h.serve files host buffer v) := by
  have sound := reachable.sound
  obtain ⟨reason, tokenizer, calls, run, hs⟩ | ⟨tokenizer, exhausts, hs⟩ |
    ⟨failure, tokenizer, calls, run, own, hs⟩ | ⟨scopeName, parsed, tokenizer, parses⟩ :=
    h.serve_cases files host buffer v
  · exact hs ▸ .skipped reason tokenizer
  · exact hs ▸ .aborted tokenizer exhausts
  · exact hs ▸ .failed failure tokenizer _ own
  obtain ⟨tokens, changeStart⟩ := parsed
  have reads : h.Reads files buffer v scopeName tokens changeStart tokenizer :=
    ⟨parses, parses.tokenize_eq sound.coherent⟩
  rw [parses.serve_eq, carryOut_eq]
  dsimp only
  have hcases := h.store.callAll_cases host ((Plan.decide changeStart v.refresh v.visibleEnd).calls
    buffer (h.rules.resolve scopeName) tokens)
  obtain hall | ⟨before, call, after, reason, hsplit, -, hstop⟩ := hcases
  · rw [hall]
    exact reads.accepted sound host
  · rw [hstop]
    have htraced : Traced h files host buffer v _ := .refused reason
      (host.refuse (host.attempts ++ before.map (⟨·, none⟩) ++ [⟨call, some reason⟩]) .disable)
      reads hsplit
    simpa [conclude, fail, Host.make] using htraced

def sampleMarked : Highlighter :=
  ((new Sample.registry Sample.rules).serve Sample.files .willing 1
    ⟨Sample.path, ["k", "k"], 1, false⟩).2.1

theorem serve_traced_refused :
    let v : View := ⟨Sample.path, ["k", " k"], 1, true⟩
    let r := sampleMarked.serve Sample.files Sample.refusing 1 v
    sampleMarked.Reachable ∧
      (r.1, r.2.2.attempts) = (.disabled (.highlightApply "gone"),
        [⟨.removeMarks 1 (.between 1 1), none⟩, ⟨.addMarks 1 [⟨1, 1, 2, "Keyword"⟩], some "gone"⟩,
          ⟨.disable, none⟩]) ∧
      Traced sampleMarked Sample.files Sample.refusing 1 v r := by
  intro v r
  have hreach : sampleMarked.Reachable :=
    (Reachable.new Sample.registry Sample.rules).handle Sample.files .willing
      (.highlight 1 Sample.path ["k", "k"] 1 false)
  have hcalls : (r.1, r.2.2.attempts) = (.disabled (.highlightApply "gone"),
      [⟨.removeMarks 1 (.between 1 1), none⟩, ⟨.addMarks 1 [⟨1, 1, 2, "Keyword"⟩], some "gone"⟩,
        ⟨.disable, none⟩]) := by
    unfold r v
    cbv
  exact ⟨hreach, hcalls, serve_traced hreach Sample.files Sample.refusing 1 v⟩

end Highlighter

end Highlighting
