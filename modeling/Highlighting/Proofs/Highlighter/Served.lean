import Highlighting.Proofs.Highlighter.Calls
import Highlighting.Proofs.Tokenizer.Changes

/-!
What becomes of a request for marks: it ends before the host is asked, or a plan is carried out.
-/
namespace Highlighting

def Plan.range? : Plan → Option LineRange
  | .noChange => none
  | .partialUpdate lines => some lines
  | .fullRefresh _ set => some set

namespace Outcome

def Answered : Outcome → Prop
  | .noChange | .partialUpdate .. | .fullRefresh .. => True
  | _ => False

def range? : Outcome → Option LineRange
  | .partialUpdate first last _ => some (.between first last)
  | .fullRefresh first last _ => some ⟨first, last⟩
  | _ => none

end Outcome

def Covered (range? : Option LineRange) (line : Nat) : Prop :=
  ∃ r ∈ range?, r.contains line = true

instance (range? : Option LineRange) (line : Nat) : Decidable (Covered range? line) :=
  inferInstanceAs (Decidable (∃ r ∈ range?, r.contains line = true))

theorem covered_some {r : LineRange} {line : Nat} :
    Covered (some r) line ↔ r.contains line = true :=
  ⟨fun ⟨_, he, hc⟩ => Option.some.inj he ▸ hc, fun hc => ⟨r, rfl, hc⟩⟩

theorem not_covered_none (line : Nat) : ¬ Covered none line := nofun

namespace MarkStore

/-- The marks of the tokens on a range have been added, and if older ones were to be cleared, none
of them is left on the range. -/
def Renewed (buffer : Nat) (rule : GroupRule) (tokens : List Token) (range? : Option LineRange)
    (clear : Bool) (old new : MarkStore) : Prop :=
  ∀ m, m ∈ new.marks buffer ↔
    (∃ t ∈ tokens, Covered range? t.line ∧ rule.mark? t = some m) ∨
      m ∈ old.marks buffer ∧ (clear = true → ¬ Covered range? m.line)

variable {buffer : Nat} {rule : GroupRule} {tokens : List Token} {old new : MarkStore}

theorem renewed_none (clear : Bool) (s : MarkStore) :
    Renewed buffer rule tokens none clear s s := by
  intro m
  constructor
  · intro hm
    exact .inr ⟨hm, fun _ => not_covered_none _⟩
  · rintro (⟨t, -, hc, -⟩ | ⟨hm, -⟩)
    · exact absurd hc (not_covered_none _)
    · exact hm

theorem renewed_of_add {clear : Bool} {range : LineRange} {kept : MarkStore}
    (hkept : ∀ m, m ∈ kept.marks buffer ↔
      m ∈ old.marks buffer ∧ (clear = true → ¬ Covered (some range) m.line)) :
    Renewed buffer rule tokens (some range) clear old
      ((addCalls buffer (rule.marksOn tokens range)).foldl apply kept) := by
  intro m
  rw [mem_marks_addCalls, hkept]
  refine or_congr_left ?_
  simp only [GroupRule.marksOn, List.mem_filterMap, List.mem_filter, covered_some, and_assoc]

theorem Renewed.kept {range? : Option LineRange} {clear : Bool}
    (h : Renewed buffer rule tokens range? clear old new) {m : Mark} (hm : m ∈ old.marks buffer)
    (hc : ¬ Covered range? m.line) : m ∈ new.marks buffer :=
  (h m).2 (.inr ⟨hm, fun _ => hc⟩)

theorem Renewed.token_of_clear {range? : Option LineRange}
    (h : Renewed buffer rule tokens range? true old new) {m : Mark} (hm : m ∈ new.marks buffer)
    (hc : Covered range? m.line) : ∃ t ∈ tokens, rule.mark? t = some m := by
  obtain ⟨t, ht, -, htm⟩ | ⟨-, hout⟩ := (h m).1 hm
  · exact ⟨t, ht, htm⟩
  · exact absurd hc (hout rfl)

end MarkStore

namespace Highlighter

variable (h : Highlighter) (host : Host) (buffer : Nat) (rule : GroupRule) (tokens : List Token)
  (visibleEnd : Nat)

/-- What carrying out a plan comes to. -/
inductive CarriedOut (range? : Option LineRange) (refresh : Bool) :
    Outcome × Highlighter × Host → Prop
  | done (outcome : Outcome) (store : MarkStore) (host' : Host) (answered : outcome.Answered)
      (range : outcome.range? = range?)
      (renewed : h.store.Renewed buffer rule tokens range? refresh store) :
      CarriedOut range? refresh (outcome, { h with store := store }, host')
  | refused (reason : String) (store : MarkStore) (host' : Host) (unwilling : ¬ host.Willing)
      (kept : refresh = false → store = h.store) :
      CarriedOut range? refresh
        (.disabled (.highlightApply reason), { h with store := store, disabled := true }, host')

variable {buffer rule tokens} in
/-- When all calls of a plan have been accepted, the marks on its range are renewed. -/
theorem renewed_decide (s : MarkStore) (changeStart : Option Nat) (refresh : Bool) :
    let plan := Plan.decide changeStart refresh visibleEnd
    s.Renewed buffer rule tokens plan.range? refresh
      ((plan.calls buffer rule tokens).foldl MarkStore.apply s) := by
  have refreshed : ∀ range, s.Renewed buffer rule tokens (some range) true
      ((Plan.calls buffer rule tokens (.fullRefresh range range)).foldl MarkStore.apply s) := by
    intro range
    rw [Plan.calls, List.foldl_append]
    refine MarkStore.renewed_of_add fun m => ?_
    rw [MarkStore.mem_marks_removeCalls, covered_some]
    simp
  cases changeStart with
  | none =>
    cases refresh with
    | false => exact MarkStore.renewed_none _ _
    | true => exact refreshed .all
  | some start =>
    cases refresh with
    | false => exact MarkStore.renewed_of_add fun m => by simp
    | true => exact refreshed (.between start visibleEnd)

theorem answer_decide (changeStart : Option Nat) (refresh : Bool) :
    let plan := Plan.decide changeStart refresh visibleEnd
    (plan.answer rule tokens visibleEnd).Answered ∧
      (plan.answer rule tokens visibleEnd).range? = plan.range? := by
  cases changeStart <;> cases refresh <;> exact ⟨trivial, rfl⟩

theorem calls_length_le (changeStart : Option Nat) :
    ((Plan.decide changeStart false visibleEnd).calls buffer rule tokens).length ≤ 1 := by
  cases changeStart with
  | none => exact Nat.zero_le 1
  | some start =>
    change (MarkStore.addCalls buffer (rule.marksOn tokens _)).length ≤ 1
    cases rule.marksOn tokens (.between start visibleEnd) with
    | nil => exact Nat.zero_le 1
    | cons m rest => exact Nat.le_refl 1

theorem carryOut_carriedOut (changeStart : Option Nat) (refresh : Bool) :
    CarriedOut h host buffer rule tokens (Plan.decide changeStart refresh visibleEnd).range? refresh
      (h.carryOut host buffer rule tokens visibleEnd (.decide changeStart refresh visibleEnd)) := by
  rw [carryOut_eq]
  obtain hall | ⟨before, call, after, reason, hsplit, hw, hstop⟩ := h.store.callAll_cases host
    ((Plan.decide changeStart refresh visibleEnd).calls buffer rule tokens)
  · rw [hall]
    obtain ⟨answered, range⟩ := answer_decide rule tokens visibleEnd changeStart refresh
    exact .done _ _ _ answered range (renewed_decide visibleEnd h.store changeStart refresh)
  · rw [hstop]
    refine .refused reason _ _ hw fun hrefresh => ?_
    subst hrefresh
    have hle := calls_length_le buffer rule tokens visibleEnd changeStart
    rw [hsplit] at hle
    cases before with
    | nil => rfl
    | cons c before => simp at hle

theorem carryOut_sent {h : Highlighter} {host : Host} (hs : h.store.Sent host buffer)
    (plan : Plan) :
    (h.carryOut host buffer rule tokens visibleEnd plan).2.1.store.Sent
      (h.carryOut host buffer rule tokens visibleEnd plan).2.2 buffer := by
  have hsent := hs.callAll (plan.calls buffer rule tokens)
  rw [carryOut_eq]
  generalize h.store.callAll host (plan.calls buffer rule tokens) = made at hsent
  obtain ⟨_ | reason, store, host'⟩ := made
  · exact hsent
  · exact hsent.make .disable

end Highlighter

structure View where
  path : Path
  lines : List String
  visibleEnd : Nat
  refresh : Bool

def View.range? (v : View) (parsed : Parsed) : Option LineRange :=
  (Plan.decide parsed.changeStart v.refresh v.visibleEnd).range?

namespace Highlighter
variable (h : Highlighter) (files : Files) (host : Host) (buffer : Nat) (v : View)

def serve : Outcome × Highlighter × Host :=
  h.highlight files host buffer v.path v.lines v.visibleEnd v.refresh

/-- The request gets as far as a plan. -/
structure Parses (scopeName : String) (parsed : Parsed) (tokenizer : Tokenizer) : Prop where
  enabled : h.disabled = false
  found : files.exists? v.path = true
  named : (h.tokenizer.scopeName files v.path).1 = .ok scopeName
  parse : (h.tokenizer.scopeName files v.path).2.parse files buffer scopeName v.lines =
    (.ok parsed, tokenizer)

/-- Reading the view uses up the stack. -/
def Exhausts (tokenizer : Tokenizer) : Prop :=
  ∃ scopeName failure, (h.tokenizer.scopeName files v.path).1 = .ok scopeName ∧
    (h.tokenizer.scopeName files v.path).2.parse files buffer scopeName v.lines =
      (.error failure, tokenizer) ∧ failure.isAbort = true

/-- What becomes of a request for marks. -/
inductive Served : Outcome × Highlighter × Host → Prop
  | skipped (reason : SkipReason) (tokenizer : Tokenizer) (calls : List (Files × Tokenizer.Call))
      (run : h.tokenizer.run calls = tokenizer) (kept : tokenizer.buffers = h.tokenizer.buffers) :
      Served (.skipped reason, { h with tokenizer := tokenizer }, host)
  | aborted (tokenizer : Tokenizer) (exhausts : h.Exhausts files buffer v tokenizer) :
      Served (.aborted, { h with tokenizer := tokenizer }, host)
  | failed (failure : Failure) (tokenizer : Tokenizer) (calls : List (Files × Tokenizer.Call))
      (run : h.tokenizer.run calls = tokenizer) (kept : tokenizer.buffers = h.tokenizer.buffers)
      (own : ∀ reason, failure ≠ .highlightApply reason) :
      Served (fail { h with tokenizer := tokenizer } host failure)
  | refused (scopeName : String) (parsed : Parsed) (tokenizer : Tokenizer)
      (parses : h.Parses files buffer v scopeName parsed tokenizer) (reason : String)
      (store : MarkStore) (host' : Host) (unwilling : ¬ host.Willing)
      (kept : v.refresh = false → store = h.store)
      (sent : h.store.Sent host buffer → store.Sent host' buffer) :
      Served (.disabled (.highlightApply reason),
        { h with tokenizer := tokenizer, store := store, disabled := true }, host')
  | done (scopeName : String) (parsed : Parsed) (tokenizer : Tokenizer)
      (parses : h.Parses files buffer v scopeName parsed tokenizer) (outcome : Outcome)
      (store : MarkStore) (host' : Host) (answered : outcome.Answered)
      (range : outcome.range? = v.range? parsed)
      (renewed : h.store.Renewed buffer (h.rules.resolve scopeName) parsed.tokens
        (v.range? parsed) v.refresh store)
      (sent : h.store.Sent host buffer → store.Sent host' buffer) :
      Served (outcome, { h with tokenizer := tokenizer, store := store }, host')

variable {h files buffer v} in
theorem Parses.served {scopeName : String} {parsed : Parsed} {tokenizer : Tokenizer}
    (parses : h.Parses files buffer v scopeName parsed tokenizer) (host : Host) :
    Served h files host buffer v (carryOut { h with tokenizer := tokenizer } host buffer
      (h.rules.resolve scopeName) parsed.tokens v.visibleEnd
      (.decide parsed.changeStart v.refresh v.visibleEnd)) := by
  have carried := carryOut_carriedOut { h with tokenizer := tokenizer } host buffer
    (h.rules.resolve scopeName) parsed.tokens v.visibleEnd parsed.changeStart v.refresh
  have sent := fun hs : h.store.Sent host buffer =>
    carryOut_sent buffer (h.rules.resolve scopeName) parsed.tokens v.visibleEnd
      (h := { h with tokenizer := tokenizer }) hs
      (.decide parsed.changeStart v.refresh v.visibleEnd)
  generalize carryOut { h with tokenizer := tokenizer } host buffer (h.rules.resolve scopeName)
    parsed.tokens v.visibleEnd (.decide parsed.changeStart v.refresh v.visibleEnd) = r
    at carried sent
  cases carried with
  | done outcome store host' answered range renewed =>
    exact .done scopeName parsed tokenizer parses outcome store host' answered range renewed sent
  | refused reason store host' unwilling kept =>
    exact .refused scopeName parsed tokenizer parses reason store host' unwilling kept sent

theorem serve_served : Served h files host buffer v (h.serve files host buffer v) := by
  unfold serve highlight
  by_cases hd : h.disabled = true
  · rw [if_pos hd]
    exact .skipped .featureDisabled h.tokenizer [] rfl rfl
  rw [if_neg hd]
  by_cases hf : files.exists? v.path = false
  · rw [if_pos (by rw [hf]; rfl)]
    exact .skipped .fileMissing h.tokenizer [] rfl rfl
  rw [if_neg (by simpa using hf)]
  cases hn : h.tokenizer.scopeName files v.path with
  | mk result named =>
    have hsnd : (h.tokenizer.scopeName files v.path).2 = named := by rw [hn]
    have hrun : h.tokenizer.run [(files, .scopeName v.path)] = named := hsnd
    have hkept : named.buffers = h.tokenizer.buffers := by
      rw [← hsnd]
      rfl
    cases result with
    | error failure =>
      have hown : failure = .grammarNotFound v.path :=
        Registry.scopeName_error (congrArg Prod.fst hn)
      rw [hown]
      exact .skipped .noGrammar named _ hrun hkept
    | ok scopeName =>
      dsimp only
      cases hp : named.parse files buffer scopeName v.lines with
      | mk result parser =>
        have hparser : (named.parse files buffer scopeName v.lines).2 = parser := by rw [hp]
        have hrun' : h.tokenizer.run
            [(files, .scopeName v.path), (files, .parse buffer scopeName v.lines)] = parser := by
          rw [← hparser, ← hsnd]
          rfl
        cases result with
        | error failure =>
          obtain ⟨hsame, hown⟩ := Tokenizer.parse_error hp
          dsimp only
          unfold giveUp
          split
          · exact .skipped .noGrammar parser _ hrun' (hsame.trans hkept)
          split
          · next habort =>
            exact .aborted parser ⟨scopeName, failure, by rw [hn], by rw [hsnd]; exact hp, habort⟩
          · exact .failed failure parser _ hrun' (hsame.trans hkept) hown
        | ok parsed =>
          have parses : h.Parses files buffer v scopeName parsed parser :=
            ⟨by simpa using hd, by simpa using hf, by rw [hn], by rw [hsnd]; exact hp⟩
          exact parses.served host

variable {h files buffer v}
variable {scopeName : String} {parsed : Parsed} {tokenizer : Tokenizer}

theorem Exhausts.run (exhausts : h.Exhausts files buffer v tokenizer) :
    ∃ calls, h.tokenizer.run calls = tokenizer := by
  obtain ⟨scopeName, failure, -, hparse, -⟩ := exhausts
  exact ⟨[(files, .scopeName v.path), (files, .parse buffer scopeName v.lines)],
    congrArg Prod.snd hparse⟩

theorem Exhausts.buffers_eq (exhausts : h.Exhausts files buffer v tokenizer) :
    tokenizer.buffers = h.tokenizer.buffers := by
  obtain ⟨scopeName, failure, -, hparse, -⟩ := exhausts
  exact (Tokenizer.parse_error hparse).1

theorem Parses.serve_eq (parses : h.Parses files buffer v scopeName parsed tokenizer)
    (host : Host) :
    h.serve files host buffer v = carryOut { h with tokenizer := tokenizer } host buffer
      (h.rules.resolve scopeName) parsed.tokens v.visibleEnd
      (.decide parsed.changeStart v.refresh v.visibleEnd) := by
  have hd : ¬ h.disabled = true := by simp [parses.enabled]
  have hf : ¬ (!files.exists? v.path) = true := by simp [parses.found]
  have hparse := parses.parse
  have hnamed := parses.named
  unfold serve highlight
  rw [if_neg hd, if_neg hf]
  cases hn : h.tokenizer.scopeName files v.path with
  | mk result named =>
    rw [hn] at hnamed hparse
    cases hnamed
    dsimp only at hparse ⊢
    rw [hparse]

theorem Parses.tokenize_eq (parses : h.Parses files buffer v scopeName parsed tokenizer)
    (coherent : h.tokenizer.Coherent) :
    ((h.tokenizer.scopeName files v.path).2.tokenize files scopeName v.lines).1 =
      .ok parsed.tokens := by
  have htokens := (coherent.step files (.scopeName v.path)).parse_tokens files buffer scopeName
    v.lines
  exact htokens.symm.trans (congrArg (fun r => r.1.map Parsed.tokens) parses.parse)

theorem Parses.done (parses : h.Parses files buffer v scopeName parsed tokenizer) {host : Host}
    (hw : host.Willing) :
    ∃ outcome store host', h.serve files host buffer v =
        (outcome, { h with tokenizer := tokenizer, store := store }, host') ∧
      outcome.Answered ∧ outcome.range? = v.range? parsed ∧
      h.store.Renewed buffer (h.rules.resolve scopeName) parsed.tokens (v.range? parsed)
        v.refresh store := by
  have carried := carryOut_carriedOut { h with tokenizer := tokenizer } host buffer
    (h.rules.resolve scopeName) parsed.tokens v.visibleEnd parsed.changeStart v.refresh
  rw [← parses.serve_eq] at carried
  generalize h.serve files host buffer v = r at carried
  cases carried with
  | done outcome store host' answered range renewed =>
    exact ⟨outcome, store, host', rfl, answered, range, renewed⟩
  | refused reason store host' unwilling kept => exact absurd hw unwilling

theorem Parses.again (parses : h.Parses files buffer v scopeName parsed tokenizer)
    (h' : Highlighter) (ht : h'.tokenizer = tokenizer) (enabled : h'.disabled = false) :
    ∃ tokenizer', h'.Parses files buffer v scopeName ⟨parsed.tokens, none⟩ tokenizer' := by
  obtain ⟨g, s, -, hs, -, -, -⟩ := Tokenizer.parse_ok parses.parse
  have hresolved : tokenizer.registry.resolved =
      (h.tokenizer.registry.scopeName files v.path).2.resolved := by
    rw [hs]
    exact Registry.load_resolved files _ scopeName
  have hnamed : tokenizer.scopeName files v.path = (.ok scopeName, tokenizer) := by
    have hr := Registry.scopeName_again parses.named hresolved
    unfold Tokenizer.scopeName
    rw [hr]
  have hagain := Tokenizer.parse_again parses.parse
  refine ⟨(tokenizer.parse files buffer scopeName v.lines).2, enabled, parses.found, ?_, ?_⟩
  · rw [ht, hnamed]
  · rw [ht, hnamed, ← hagain]

end Highlighter

end Highlighting
