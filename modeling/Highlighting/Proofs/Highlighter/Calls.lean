import Highlighting.Highlighter
import Highlighting.Proofs.MarkStore

/-!
What a request comes to: lines are read, and then calls are made in order, up to the first that is
refused.
-/
namespace Highlighting
open MarkStore (addCalls removeCalls)

def GroupRule.marksOn (rule : GroupRule) (tokens : List Token) (range : LineRange) : List Mark :=
  (tokens.filter fun t => range.contains t.line).filterMap rule.mark?

def HostCall.On (buffer : Nat) : HostCall → Prop
  | .addMarks b _ | .removeMarks b _ => b = buffer
  | .disable | .openScratch .. => False

namespace Plan

def calls (buffer : Nat) (rule : GroupRule) (tokens : List Token) : Plan → List HostCall
  | .noChange => []
  | .partialUpdate lines => addCalls buffer (rule.marksOn tokens lines)
  | .fullRefresh clear set =>
    removeCalls buffer clear ++ addCalls buffer (rule.marksOn tokens set)

theorem calls_on (buffer : Nat) (rule : GroupRule) (tokens : List Token) (plan : Plan) :
    ∀ call ∈ plan.calls buffer rule tokens, call.On buffer := by
  have hadd : ∀ marks, ∀ call ∈ addCalls buffer marks, call.On buffer := by
    rintro (_ | ⟨m, marks⟩) call hc
    · cases hc
    · cases List.mem_singleton.1 hc
      rfl
  cases plan with
  | noChange => nofun
  | partialUpdate lines => exact hadd _
  | fullRefresh clear set =>
    intro call hc
    obtain hc | hc := List.mem_append.1 hc
    · unfold removeCalls at hc
      split at hc
      · cases hc
      · cases List.mem_singleton.1 hc
        rfl
    · exact hadd _ call hc

def answer (rule : GroupRule) (tokens : List Token) (visibleEnd : Nat) : Plan → Outcome
  | .noChange => .noChange
  | .partialUpdate lines =>
    .partialUpdate lines.first visibleEnd (rule.marksOn tokens lines).length
  | .fullRefresh _ set => .fullRefresh set.first set.last (rule.marksOn tokens set).length

end Plan

namespace Highlighter
variable (h : Highlighter) (host : Host) (buffer : Nat) (rule : GroupRule) (tokens : List Token)

def conclude (h : Highlighter) (outcome : Outcome) :
    Option String × MarkStore × Host → Outcome × Highlighter × Host
  | (none, store, host) => (outcome, { h with store := store }, host)
  | (some reason, store, host) => fail { h with store := store } host (.highlightApply reason)

theorem settle_set (range : LineRange) (outcome : Nat → Outcome) :
    let r := h.store.set host buffer rule (tokens.filter fun t => range.contains t.line)
    h.settle (r.1.map fun r => (outcome r.1, r.2)) r.2 =
      h.conclude (outcome (rule.marksOn tokens range).length)
        (h.store.callAll host (addCalls buffer (rule.marksOn tokens range))) := by
  intro r
  have hr : r = _ := MarkStore.set_eq ..
  rw [hr, ← GroupRule.marksOn]
  cases rule.marksOn tokens range with
  | nil => rfl
  | cons m rest =>
    rw [addCalls, MarkStore.callAll]
    rcases host.make (.addMarks buffer (m :: rest)) with ⟨_ | reason, host'⟩ <;> rfl

theorem carryOut_eq (visibleEnd : Nat) (plan : Plan) :
    h.carryOut host buffer rule tokens visibleEnd plan =
      h.conclude (plan.answer rule tokens visibleEnd)
        (h.store.callAll host (plan.calls buffer rule tokens)) := by
  cases plan with
  | noChange => rfl
  | partialUpdate lines =>
    exact h.settle_set host buffer rule tokens lines (.partialUpdate lines.first visibleEnd)
  | fullRefresh clear set =>
    have hset := fun (h : Highlighter) host =>
      h.settle_set host buffer rule tokens set (.fullRefresh set.first set.last)
    unfold carryOut
    rw [Plan.calls, MarkStore.callAll_append, removeCalls]
    dsimp only
    by_cases hempty : clear.isEmpty = true
    · rw [if_pos hempty, if_pos hempty]
      exact hset h host
    · rw [if_neg hempty, if_neg hempty, MarkStore.undecorate_eq, MarkStore.callAll]
      rcases host.make (.removeMarks buffer clear) with ⟨_ | reason, host'⟩
      · exact hset { h with store := h.store.apply (.removeMarks buffer clear) } host'
      · rfl

theorem undecorate_eq (buffer : Nat) (range : LineRange) :
    h.undecorate host buffer range =
      h.conclude .undecorated (h.store.callAll host [.removeMarks buffer range]) := by
  unfold undecorate
  rw [MarkStore.undecorate_eq, MarkStore.callAll]
  rcases host.make (.removeMarks buffer range) with ⟨_ | reason, host'⟩ <;> rfl

end Highlighter

def Tokenizer.readAs {α : Type} (t : Tokenizer) (files : Files) (path : Path)
    (read : Tokenizer → String → Except Failure α × Tokenizer) :
    Except Failure (String × α) × Tokenizer :=
  match t.scopeName files path with
  | (.error failure, t) => (.error failure, t)
  | (.ok scopeName, t) =>
    let (result, t) := read t scopeName
    (result.map (scopeName, ·), t)

namespace Highlighter

def renew (h : Highlighter) (host : Host) (buffer visibleEnd : Nat) (refresh : Bool) :
    Except Failure (String × Parsed) → Outcome × Highlighter × Host
  | .error failure => h.giveUp host failure
  | .ok (scopeName, parsed) =>
    let plan := Plan.decide parsed.changeStart refresh visibleEnd
    let rule := h.rules.resolve scopeName
    h.conclude (plan.answer rule parsed.tokens visibleEnd)
      (h.store.callAll host (plan.calls buffer rule parsed.tokens))

/-- Lines without tokens end a request on the spot, or turn highlighting off. -/
theorem giveUp_cases (failure : Failure) :
    (∃ outcome, ∀ (h : Highlighter) (host : Host), h.giveUp host failure = (outcome, h, host)) ∨
      ∀ (h : Highlighter) (host : Host), h.giveUp host failure = h.fail host failure := by
  unfold giveUp
  cases failure.isSkip with
  | true => exact .inl ⟨_, fun _ _ => rfl⟩
  | false =>
    cases failure.isAbort with
    | true => exact .inl ⟨_, fun _ _ => rfl⟩
    | false => exact .inr fun _ _ => rfl

def present (host : Host) : Except Failure (String × List Token) → Outcome × Host
  | .error failure =>
    (if failure.isSkip then .skipped .noGrammar
      else if failure.isAbort then .aborted else .failed failure.message, host)
  | .ok (scopeName, tokens) =>
    match host.make (.openScratch scratchFileType (Token.listing scopeName tokens)) with
    | (none, host) => (.scopeShown tokens.length, host)
    | (some reason, host) => (.failed reason, host)

variable (h : Highlighter) (host : Host) {files : Files} {path : Path}

theorem highlight_of_disabled (hoff : h.disabled = true) (buffer : Nat) (lines : List String)
    (visibleEnd : Nat) (refresh : Bool) :
    h.highlight files host buffer path lines visibleEnd refresh =
      (.skipped .featureDisabled, h, host) :=
  if_pos hoff

theorem highlight_of_missing (hon : h.disabled = false) (hmissing : files.exists? path = false)
    (buffer : Nat) (lines : List String) (visibleEnd : Nat) (refresh : Bool) :
    h.highlight files host buffer path lines visibleEnd refresh =
      (.skipped .fileMissing, h, host) := by
  rw [highlight, hon, hmissing]
  rfl

theorem highlight_eq (hon : h.disabled = false) (hfound : files.exists? path = true)
    (buffer : Nat) (lines : List String) (visibleEnd : Nat) (refresh : Bool) :
    h.highlight files host buffer path lines visibleEnd refresh =
      let r := h.tokenizer.readAs files path fun t scopeName => t.parse files buffer scopeName lines
      renew { h with tokenizer := r.2 } host buffer visibleEnd refresh r.1 := by
  unfold highlight Tokenizer.readAs
  rw [hon, hfound]
  rcases h.tokenizer.scopeName files path with ⟨failure | scopeName, t⟩
  · rfl
  · dsimp only
    rcases t.parse files buffer scopeName lines with ⟨failure | parsed, t'⟩
    · rfl
    · exact carryOut_eq ..

theorem showScope_of_missing (hmissing : files.exists? path = false) (lines : List String) :
    h.showScope files host path lines = (.skipped .fileMissing, h, host) := by
  rw [showScope, hmissing]
  rfl

theorem showScope_eq (hfound : files.exists? path = true) (lines : List String) :
    h.showScope files host path lines =
      let r := h.tokenizer.readAs files path fun t scopeName => t.tokenize files scopeName lines
      let shown := present host r.1
      (shown.1, { h with tokenizer := r.2 }, shown.2) := by
  unfold showScope Tokenizer.readAs
  rw [hfound]
  rcases h.tokenizer.scopeName files path with ⟨failure | scopeName, t⟩
  · dsimp only [present]
    cases failure.isSkip <;> cases failure.isAbort <;> rfl
  · dsimp only
    rcases t.tokenize files scopeName lines with ⟨failure | tokens, t'⟩
    · dsimp only [present, Except.map]
      cases failure.isSkip <;> cases failure.isAbort <;> rfl
    · dsimp only [present, Except.map]
      rcases host.make _ with ⟨_ | reason, host'⟩ <;> rfl

end Highlighter

end Highlighting
