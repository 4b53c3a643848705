import Highlighting.Config
import Highlighting.MarkStore
import Highlighting.Plan
import Highlighting.Request
import Highlighting.Tokenizer

/-!
Requests and what becomes of them. A failure below turns highlighting off, tells the editor so, and
is never passed on.
-/
namespace Highlighting

inductive SkipReason
  | fileMissing
  | noGrammar
  | featureDisabled
  deriving Repr, DecidableEq, Inhabited

inductive Outcome
  | skipped (reason : SkipReason)
  | noChange
  | partialUpdate (first last marks : Nat)
  | fullRefresh (first : Nat) (last : Option Nat) (marks : Nat)
  /-- Highlighting is off from now on. -/
  | disabled (failure : Failure)
  | undecorated
  | scopeShown (tokens : Nat)
  | closed
  /-- A failure that leaves highlighting as it is. -/
  | failed (reason : String)
  /-- There is no outcome: the native stack was used up, and the program is gone. -/
  | aborted
  deriving Repr, DecidableEq, Inhabited

structure Highlighter where
  tokenizer : Tokenizer
  store : MarkStore := {}
  rules : RuleTable
  disabled : Bool := false

namespace Highlighter

def scratchFileType : String := "scopemark"

def new (registry : Registry) (rules : RuleTable) : Highlighter :=
  { tokenizer := { registry := registry }, rules := rules }

def ofConfig (engine : Engine) (s : Surroundings) (files : Files) (c : Config) : Highlighter :=
  new (.new engine files (c.roots s)) c.effectiveRules

def enable (h : Highlighter) : Highlighter := { h with disabled := false }

/-- Turns highlighting off because of a failure. That the editor may refuse to hear of it changes
nothing. -/
def fail (h : Highlighter) (host : Host) (failure : Failure) : Outcome × Highlighter × Host :=
  (.disabled failure, { h with disabled := true }, (host.make .disable).2)

def giveUp (h : Highlighter) (host : Host) (failure : Failure) : Outcome × Highlighter × Host :=
  if failure.isSkip then (.skipped .noGrammar, h, host)
  else if failure.isAbort then (.aborted, h, host)
  else h.fail host failure

def settle (h : Highlighter) (result : Except String (Outcome × MarkStore)) (host : Host) :
    Outcome × Highlighter × Host :=
  match result with
  | .ok (outcome, store) => (outcome, { h with store := store }, host)
  | .error reason => h.fail host (.highlightApply reason)

def carryOut (h : Highlighter) (host : Host) (buffer : Nat) (rule : GroupRule)
    (tokens : List Token) (visibleEnd : Nat) : Plan → Outcome × Highlighter × Host
  | .noChange => (.noChange, h, host)
  | .partialUpdate lines =>
    let (result, host) :=
      h.store.set host buffer rule (tokens.filter fun t => lines.contains t.line)
    h.settle (result.map fun (marks, store) =>
      (.partialUpdate lines.first visibleEnd marks, store)) host
  | .fullRefresh clear set =>
    let (cleared, host) :=
      if clear.isEmpty then (.ok h.store, host) else h.store.undecorate host buffer clear
    match cleared with
    | .error reason => h.fail host (.highlightApply reason)
    | .ok store =>
      let h := { h with store := store }
      let (result, host) :=
        store.set host buffer rule (tokens.filter fun t => set.contains t.line)
      h.settle (result.map fun (marks, store) =>
        (.fullRefresh set.first set.last marks, store)) host

def highlight (h : Highlighter) (files : Files) (host : Host) (buffer : Nat) (path : Path)
    (lines : List String) (visibleEnd : Nat) (refresh : Bool) : Outcome × Highlighter × Host :=
  if h.disabled then (.skipped .featureDisabled, h, host)
  else if !files.exists? path then (.skipped .fileMissing, h, host)
  else
    let (named, tokenizer) := h.tokenizer.scopeName files path
    let h := { h with tokenizer := tokenizer }
    match named with
    | .error failure => h.giveUp host failure
    | .ok scopeName =>
      let (parsed, tokenizer) := h.tokenizer.parse files buffer scopeName lines
      let h := { h with tokenizer := tokenizer }
      match parsed with
      | .error failure => h.giveUp host failure
      | .ok parsed =>
        h.carryOut host buffer (h.rules.resolve scopeName) parsed.tokens visibleEnd
          (.decide parsed.changeStart refresh visibleEnd)

def undecorate (h : Highlighter) (host : Host) (buffer : Nat) (range : LineRange) :
    Outcome × Highlighter × Host :=
  let (result, host) := h.store.undecorate host buffer range
  h.settle (result.map (.undecorated, ·)) host

def showScope (h : Highlighter) (files : Files) (host : Host) (path : Path)
    (lines : List String) : Outcome × Highlighter × Host :=
  if !files.exists? path then (.skipped .fileMissing, h, host)
  else
    let (named, tokenizer) := h.tokenizer.scopeName files path
    let (result, tokenizer) : Except Failure (String × List Token) × Tokenizer :=
      match named with
      | .error failure => (.error failure, tokenizer)
      | .ok scopeName =>
        let (tokens, tokenizer) := tokenizer.tokenize files scopeName lines
        (tokens.map (scopeName, ·), tokenizer)
    let h := { h with tokenizer := tokenizer }
    match result with
    | .error failure =>
      if failure.isSkip then (.skipped .noGrammar, h, host)
      else if failure.isAbort then (.aborted, h, host)
      else (.failed failure.message, h, host)
    | .ok (scopeName, tokens) =>
      match host.make (.openScratch scratchFileType (Token.listing scopeName tokens)) with
      | (none, host) => (.scopeShown tokens.length, h, host)
      | (some reason, host) => (.failed reason, h, host)

def close (h : Highlighter) (buffer : Nat) : Highlighter :=
  { h with tokenizer := h.tokenizer.forget buffer, store := h.store.forget buffer }

def handle (h : Highlighter) (files : Files) (host : Host) :
    Request → Outcome × Highlighter × Host
  | .highlight buffer path lines visibleEnd refresh =>
    h.highlight files host buffer path lines visibleEnd refresh
  | .undecorate buffer range => h.undecorate host buffer range
  | .showScope _ path lines => h.showScope files host path lines
  | .close buffer => (.closed, h.close buffer, host)

end Highlighter

end Highlighting
