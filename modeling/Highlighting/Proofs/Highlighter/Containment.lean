import Highlighting.Proofs.Highlighter.Reachable
import Highlighting.Proofs.Sample

/-!
Failures that turn highlighting off, over runs in which the files may change between steps and the
editor may refuse any call.
-/
namespace Highlighting

def Outcome.isDisabled : Outcome → Bool
  | .disabled _ => true
  | _ => false

inductive Operation
  | enable
  | call (read : Except RequestFault Request)

namespace Operation

/-- The operations of which a failure turns highlighting off. -/
def isDecoration : Operation → Bool
  | .call (.ok (.highlight ..)) | .call (.ok (.undecorate ..)) => true
  | _ => false

def path? : Operation → Option Path
  | .call (.ok request) => request.path?
  | _ => none

end Operation

/-- A step of a run, with the highlighter and the host before and after it. -/
structure Turn where
  files : Files
  operation : Operation
  before : Highlighter × Host
  /-- What became of the request, if there was one. -/
  answer : Option Outcome
  after : Highlighter × Host

namespace Turn

def take (s : Highlighter × Host) (files : Files) (operation : Operation) : Turn :=
  let (answer, after) : Option Outcome × Highlighter × Host :=
    match operation with
    | .enable => (none, s.1.enable, s.2)
    | .call (.error _) => (none, s)
    | .call (.ok request) =>
      let (outcome, after) := s.1.handle files s.2 request
      (some outcome, after)
  ⟨files, operation, s, answer, after⟩

def run (s : Highlighter × Host) : List (Files × Operation) → List Turn
  | [] => []
  | (files, operation) :: rest =>
    let turn := take s files operation
    turn :: run turn.after rest

def disables (t : Turn) : Bool := t.answer.any Outcome.isDisabled

end Turn

/-- One of the steps turned highlighting off, and none since has turned it on. -/
def TurnedOff (turns : List Turn) : Prop :=
  ∃ before failed since, turns = before ++ failed :: since ∧
    failed.operation.isDecoration = true ∧ failed.disables = true ∧
    ∀ t ∈ since, t.operation ≠ .enable

theorem not_turnedOff_nil : ¬ TurnedOff [] := by
  rintro ⟨before, failed, since, heq, -⟩
  simp at heq

theorem turnedOff_cons {t : Turn} {turns : List Turn} :
    TurnedOff (t :: turns) ↔ TurnedOff turns ∨
      t.operation.isDecoration = true ∧ t.disables = true ∧ ∀ u ∈ turns, u.operation ≠ .enable := by
  constructor
  · rintro ⟨_ | ⟨t', before⟩, failed, since, heq, hfailed, hdisables, hsince⟩
    · obtain ⟨rfl, rfl⟩ := List.cons.inj heq
      exact .inr ⟨hfailed, hdisables, hsince⟩
    · obtain ⟨rfl, rfl⟩ := List.cons.inj heq
      exact .inl ⟨before, failed, since, rfl, hfailed, hdisables, hsince⟩
  · rintro (⟨before, failed, since, rfl, hfailed, hdisables, hsince⟩ | ⟨hfailed, hdisables, hsince⟩)
    · exact ⟨t :: before, failed, since, rfl, hfailed, hdisables, hsince⟩
    · exact ⟨[], t, turns, rfl, hfailed, hdisables, hsince⟩

namespace Highlighter

def tellings (attempts : List Attempt) : Nat := attempts.countP fun a => a.call = .disable

/-- Highlighting is turned off if the outcome says so, and otherwise left as it is. The host is told
once for that outcome, and otherwise not. -/
structure Told (off : Bool) (host : Host) (r : Outcome × Highlighter × Host) : Prop where
  flag : r.2.1.disabled = (off || r.1.isDisabled)
  calls : ∃ made, r.2.2 = { host with attempts := host.attempts ++ made } ∧
    tellings made = if r.1.isDisabled then 1 else 0

theorem tellings_append (first rest : List Attempt) :
    tellings (first ++ rest) = tellings first + tellings rest :=
  List.countP_append

theorem tellings_accepted {calls : List HostCall} (hc : HostCall.disable ∉ calls) :
    tellings (calls.map (⟨·, none⟩)) = 0 := by
  refine List.countP_eq_zero.2 fun a ha => ?_
  obtain ⟨call, hm, rfl⟩ := List.mem_map.1 ha
  simp only [decide_eq_true_eq]
  rintro rfl
  exact hc hm

theorem Told.after {off : Bool} {host : Host} {r : Outcome × Highlighter × Host}
    {first : List Attempt} (hfirst : tellings first = 0)
    (h : Told off { host with attempts := host.attempts ++ first } r) : Told off host r where
  flag := h.flag
  calls := by
    obtain ⟨made, hmade, htold⟩ := h.calls
    refine ⟨first ++ made, ?_, ?_⟩
    · rw [← List.append_assoc]
      exact hmade
    · rw [tellings_append, hfirst, Nat.zero_add]
      exact htold

variable (h : Highlighter) (files : Files) (host : Host)

theorem told_of_quiet {outcome : Outcome} (ho : outcome.isDisabled = false) (off : Bool)
    {h' : Highlighter} (hoff : h'.disabled = off) : Told off host (outcome, h', host) where
  flag := by rw [ho, Bool.or_false, hoff]
  calls := ⟨[], by rw [List.append_nil], by rw [ho]; rfl⟩

theorem fail_told (off : Bool) (failure : Failure) : Told off host (h.fail host failure) where
  flag := (Bool.or_true off).symm
  calls := ⟨[⟨.disable, host.refuse host.attempts .disable⟩], rfl, rfl⟩

theorem conclude_told {outcome : Outcome} (ho : outcome.isDisabled = false) {calls : List HostCall}
    (hc : HostCall.disable ∉ calls) :
    Told h.disabled host (h.conclude outcome (h.store.callAll host calls)) := by
  obtain hall | ⟨before, call, after, reason, rfl, -, hstop⟩ := h.store.callAll_cases host calls
  · rw [hall]
    have hquiet : Told h.disabled _
        (outcome, { h with store := calls.foldl MarkStore.apply h.store },
          { host with attempts := host.attempts ++ calls.map (⟨·, none⟩) }) :=
      told_of_quiet _ ho _ rfl
    exact hquiet.after (tellings_accepted hc)
  · rw [hstop]
    have hbefore := tellings_accepted fun hm => hc (List.mem_append_left (call :: after) hm)
    have hcall : tellings [⟨call, some reason⟩] = 0 := by
      refine List.countP_eq_zero.2 fun a ha => ?_
      cases List.mem_singleton.1 ha
      simp only [decide_eq_true_eq]
      rintro rfl
      exact hc (by simp)
    exact ((fail_told _ _ _ _).after hcall).after hbefore

theorem disable_not_mem_calls (buffer : Nat) (rule : GroupRule) (tokens : List Token)
    (plan : Plan) : HostCall.disable ∉ plan.calls buffer rule tokens :=
  plan.calls_on buffer rule tokens .disable

theorem serve_told (buffer : Nat) (v : View) :
    Told h.disabled host (h.serve files host buffer v) := by
  obtain ⟨reason, tokenizer, calls, -, hs⟩ | ⟨tokenizer, -, hs⟩ |
    ⟨failure, tokenizer, calls, -, -, hs⟩ | ⟨scopeName, parsed, tokenizer, parses⟩ :=
    h.serve_cases files host buffer v
  · rw [hs]
    exact told_of_quiet host rfl _ rfl
  · rw [hs]
    exact told_of_quiet host rfl _ rfl
  · rw [hs]
    exact fail_told _ host _ failure
  · rw [parses.serve_eq, carryOut_eq]
    have hanswer : ∀ plan : Plan, (plan.answer (h.rules.resolve scopeName) parsed.tokens
        v.visibleEnd).isDisabled = false := by
      rintro (_ | _ | _) <;> rfl
    exact conclude_told { h with tokenizer := tokenizer } host (hanswer _)
      (disable_not_mem_calls buffer _ _ _)

theorem undecorate_told (buffer : Nat) (range : LineRange) :
    Told h.disabled host (h.undecorate host buffer range) := by
  rw [undecorate_eq]
  exact h.conclude_told host rfl (by simp)

theorem present_told (off : Bool) (result : Except Failure (String × List Token))
    {h' : Highlighter} (hoff : h'.disabled = off) :
    (present host result).1.isDisabled = false ∧
      Told off host ((present host result).1, h', (present host result).2) := by
  cases result with
  | error failure =>
    have hquiet : (present host (.error failure)).1.isDisabled = false := by
      dsimp only [present]
      cases failure.isSkip <;> cases failure.isAbort <;> rfl
    exact ⟨hquiet, told_of_quiet host hquiet off hoff⟩
  | ok r =>
    rw [present]
    have hshown : ∀ outcome : Outcome, outcome.isDisabled = false → Told off host
        (outcome, h', (host.make (.openScratch scratchFileType (Token.listing r.1 r.2))).2) :=
      fun outcome ho => (told_of_quiet _ ho off hoff).after rfl
    generalize host.make (.openScratch scratchFileType (Token.listing r.1 r.2)) = made at hshown
    obtain ⟨_ | reason, host'⟩ := made
    · exact ⟨rfl, hshown _ rfl⟩
    · exact ⟨rfl, hshown _ rfl⟩

theorem showScope_told (path : Path) (lines : List String) :
    (h.showScope files host path lines).1.isDisabled = false ∧
      Told h.disabled host (h.showScope files host path lines) := by
  cases hfound : files.exists? path with
  | false =>
    rw [showScope_of_missing h host hfound]
    exact ⟨rfl, told_of_quiet host rfl _ rfl⟩
  | true =>
    rw [showScope_eq h host hfound]
    exact present_told host _ _ rfl

theorem readAs_of_unknown {α : Type} {t : Tokenizer} {path : Path} {failure : Failure}
    (hu : (t.scopeName files path).1 = .error failure)
    (read : Tokenizer → String → Except Failure α × Tokenizer) :
    ∃ t', t.readAs files path read = (.error (.grammarNotFound path), t') := by
  obtain rfl := Registry.scopeName_error hu
  unfold Tokenizer.readAs
  generalize t.scopeName files path = r at hu
  obtain ⟨_ | scopeName, t'⟩ := r
  · cases hu
    exact ⟨t', rfl⟩
  · cases hu

theorem skipped_of_unknown {request : Request} {path : Path} (hp : request.path? = some path)
    (hu : files.exists? path = false ∨
      ∃ failure, (h.tokenizer.scopeName files path).1 = .error failure) :
    ∃ reason h', h.handle files host request = (.skipped reason, h', host) ∧
      h'.disabled = h.disabled := by
  have hread : ∀ {α : Type} (read : Tokenizer → String → Except Failure α × Tokenizer),
      files.exists? path = true →
        ∃ t', h.tokenizer.readAs files path read = (.error (.grammarNotFound path), t') := by
    intro α read hfound
    obtain hmissing | ⟨failure, hf⟩ := hu
    · cases hmissing.symm.trans hfound
    · exact readAs_of_unknown files hf read
  cases request with
  | undecorate buffer range => cases hp
  | close buffer => cases hp
  | highlight buffer path' lines visibleEnd refresh =>
    cases hp
    rw [handle]
    cases hoff : h.disabled with
    | true =>
      rw [highlight_of_disabled h host hoff]
      exact ⟨_, h, rfl, hoff⟩
    | false =>
      cases hfound : files.exists? path with
      | false =>
        rw [highlight_of_missing h host hoff hfound]
        exact ⟨_, h, rfl, hoff⟩
      | true =>
        rw [highlight_eq h host hoff hfound]
        obtain ⟨t', ht'⟩ := hread _ hfound
        rw [ht']
        exact ⟨_, _, rfl, hoff⟩
  | showScope buffer path' lines =>
    cases hp
    rw [handle]
    cases hfound : files.exists? path with
    | false =>
      rw [showScope_of_missing h host hfound]
      exact ⟨_, h, rfl, rfl⟩
    | true =>
      rw [showScope_eq h host hfound]
      obtain ⟨t', ht'⟩ := hread _ hfound
      rw [ht']
      exact ⟨_, _, rfl, rfl⟩

theorem handle_told (request : Request) :
    Told h.disabled host (h.handle files host request) ∧
      ((Operation.call (.ok request)).isDecoration = false →
        (h.handle files host request).1.isDisabled = false) := by
  cases request with
  | highlight buffer path lines visibleEnd refresh =>
    exact ⟨h.serve_told files host buffer ⟨path, lines, visibleEnd, refresh⟩, nofun⟩
  | undecorate buffer range => exact ⟨h.undecorate_told host buffer range, nofun⟩
  | showScope buffer path lines =>
    obtain ⟨hquiet, htold⟩ := h.showScope_told files host path lines
    exact ⟨htold, fun _ => hquiet⟩
  | close buffer => exact ⟨told_of_quiet host rfl _ rfl, fun _ => rfl⟩

end Highlighter

namespace Turn
open Highlighter (tellings)

/-- A step of a run contains its failure, if it fails. -/
structure Contained (t : Turn) : Prop where
  /-- Highlighting is off after it if it failed, or was off and has not been turned on. -/
  flag : t.after.1.disabled = true ↔
    (t.operation.isDecoration = true ∧ t.disables = true) ∨
      t.before.1.disabled = true ∧ t.operation ≠ .enable
  /-- The host is told once for a failure, and otherwise not. -/
  told : ∃ made, t.after.2 = { t.before.2 with attempts := t.before.2.attempts ++ made } ∧
    tellings made = if t.disables then 1 else 0
  /-- While highlighting is off, marks are asked for in vain. -/
  off : t.before.1.disabled = true →
    ∀ buffer path lines visibleEnd refresh,
      t.operation = .call (.ok (.highlight buffer path lines visibleEnd refresh)) →
        t.answer = some (.skipped .featureDisabled) ∧ t.after = t.before
  /-- Only requests for marks or for their removal turn highlighting off. -/
  harmless : t.operation.isDecoration = false → t.disables = false
  /-- Paths that are not there, or of no known language, are passed over. -/
  unknown : ∀ path, t.operation.path? = some path →
    (t.files.exists? path = false ∨
      ∃ failure, (t.before.1.tokenizer.scopeName t.files path).1 = .error failure) →
    ∃ reason, t.answer = some (.skipped reason) ∧ t.after.2 = t.before.2 ∧
      t.after.1.disabled = t.before.1.disabled

theorem take_contained (s : Highlighter × Host) (files : Files) (operation : Operation) :
    (take s files operation).Contained := by
  cases operation with
  | enable =>
    refine ⟨⟨nofun, ?_⟩, ⟨[], ?_, rfl⟩, fun _ _ _ _ _ _ => nofun, fun _ => rfl, nofun⟩
    · rintro (⟨hdecoration, -⟩ | ⟨-, henable⟩)
      · cases hdecoration
      · exact absurd rfl henable
    · exact congrArg (fun attempts => { s.2 with attempts }) (List.append_nil _).symm
  | call read =>
    cases read with
    | error fault =>
      refine ⟨⟨fun h => .inr ⟨h, nofun⟩, ?_⟩, ⟨[], ?_, rfl⟩, fun _ _ _ _ _ _ => nofun, fun _ => rfl,
        nofun⟩
      · rintro (⟨hdecoration, -⟩ | ⟨hoff, -⟩)
        · cases hdecoration
        · exact hoff
      · exact congrArg (fun attempts => { s.2 with attempts }) (List.append_nil _).symm
    | ok request =>
      obtain ⟨⟨flag, told⟩, hquiet⟩ := s.1.handle_told files s.2 request
      refine ⟨?_, told, ?_, hquiet, ?_⟩
      · change (s.1.handle files s.2 request).2.1.disabled = true ↔
          (_ ∧ (s.1.handle files s.2 request).1.isDisabled = true) ∨ s.1.disabled = true ∧ _
        rw [flag, Bool.or_eq_true]
        constructor
        · rintro (hoff | hdisabled)
          · exact .inr ⟨hoff, nofun⟩
          · refine .inl ⟨?_, hdisabled⟩
            by_contra hdecoration
            rw [hquiet (Bool.eq_false_iff.2 hdecoration)] at hdisabled
            cases hdisabled
        · rintro (⟨-, hdisabled⟩ | ⟨hoff, -⟩)
          · exact .inr hdisabled
          · exact .inl hoff
      · rintro hoff buffer path lines visibleEnd refresh heq
        cases heq
        have hskipped : s.1.handle files s.2 (.highlight buffer path lines visibleEnd refresh) =
            (.skipped .featureDisabled, s) := s.1.highlight_of_disabled s.2 hoff ..
        rw [take, hskipped]
        exact ⟨rfl, rfl⟩
      · intro path hpath hunknown
        obtain ⟨reason, h', hskipped, hsame⟩ :=
          s.1.skipped_of_unknown files s.2 hpath hunknown
        rw [take, hskipped]
        exact ⟨reason, rfl, rfl, hsame⟩

theorem Contained.tellings_eq {t : Turn} (h : t.Contained) :
    tellings t.after.2.attempts = tellings t.before.2.attempts + [t].countP disables := by
  obtain ⟨made, hmade, htold⟩ := h.told
  rw [hmade, Highlighter.tellings_append, htold, List.countP_singleton]

/-- What holds after a step: highlighting is off if it was turned off on the way, or was off at the
start and has not been turned on. -/
theorem run_contained (s : Highlighter × Host) (asks : List (Files × Operation))
    {earlier later : List Turn} {t : Turn} (h : run s asks = earlier ++ t :: later) :
    t.Contained ∧
      (t.after.1.disabled = true ↔ TurnedOff (earlier ++ [t]) ∨
        s.1.disabled = true ∧ ∀ u ∈ earlier ++ [t], u.operation ≠ .enable) ∧
      tellings t.after.2.attempts =
        tellings s.2.attempts + (earlier ++ [t]).countP disables := by
  -- the induction is on what is asked, with the state arbitrary: the first step either is the one
  -- looked at, or comes before it
  induction asks generalizing s earlier with
  | nil => simp [run] at h
  | cons ask asks ih =>
    obtain ⟨files, operation⟩ := ask
    have hfirst := take_contained s files operation
    cases earlier with
    | nil =>
      obtain ⟨rfl, -⟩ := List.cons.inj h
      refine ⟨hfirst, hfirst.flag.trans ?_, hfirst.tellings_eq⟩
      rw [List.nil_append, turnedOff_cons, List.forall_mem_singleton]
      simp only [not_turnedOff_nil, List.not_mem_nil, false_implies, implies_true, and_true,
        false_or]
      rfl
    | cons first earlier =>
      obtain ⟨rfl, hrest⟩ := List.cons.inj h
      obtain ⟨hcontained, hflag, htold⟩ := ih _ hrest
      refine ⟨hcontained, hflag.trans ?_, ?_⟩
      · rw [hfirst.flag, List.cons_append, turnedOff_cons, List.forall_mem_cons, or_and_right,
          or_assoc, and_assoc, and_assoc]
        rfl
      · rw [htold, hfirst.tellings_eq, Nat.add_assoc, ← List.countP_append]
        rfl

/-- Highlighting is off exactly if a request for marks or for their removal has failed and it has
not been turned on since. The host has been told once for each such failure. -/
theorem failures_contained (registry : Registry) (rules : RuleTable) (host : Host)
    (asks : List (Files × Operation)) {earlier later : List Turn} {t : Turn}
    (h : run (.new registry rules, host) asks = earlier ++ t :: later) :
    t.Contained ∧ (t.after.1.disabled = true ↔ TurnedOff (earlier ++ [t])) ∧
      tellings t.after.2.attempts =
        tellings host.attempts + (earlier ++ [t]).countP disables := by
  obtain ⟨hcontained, hflag, htold⟩ := run_contained _ asks h
  refine ⟨hcontained, hflag.trans (or_iff_left ?_), htold⟩
  rintro ⟨hoff, -⟩
  cases hoff

def sampleAsks : List (Files × Operation) :=
  let ask := Operation.call (.ok (.highlight 1 Sample.path ["k"] 0 true))
  [(Sample.files, ask), (Sample.files, ask), (Sample.files, .enable), (Sample.files, ask)]

theorem failures_contained_sample :
    ∃ first second third fourth,
      run (.new Sample.registry Sample.rules, Sample.refusing) sampleAsks =
        [first, second, third, fourth] ∧
      [first, second, third, fourth].map answer =
        [some (.disabled (.highlightApply "gone")), some (.skipped .featureDisabled), none,
          some (.disabled (.highlightApply "gone"))] ∧
      (fourth.after.1.disabled = true ↔ TurnedOff [first, second, third, fourth]) ∧
      tellings fourth.after.2.attempts = 2 := by
  obtain ⟨first, second, third, fourth, hrun⟩ : ∃ first second third fourth,
      run (.new Sample.registry Sample.rules, Sample.refusing) sampleAsks =
        [first, second, third, fourth] := ⟨_, _, _, _, rfl⟩
  have hanswers : [first, second, third, fourth].map answer =
      [some (.disabled (.highlightApply "gone")), some (.skipped .featureDisabled), none,
        some (.disabled (.highlightApply "gone"))] := by
    rw [← hrun]
    cbv
  have hcount : [first, second, third, fourth].countP disables = 2 := by
    have hmap : [first, second, third, fourth].countP disables =
        ([first, second, third, fourth].map answer).countP (Option.any Outcome.isDisabled) :=
      (List.countP_map ..).symm
    rw [hmap, hanswers]
    rfl
  have hsplit : run (.new Sample.registry Sample.rules, Sample.refusing) sampleAsks =
      [first, second, third] ++ fourth :: [] := hrun
  obtain ⟨-, hflag, htold⟩ :=
    failures_contained Sample.registry Sample.rules Sample.refusing sampleAsks hsplit
  exact ⟨first, second, third, fourth, hrun, hanswers, hflag,
    htold.trans ((Nat.zero_add _).trans hcount)⟩

end Turn

end Highlighting
