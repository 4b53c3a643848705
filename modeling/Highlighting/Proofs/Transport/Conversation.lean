import Highlighting.Proofs.Highlighter.Ending
import Highlighting.Proofs.Registry.Opened
import Highlighting.Proofs.Text.Utf8
import Highlighting.Proofs.Transport.Incoming

/-! What is said while lines are served, line by line. -/
namespace Highlighting

/-- What is written: a call to the editor, or the reply to a line. -/
inductive Utterance
  | call (c : HostCall)
  | result (id value : Json)
  | error (id : Json) (message : String)

namespace Utterance

def text : Utterance → String
  | .call c => c.toJson.write
  | .result id value => (Json.object [("id", id), ("result", value)]).write
  | .error id message => (Json.object [("error", .string message), ("id", id)]).write

def reply (id : Json) : Except RequestFault Json → Utterance
  | .ok value => .result id value
  | .error fault => .error id fault.message

theorem text_reply (id : Json) (result : Except RequestFault Json) :
    (reply id result).text = (Service.reply id result).write := by
  cases result <;> rfl

end Utterance

namespace Service

/-- What carrying out a call comes to: its result, the highlighter then, and the calls to the editor
that were made meanwhile. -/
inductive Performed (files : Files) (h : Highlighter) (method : String) (arguments : List Json) :
    Except RequestFault Json → Highlighter → List HostCall → Prop
  | enabled (hmethod : method = "enable") :
    Performed files h method arguments (.ok .null) h.enable []
  | rejected {fault : RequestFault} (hmethod : method ≠ "enable")
      (hcall : Request.ofCall method arguments = .error fault) :
      Performed files h method arguments (.error fault) h []
  | handled {request : Request} {outcome : Outcome} {h' : Highlighter} {host : Host}
      (hmethod : method ≠ "enable") (hcall : Request.ofCall method arguments = .ok request)
      (hrun : h.handle files .willing request = (outcome, h', host)) (there : outcome ≠ .aborted) :
      Performed files h method arguments (.ok outcome.toJson) h' host.accepted

/-- What a line comes to, and the highlighter then. -/
inductive Said (files : Files) (h : Highlighter) (line : List Char) :
    List Utterance → Highlighter → Prop
  | nothing (passed : Words.isBlank line = true ∨ ∀ i, ¬ Incoming.Spells line i) :
      Said files h line [] h
  | unasked {method : String} {arguments : List Json} {result : Except RequestFault Json}
      {h' : Highlighter} {calls : List HostCall} (hblank : Words.isBlank line = false)
      (spells : Incoming.Spells line ⟨none, method, arguments⟩)
      (performed : Performed files h method arguments result h' calls) :
      Said files h line (calls.map .call) h'
  | asked {id : Json} {method : String} {arguments : List Json}
      {result : Except RequestFault Json} {h' : Highlighter} {calls : List HostCall}
      (hblank : Words.isBlank line = false)
      (spells : Incoming.Spells line ⟨some id, method, arguments⟩)
      (performed : Performed files h method arguments result h' calls) :
      Said files h line (calls.map .call ++ [.reply id result]) h'

/-- Carrying out the call of a line takes the program down. -/
inductive Fatal (files : Files) (h : Highlighter) (line : List Char) : Highlighter → Prop
  | intro {i : Incoming} {request : Request} {h' : Highlighter} {host : Host}
      (hblank : Words.isBlank line = false) (spells : Incoming.Spells line i)
      (hmethod : i.method ≠ "enable") (hcall : Request.ofCall i.method i.arguments = .ok request)
      (hrun : h.handle files .willing request = (.aborted, h', host)) : Fatal files h line h'

/-- What lines come to one after the other, and whether the program is gone then. -/
inductive Conversation (files : Files) :
    Highlighter → List (List Char) → List (List Utterance) → Highlighter → Bool → Prop
  | nil (h : Highlighter) : Conversation files h [] [] h false
  | cons {h h' h'' : Highlighter} {line : List Char} {lines : List (List Char)}
      {said : List Utterance} {rest : List (List Utterance)} {gone : Bool}
      (first : Said files h line said h') (later : Conversation files h' lines rest h'' gone) :
      Conversation files h (line :: lines) (said :: rest) h'' gone
  | gone {h h' : Highlighter} {line : List Char} (fatal : Fatal files h line h')
      (lines : List (List Char)) : Conversation files h (line :: lines) [] h' true

section Bounded
variable {files : Files} {h h' : Highlighter} {line : List Char}

theorem Said.bounded {said : List Utterance} (said : Said files h line said h')
    (b : h.Bounded files) : h'.Bounded files := by
  have performed : ∀ {method arguments result h' calls},
      Performed files h method arguments result h' calls → h'.Bounded files := by
    intro method arguments result h' calls performed
    cases performed with
    | enabled => exact ⟨b.coherent, b.fits, b.grammars⟩
    | rejected => exact b
    | @handled request outcome h' host hmethod hcall hrun there =>
      have hafter := (b.handle .willing request).2
      rw [hrun] at hafter
      exact hafter
  cases said with
  | nothing => exact b
  | unasked hblank spells h => exact performed h
  | asked hblank spells h => exact performed h

theorem Conversation.not_gone {lines : List (List Char)} {parts : List (List Utterance)}
    {gone : Bool} (c : Conversation files h lines parts h' gone) (b : h.Bounded files) :
    gone = false := by
  induction c with
  | nil => rfl
  | cons first later ih => exact ih (first.bounded b)
  | gone fatal lines =>
    obtain ⟨-, -, -, -, hrun⟩ := fatal
    exact absurd (congrArg Prod.fst hrun) (b.handle .willing _).1

end Bounded

theorem host_none (written : Nat) : host none written = .willing := by
  simp [host, Host.willing]

variable (s : Service) (files : Files)

variable {s files} in
theorem perform_of_aborted {i : Incoming} {request : Request} (hmethod : i.method ≠ enableMethod)
    (hcall : Request.ofCall i.method i.arguments = .ok request)
    (habort : (s.highlighter.handle files .willing request).1 = .aborted) :
    s.perform files none i =
      (none, ⟨(s.highlighter.handle files .willing request).2.1, s.output⟩) := by
  simp only [perform, if_neg hmethod, hcall, host_none, if_pos habort,
    Highlighter.host_of_aborted habort]
  exact congrArg (fun output => (none, Service.mk _ output)) (List.append_nil _)

/-- Carrying out a call comes to something, or takes the program down before anything is said. -/
theorem perform_cases (i : Incoming) :
    (∃ result h' calls, Performed files s.highlighter i.method i.arguments result h' calls ∧
      s.perform files none i =
        (some result, ⟨h', s.output ++ (calls.map Utterance.call).map Utterance.text⟩)) ∨
    ∃ request h' host, i.method ≠ "enable" ∧ Request.ofCall i.method i.arguments = .ok request ∧
      s.highlighter.handle files .willing request = (.aborted, h', host) ∧
      s.perform files none i = (none, ⟨h', s.output⟩) := by
  by_cases hmethod : i.method = enableMethod
  · refine .inl ⟨_, _, _, .enabled hmethod, ?_⟩
    simp [perform, hmethod]
  cases hcall : Request.ofCall i.method i.arguments with
  | error fault =>
    refine .inl ⟨_, _, _, .rejected hmethod hcall, ?_⟩
    simp [perform, if_neg hmethod, hcall]
  | ok request =>
    by_cases hgone : (s.highlighter.handle files .willing request).1 = .aborted
    · exact .inr ⟨request, _, _, hmethod, rfl, Prod.ext hgone rfl,
        perform_of_aborted hmethod hcall hgone⟩
    · refine .inl ⟨_, _, _, .handled hmethod hcall rfl hgone, ?_⟩
      simp only [perform, if_neg hmethod, hcall, host_none, if_neg hgone, List.map_map]
      rfl

theorem serveLine_of_passed {line : List Char}
    (h : Words.isBlank line = true ∨ Incoming.read? line = none) (limit : Option Nat) :
    s.serveLine files limit line = (none, s) := by
  unfold serveLine
  obtain hblank | hread := h
  · rw [if_pos hblank]
  · rw [hread]
    exact ite_self _

theorem serveLine_of_read {line : List Char} {i : Incoming} (hblank : Words.isBlank line = false)
    (hread : Incoming.read? line = some i) (limit : Option Nat) :
    s.serveLine files limit line =
      match s.perform files limit i, i.id with
      | (none, s), _ => (some .aborted, s)
      | (some _, s), none => (none, s)
      | (some result, s), some id => s.write limit (reply id result).write := by
  rw [serveLine, hblank, hread]
  rfl

theorem passed_or_read (line : List Char) :
    (Words.isBlank line = true ∨ Incoming.read? line = none) ∨
      Words.isBlank line = false ∧ ∃ i, Incoming.read? line = some i := by
  cases hblank : Words.isBlank line with
  | true => exact .inl (.inl rfl)
  | false =>
    cases hread : Incoming.read? line with
    | none => exact .inl (.inr rfl)
    | some i => exact .inr ⟨rfl, i, rfl⟩

theorem said_of_passed {line : List Char}
    (h : Words.isBlank line = true ∨ Incoming.read? line = none) (highlighter : Highlighter) :
    Said files highlighter line [] highlighter := by
  refine .nothing (h.imp_right fun hread i hspells => ?_)
  cases hread.symm.trans (Incoming.read?_eq_some_iff.2 hspells)

/-- What a line says whose call has been carried out: the calls to the editor, and behind them the
reply if it asks for one. -/
def spoken (id : Option Json) (calls : List HostCall) (result : Except RequestFault Json) :
    List Utterance :=
  calls.map .call ++ id.toList.map fun id => .reply id result

theorem said_of_performed {line : List Char} {i : Incoming} (hblank : Words.isBlank line = false)
    (hread : Incoming.read? line = some i) {h h' : Highlighter}
    {result : Except RequestFault Json} {calls : List HostCall}
    (performed : Performed files h i.method i.arguments result h' calls) :
    Said files h line (spoken i.id calls result) h' := by
  have hspells := Incoming.read?_eq_some_iff.1 hread
  obtain ⟨_ | id, method, arguments⟩ := i
  · have hcalls : spoken none calls result = calls.map .call := List.append_nil _
    exact hcalls ▸ .unasked hblank hspells performed
  · exact .asked hblank hspells performed

theorem serveLine_of_performed {line : List Char} {i : Incoming}
    (hblank : Words.isBlank line = false) (hread : Incoming.read? line = some i)
    {result : Except RequestFault Json} {h' : Highlighter} {calls : List HostCall}
    (hperform : s.perform files none i =
      (some result, ⟨h', s.output ++ (calls.map Utterance.call).map Utterance.text⟩)) :
    s.serveLine files none line =
      (none, ⟨h', s.output ++ (spoken i.id calls result).map Utterance.text⟩) := by
  rw [s.serveLine_of_read files hblank hread, hperform]
  cases i.id with
  | none => simp [spoken]
  | some id => simp [spoken, write, Utterance.text_reply]

theorem serveLine_cases (line : List Char) :
    (∃ said h', Said files s.highlighter line said h' ∧
      s.serveLine files none line = (none, ⟨h', s.output ++ said.map Utterance.text⟩)) ∨
    ∃ h', Fatal files s.highlighter line h' ∧
      s.serveLine files none line = (some .aborted, ⟨h', s.output⟩) := by
  obtain hpassed | ⟨hblank, i, hread⟩ := passed_or_read line
  · refine .inl ⟨[], s.highlighter, said_of_passed files hpassed s.highlighter, ?_⟩
    simp [s.serveLine_of_passed files hpassed]
  obtain ⟨result, h', calls, hperformed, hperform⟩ |
    ⟨request, h', host, hmethod, hcall, hrun, hperform⟩ := s.perform_cases files i
  · exact .inl ⟨_, h', said_of_performed files hblank hread hperformed,
      s.serveLine_of_performed files hblank hread hperform⟩
  · rw [s.serveLine_of_read files hblank hread, hperform]
    exact .inr ⟨h', .intro hblank (Incoming.read?_eq_some_iff.1 hread) hmethod hcall hrun, rfl⟩

/-- Lines of text are served one after the other, up to one that takes the program down. -/
theorem serveLines_conversation {lines : List (List UInt8)} {texts : List (List Char)}
    (htexts : lines.map Utf8.decode = texts.map some) (s : Service) :
    ∃ parts h' gone, Conversation files s.highlighter texts parts h' gone ∧
      s.serveLines files none lines =
        (if gone then some .aborted else none,
          ⟨h', s.output ++ parts.flatten.map Utterance.text⟩) := by
  induction lines generalizing texts s with
  | nil =>
    obtain rfl : texts = [] := List.map_eq_nil_iff.1 htexts.symm
    refine ⟨[], s.highlighter, false, .nil _, ?_⟩
    rw [List.flatten_nil, List.map_nil, List.append_nil]
    rfl
  | cons line lines ih =>
    cases texts with
    | nil => cases htexts
    | cons text texts =>
      obtain ⟨hline, hlines⟩ := List.cons_eq_cons.1 htexts
      obtain ⟨said, h', hsaid, hserve⟩ | ⟨h', hfatal, hserve⟩ := s.serveLine_cases files text
      · obtain ⟨parts, h'', gone, hparts, hrest⟩ :=
          ih hlines ⟨h', s.output ++ said.map Utterance.text⟩
        refine ⟨said :: parts, h'', gone, .cons hsaid hparts, ?_⟩
        simp [serveLines, hline, hserve, hrest]
      · refine ⟨[], h', true, .gone hfatal texts, ?_⟩
        simp [serveLines, hline, hserve]

theorem serveLines_append (s : Service) (limit : Option Nat) (first second : List (List UInt8)) :
    s.serveLines files limit (first ++ second) =
      match s.serveLines files limit first with
      | (none, s) => s.serveLines files limit second
      | (some fault, s) => (some fault, s) := by
  induction first generalizing s with
  | nil => rfl
  | cons line first ih =>
    rw [List.cons_append, serveLines, serveLines]
    cases Utf8.decode line with
    | none => rfl
    | some text =>
      cases hserve : s.serveLine files limit text with
      | mk fault s' =>
        simp only [hserve]
        cases fault with
        | none => exact ih s'
        | some fault => rfl

def behind (output : List String) (s : Service) : Service :=
  { s with output := output ++ s.output }

theorem perform_behind (output : List String) (i : Incoming) :
    (s.behind output).perform files none i =
      ((s.perform files none i).1, (s.perform files none i).2.behind output) := by
  unfold perform
  by_cases hmethod : i.method = enableMethod
  · simp [hmethod, behind]
  · rw [if_neg hmethod, if_neg hmethod]
    cases Request.ofCall i.method i.arguments with
    | error fault => rfl
    | ok request => simp [host_none, behind]

theorem serveLine_behind (output : List String) (line : List Char) :
    (s.behind output).serveLine files none line =
      ((s.serveLine files none line).1, (s.serveLine files none line).2.behind output) := by
  obtain hpassed | ⟨hblank, i, hread⟩ := passed_or_read line
  · simp [serveLine_of_passed _ files hpassed]
  · rw [serveLine_of_read _ files hblank hread, serveLine_of_read _ files hblank hread,
      perform_behind]
    obtain ⟨_ | result, s'⟩ := s.perform files none i
    · rfl
    · cases i.id with
      | none => rfl
      | some id => simp [write, behind]

theorem serveLines_behind (output : List String) (lines : List (List UInt8)) :
    (s.behind output).serveLines files none lines =
      ((s.serveLines files none lines).1, (s.serveLines files none lines).2.behind output) := by
  induction lines generalizing s with
  | nil => rfl
  | cons line lines ih =>
    simp only [serveLines]
    cases Utf8.decode line with
    | none => rfl
    | some text =>
      simp only [serveLine_behind]
      cases s.serveLine files none text with
      | mk fault s' =>
        cases fault with
        | none => exact ih s'
        | some fault => rfl

variable (h : Highlighter)

theorem serve_conversation {input : List UInt8} {text : List Char}
    (htext : Utf8.decode input = some text) :
    ∃ parts h' gone, Conversation files h (Lines.ofChars text) parts h' gone ∧
      serve h files none input =
        (if gone then some .aborted else none, ⟨h', parts.flatten.map Utterance.text⟩) :=
  serveLines_conversation files (Lines.decode_ofBytes htext) ⟨h, []⟩

/-- What serving some lines comes to, and then others by the highlighter that is left. -/
def followed (one two : Option ServeFault × Service) : Option ServeFault × Service :=
  if one.1.isSome then one else (two.1, ⟨two.2.highlighter, one.2.output ++ two.2.output⟩)

theorem serveLines_ofBytes_append {first : List UInt8} {text : List Char}
    (htext : Utf8.decode first = some text) (lines : List (List UInt8)) :
    let one := serve h files none first
    (Service.mk h []).serveLines files none (Lines.ofBytes first ++ lines) =
      followed one ((Service.mk one.2.highlighter []).serveLines files none lines) := by
  obtain ⟨parts, h', gone, -, hserve⟩ := serve_conversation files h htext
  have hone : (Service.mk h []).serveLines files none (Lines.ofBytes first) = _ := hserve
  intro one
  rw [serveLines_append, hone]
  simp only [one, hserve]
  cases gone with
  | true => rfl
  | false =>
    have hbehind := serveLines_behind ⟨h', []⟩ files (parts.flatten.map Utterance.text) lines
    simp only [behind, List.append_nil] at hbehind
    exact hbehind

/-- Serving text says, line by line and in order, what each line comes to: nothing for a line that
is blank or no call, and otherwise the calls that carrying it out makes, with one reply behind them
if it asks for one. It ends early only with a call that takes the program down, and there is none
where no grammar can. So lines can be served in two goes. -/
theorem serve_says_each_line (files : Files) (h : Highlighter) {input : List UInt8}
    {text : List Char} (htext : Utf8.decode input = some text) :
    (∃ parts h' gone, Conversation files h (Lines.ofChars text) parts h' gone ∧
      serve h files none input =
        (if gone then some .aborted else none, ⟨h', parts.flatten.map Utterance.text⟩) ∧
      (h.Bounded files → gone = false)) ∧
    ∀ second : List UInt8,
      let one := serve h files none input
      let two := serve one.2.highlighter files none second
      (Service.mk h []).serveLines files none (Lines.ofBytes input ++ Lines.ofBytes second) =
        followed one two ∧
      (input.getLast?.all (· == 10) = true →
        serve h files none (input ++ second) = followed one two) := by
  constructor
  · obtain ⟨parts, h', gone, hparts, hserve⟩ := serve_conversation files h htext
    exact ⟨parts, h', gone, hparts, hserve, hparts.not_gone⟩
  · intro second one two
    have hlines := serveLines_ofBytes_append files h htext (Lines.ofBytes second)
    refine ⟨hlines, fun hlast => ?_⟩
    rw [serve, Lines.ofBytes_append hlast]
    exact hlines

/-- A grammar that captures the text before the end of a line takes the program down. -/
def fatalStart : Highlighter :=
  .new
    { Sample.registry with
      engine := Pattern.engine
      grammars := ⟨[("source.e", Sample.behind)]⟩
      resolved := ⟨[(Sample.path.components, "source.e")]⟩ }
    Sample.rules

theorem readFails_of_tokenizer {h : Highlighter} (htokenizer : h.tokenizer = fatalStart.tokenizer)
    (hon : h.disabled = false) (buffer visibleEnd : Nat) (refresh : Bool) :
    h.ReadFails Sample.files (.highlight buffer Sample.path ["ba"] visibleEnd refresh)
      (.tokenize 0 .exhausted) := by
  have hfound : Sample.files.exists? Sample.path = true := by cbv
  have hresolved : fatalStart.tokenizer.registry.resolved.get? Sample.path.components =
      some "source.e" := by
    simp [fatalStart, Highlighter.new, Table.get?]
  have hload : fatalStart.tokenizer.registry.load Sample.files "source.e" =
      (.ok Sample.behind, fatalStart.tokenizer.registry) := Registry.load_of_get? rfl _
  have hline : Sample.behind.scanLine ['b', 'a'] (.initial Sample.behind) {} = .error .exhausted :=
    Grammar.behind_scanLine _
  have hscan : Sample.behind.scanLines 0 (.initial Sample.behind) ["ba"] {} =
      .error (.tokenize 0 .exhausted) := by
    rw [Grammar.scanLines, show "ba".toList = ['b', 'a'] by simp, hline]
  refine ⟨hon, hfound, ?_⟩
  rw [htokenizer, Tokenizer.reads, Tokenizer.scopeName, Registry.scopeName_of_resolved hresolved]
  dsimp only
  rw [Tokenizer.scan, hload]
  dsimp only [Except.bind]
  rw [hscan]
  rfl

def fatalLine : List Char := "[1,\"highlight\",[1,\"a.k\",[\"ba\"],0,false]]".toList

def fatalCall : Incoming where
  id := some (.number (.natural 1))
  method := "highlight"
  arguments := [.number (.natural 1), .string "a.k", .array [.string "ba"], .number (.natural 0),
    .bool false]

theorem read?_fatalLine : Incoming.read? fatalLine = some fatalCall := by cbv

theorem isBlank_fatalLine : Words.isBlank fatalLine = false := by cbv

theorem ofCall_fatalCall :
    Request.ofCall fatalCall.method fatalCall.arguments =
      .ok (.highlight 1 Sample.path ["ba"] 0 false) := by
  cbv

theorem fatalCall_method : fatalCall.method ≠ enableMethod := by simp [fatalCall, enableMethod]

theorem serveLine_fatalLine {s : Service}
    (htokenizer : s.highlighter.tokenizer = fatalStart.tokenizer)
    (hon : s.highlighter.disabled = false) :
    ∃ h', s.serveLine Sample.files none fatalLine = (some .aborted, ⟨h', s.output⟩) := by
  have coherent : s.highlighter.tokenizer.Coherent := by
    rw [htokenizer]
    exact Tokenizer.coherent_of_registry _
  have habort := (Highlighter.handle_aborted_iff coherent Sample.files .willing _).2
    ⟨_, readFails_of_tokenizer htokenizer hon 1 0 false, rfl⟩
  have hperform := perform_of_aborted fatalCall_method ofCall_fatalCall habort
  rw [serveLine_of_read _ _ isBlank_fatalLine read?_fatalLine, hperform]
  exact ⟨_, rfl⟩

/-- A call that asks for a reply is given none. -/
theorem serve_says_each_line_unanswered :
    let served := serve fatalStart Sample.files none (Sample.bytes fatalLine)
    Incoming.Spells fatalLine fatalCall ∧ fatalCall.id = some (.number (.natural 1)) ∧
      served.1 = some .aborted ∧ served.2.output = [] := by
  intro served
  have hlines : Lines.ofBytes (Sample.bytes fatalLine) = [Sample.bytes fatalLine] := by cbv
  have hdecode : Utf8.decode (Sample.bytes fatalLine) = some fatalLine := by cbv
  obtain ⟨h', hserve⟩ := serveLine_fatalLine (s := ⟨fatalStart, []⟩) rfl rfl
  simp only [served, serve, hlines, serveLines, hdecode, hserve]
  exact ⟨Incoming.read?_eq_some_iff.1 read?_fatalLine, rfl, trivial, trivial⟩

def sampleStart : Highlighter :=
  .new (Sample.warm (Sample.opened "c" .written) Sample.sharedPaths) Sample.sharedRules

def sampleText : List Char :=
  ["x", "\x7b\"id\":7,\"method\":\"highlight\",\"params\":[1,\"a\",[\"k\"],0,false]\x7d",
    "[8,\"paint\"]", "[9,\"enable\"]",
    "[null,\"highlight\",[1,\"a\",[\"k\",\"k\"],1,true]]"].flatMap fun line => line.toList ++ ['\n']

def sampleOutput : List String :=
  ["\x7b\"method\":\"addHighlightMarks\",\"params\":\x7b\"bufnr\":1,\"marks\":[" ++
      "\x7b\"line\":0,\"start_col\":0,\"end_col\":1,\"group\":\"Outer\"\x7d]\x7d\x7d",
    "\x7b\"id\":7,\"result\":\x7b\"from\":0,\"marks\":1,\"outcome\":\"partialUpdate\",\"to\":0\x7d\x7d",
    "\x7b\"error\":\"unknown method: paint\",\"id\":8\x7d",
    "\x7b\"id\":9,\"result\":null\x7d",
    "\x7b\"method\":\"removeHighlightMarks\",\"params\":\x7b\"bufnr\":1,\"start\":1,\"end\":1\x7d\x7d",
    "\x7b\"method\":\"addHighlightMarks\",\"params\":\x7b\"bufnr\":1,\"marks\":[" ++
      "\x7b\"line\":1,\"start_col\":0,\"end_col\":1,\"group\":\"Outer\"\x7d]\x7d\x7d"]

theorem sampleStart_bounded : sampleStart.Bounded (Sample.installed "c" "x") where
  coherent := Tokenizer.coherent_of_registry _
  fits := Sample.warm_fits
  grammars name g hload := by
    -- what has been loaded before is what the file gives
    change ((Sample.warm _ _).load _ name).1 = .ok g at hload
    rw [(Sample.warm_faithful _).load_fst, Sample.warm_unread, Sample.unread_opened] at hload
    by_cases hname : name = "source.t"
    · subst hname
      obtain rfl := Except.ok.inj (Sample.opened_load_shared.symm.trans hload)
      exact ⟨Sample.shared_open, by decide⟩
    · rw [(Sample.opened_unread _ _).load_unknown (Sample.opened_sources (by simp) _)
        hname] at hload
      cases hload

theorem decode_sampleText : Utf8.decode (Sample.bytes sampleText) = some sampleText := by cbv

theorem serve_warm (r : Registry) (e : Entry) (content : List UInt8) :
    let served := serve (.new (Sample.warm r Sample.sharedPaths) Sample.sharedRules)
      ⟨[("e", e), ("a", .file []), ("c", .file []), ("b", .file content)], []⟩ none
      (Sample.bytes sampleText)
    (served.1, served.2.output) = (none, sampleOutput) := by
  cbv

theorem serve_sampleText :
    let served := serve sampleStart (Sample.installed "c" "x") none (Sample.bytes sampleText)
    served.1 = none ∧ served.2.output = sampleOutput :=
  Prod.mk.inj (serve_warm _ _ _)

theorem serve_says_each_line_sample :
    let files := Sample.installed "c" "x"
    let served := serve sampleStart files none (Sample.bytes sampleText)
    (∃ parts h', Conversation files sampleStart (Lines.ofChars sampleText) parts h' false ∧
      served = (none, ⟨h', parts.flatten.map Utterance.text⟩)) ∧
    served.2.output = sampleOutput ∧
    ∀ second : List UInt8, serve sampleStart files none (Sample.bytes sampleText ++ second) =
      followed served (serve served.2.highlighter files none second) := by
  intro files served
  obtain ⟨⟨parts, h', gone, hparts, hserve, hbounded⟩, hgoes⟩ :=
    serve_says_each_line files sampleStart decode_sampleText
  obtain rfl := hbounded sampleStart_bounded
  exact ⟨⟨parts, h', hparts, hserve⟩, serve_sampleText.2, fun second => (hgoes second).2 (by cbv)⟩

end Service

end Highlighting
