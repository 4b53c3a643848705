import Highlighting.Highlighter
import Highlighting.Json.Printer
import Highlighting.Json.Reader

/-!
Requests as lines of JSON. Each line that is a request is carried out; the calls that this makes and
the reply, if one is asked for, are written as lines.
-/
namespace Highlighting

def Json.ofNat (n : Nat) : Json := .number (.natural n)

def Json.ofOption {α : Type} (write : α → Json) : Option α → Json
  | some value => write value
  | none => .null

def Mark.toJson (m : Mark) : Json :=
  .object [("line", .ofNat m.line), ("start_col", .ofNat m.startColumn),
    ("end_col", .ofNat m.endColumn), ("group", .string m.group)]

namespace HostCall

def method : HostCall → String
  | .addMarks .. => "addHighlightMarks"
  | .removeMarks .. => "removeHighlightMarks"
  | .disable => "disable"
  | .openScratch .. => "openScratch"

def parameters : HostCall → List (String × Json)
  | .addMarks buffer marks =>
    [("bufnr", .ofNat buffer), ("marks", .array (marks.map Mark.toJson))]
  | .removeMarks buffer range =>
    [("bufnr", .ofNat buffer), ("start", .ofNat range.first),
      ("end", .ofOption .ofNat range.last)]
  | .disable => []
  | .openScratch fileType lines =>
    [("filetype", .string fileType), ("lines", .array (lines.map .string))]

def toJson (c : HostCall) : Json :=
  .object [("method", .string c.method), ("params", .object c.parameters)]

end HostCall

def SkipReason.name : SkipReason → String
  | .fileMissing => "fileMissing"
  | .noGrammar => "noGrammar"
  | .featureDisabled => "featureDisabled"

namespace Outcome

def name : Outcome → String
  | .skipped _ => "skipped"
  | .noChange => "noChange"
  | .partialUpdate .. => "partialUpdate"
  | .fullRefresh .. => "fullRefresh"
  | .disabled _ => "disabled"
  | .undecorated => "undecorated"
  | .scopeShown _ => "scopeShown"
  | .closed => "closed"
  | .failed _ => "failed"
  | .aborted => "aborted"

def details : Outcome → List (String × Json)
  | .skipped reason => [("reason", .string reason.name)]
  | .partialUpdate first last marks =>
    [("from", .ofNat first), ("to", .ofNat last), ("marks", .ofNat marks)]
  | .fullRefresh first last marks =>
    [("from", .ofNat first), ("to", .ofOption .ofNat last), ("marks", .ofNat marks)]
  | .disabled failure => [("error", .string failure.message)]
  | .scopeShown tokens => [("tokens", .ofNat tokens)]
  | .failed reason => [("error", .string reason)]
  | .noChange | .undecorated | .closed | .aborted => []

def toJson (o : Outcome) : Json :=
  .object (o.details.foldl (fun entries e => Json.insertKey e.1 e.2 entries)
    [("outcome", .string o.name)])

end Outcome

structure Incoming where
  /-- What the reply is to carry; without it none is written. -/
  id : Option Json
  method : String
  arguments : List Json
  deriving Inhabited

namespace Incoming

def fieldNames : List String := ["id", "method", "params"]

/-- The fields of a record, which may be written as an array; none if one is repeated. -/
def fields? : Json → Option (List (String × Json))
  | .object entries =>
    entries.foldlM (fun done entry =>
      if !fieldNames.contains entry.1 then some done
      else if (done.lookup entry.1).isSome then none
      else some (done ++ [entry])) []
  | .array items =>
    if items.length < 2 || 3 < items.length then none
    else some (fieldNames.zip items)
  | _ => none

def depthLimit : Nat := 126

def ofJson? (json : Json) : Option Incoming := do
  let fields ← fields? json
  let id ←
    match fields.lookup "id" with
    | none | some .null => some none
    | some id => some <$> id.value? depthLimit
  let method ← (← fields.lookup "method").string?
  let arguments ←
    match fields.lookup "params" with
    | none => some []
    | some json => (← json.value? depthLimit).items?
  return ⟨id, method, arguments⟩

def read? (line : List Char) : Option Incoming := do ofJson? (← Json.read? line)

def path? (i : Incoming) : Option Path :=
  match Request.ofCall i.method i.arguments with
  | .ok request => request.path?
  | .error _ => none

end Incoming

/-- Why serving ends before the input does. -/
inductive ServeFault
  | writeFailed
  | notText
  /-- The program is gone. -/
  | aborted
  deriving Repr, DecidableEq, Inhabited

def ServeFault.message : ServeFault → String
  | .writeFailed => "write failed"
  | .notText => "stream did not contain valid UTF-8"
  | .aborted => ScanFault.exhausted.message

structure Service where
  highlighter : Highlighter
  output : List String := []

namespace Service

/-- Turns highlighting on; the only call that is no request. -/
def enableMethod : String := "enable"

/-- An editor behind a pipe that takes `limit` lines, or any number, of which `written` are
taken. -/
def host (limit : Option Nat) (written : Nat) : Host where
  refuse attempts _ :=
    let taken := written + (attempts.filter fun a => a.refusal.isNone).length
    if limit.all (taken < ·) then none else some ServeFault.writeFailed.message

def reply (id : Json) (result : Except RequestFault Json) : Json :=
  match result with
  | .ok result => .object [("id", id), ("result", result)]
  | .error fault => .object [("error", .string fault.message), ("id", id)]

/-- Carries out a call. It comes to nothing if the program is gone. -/
def perform (s : Service) (files : Files) (limit : Option Nat) (i : Incoming) :
    Option (Except RequestFault Json) × Service :=
  if i.method = enableMethod then
    (some (.ok .null), { s with highlighter := s.highlighter.enable })
  else
    match Request.ofCall i.method i.arguments with
    | .error fault => (some (.error fault), s)
    | .ok request =>
      let (outcome, highlighter, host) :=
        s.highlighter.handle files (host limit s.output.length) request
      (if outcome = .aborted then none else some (.ok outcome.toJson),
        ⟨highlighter, s.output ++ host.accepted.map fun c => c.toJson.write⟩)

def write (s : Service) (limit : Option Nat) (line : String) : Option ServeFault × Service :=
  if limit.all (s.output.length < ·) then (none, { s with output := s.output ++ [line] })
  else (some .writeFailed, s)

/-- Serves one line. Lines that are blank or no calls are passed over. -/
def serveLine (s : Service) (files : Files) (limit : Option Nat) (line : List Char) :
    Option ServeFault × Service :=
  if Words.isBlank line then (none, s)
  else
    match Incoming.read? line with
    | none => (none, s)
    | some incoming =>
      match s.perform files limit incoming, incoming.id with
      | (none, s), _ => (some .aborted, s)
      | (some _, s), none => (none, s)
      | (some result, s), some id => s.write limit (reply id result).write

/-- Serves lines until one is no text, a reply cannot be written or the program is gone. -/
def serveLines (s : Service) (files : Files) (limit : Option Nat) :
    List (List UInt8) → Option ServeFault × Service
  | [] => (none, s)
  | line :: rest =>
    match Utf8.decode line with
    | none => (some .notText, s)
    | some line =>
      match s.serveLine files limit line with
      | (none, s) => serveLines s files limit rest
      | (some fault, s) => (some fault, s)

def serve (h : Highlighter) (files : Files) (limit : Option Nat) (input : List UInt8) :
    Option ServeFault × Service :=
  serveLines ⟨h, []⟩ files limit (Lines.ofBytes input)

end Service

end Highlighting
