import Highlighting.Json.Basic
import Highlighting.Mark
import Highlighting.Path

/-! Requests, and reading them from a method's name and its arguments. -/
namespace Highlighting

inductive Request
  /-- Brings the marks of a buffer up to date. -/
  | highlight (buffer : Nat) (path : Path) (lines : List String) (visibleEnd : Nat)
    (refresh : Bool)
  | undecorate (buffer : Nat) (range : LineRange)
  /-- Shows the scopes of all tokens. -/
  | showScope (buffer : Nat) (path : Path) (lines : List String)
  | close (buffer : Nat)
  deriving Repr, DecidableEq, Inhabited

inductive Method
  | highlight
  | undecorate
  | showScope
  | close
  deriving Repr, DecidableEq, Inhabited

namespace Method

def name : Method → String
  | .highlight => "highlight"
  | .undecorate => "undecorate"
  | .showScope => "showScope"
  | .close => "close"

def ofName? (name : String) : Option Method :=
  [Method.highlight, .undecorate, .showScope, .close].find? fun m => m.name = name

def arity : Method → Nat × Nat
  | .highlight => (5, 5)
  | .undecorate => (2, 3)
  | .showScope => (3, 3)
  | .close => (1, 1)

end Method

inductive Argument
  | buffer
  | path
  | lines
  | start
  | stop
  | refresh
  deriving Repr, DecidableEq, Inhabited

namespace Argument

def name : Argument → String
  | .buffer => "bufnr"
  | .path => "path"
  | .lines => "lines"
  | .start => "start"
  | .stop => "end"
  | .refresh => "refresh"

def form : Argument → String
  | .buffer | .start | .stop => "a non-negative integer"
  | .path => "a non-empty string"
  | .lines => "a non-empty array of strings"
  | .refresh => "a boolean"

end Argument

inductive RequestFault
  | unknownMethod (name : String)
  | arity (method : Method) (given : Nat)
  | invalidArgument (method : Method) (argument : Argument)
  deriving Repr, DecidableEq, Inhabited

def RequestFault.message : RequestFault → String
  | .unknownMethod name => "unknown method: " ++ name
  | .arity method given =>
    let (least, most) := method.arity
    let expected := if least = most then toString least
      else toString least ++ " or " ++ toString most
    method.name ++ ": expected " ++ expected ++ " arguments, got " ++ toString given
  | .invalidArgument method argument =>
    method.name ++ ": argument \x60" ++ argument.name ++ "\x60 must be " ++ argument.form

namespace Argument

def path? (json : Json) : Option Path :=
  match json with
  | .string s => if s = "" then none else some ⟨s⟩
  | _ => none

def lines? (json : Json) : Option (List String) :=
  match json with
  | .array [] => none
  | .array items => items.mapM Json.string?
  | _ => none

def flag? (json : Json) : Option Bool :=
  match json with
  | .bool b => some b
  | .number (.natural 0) => some false
  | .number (.natural 1) => some true
  | _ => none

end Argument

namespace Request

def buffer : Request → Nat
  | .highlight buffer .. | .undecorate buffer _ | .showScope buffer .. | .close buffer => buffer

def path? : Request → Option Path
  | .highlight _ path .. | .showScope _ path _ => some path
  | .undecorate .. | .close _ => none

def read {α : Type} (method : Method) (argument : Argument) (read? : Json → Option α)
    (json : Json) : Except RequestFault α :=
  match read? json with
  | some value => .ok value
  | none => .error (.invalidArgument method argument)

/-- Reads the arguments of a method. Where several are wrong, the one that is read first counts. -/
def ofArguments (method : Method) (arguments : List Json) : Except RequestFault Request :=
  match method, arguments with
  | .highlight, [buffer, path, lines, stop, refresh] => do
    let buffer ← read method .buffer Json.natural? buffer
    let path ← read method .path Argument.path? path
    let lines ← read method .lines Argument.lines? lines
    let stop ← read method .stop Json.natural? stop
    let refresh ← read method .refresh Argument.flag? refresh
    return .highlight buffer path lines stop refresh
  | .undecorate, [buffer, start] => do
    let first ← read method .start Json.natural? start
    let buffer ← read method .buffer Json.natural? buffer
    return .undecorate buffer ⟨first, none⟩
  | .undecorate, [buffer, start, stop] => do
    let first ← read method .start Json.natural? start
    let last ← read method .stop Json.natural? stop
    let buffer ← read method .buffer Json.natural? buffer
    return .undecorate buffer ⟨first, some last⟩
  | .showScope, [buffer, path, lines] => do
    let buffer ← read method .buffer Json.natural? buffer
    let path ← read method .path Argument.path? path
    let lines ← read method .lines Argument.lines? lines
    return .showScope buffer path lines
  | .close, [buffer] => do
    let buffer ← read method .buffer Json.natural? buffer
    return .close buffer
  | method, arguments => .error (.arity method arguments.length)

def ofCall (method : String) (arguments : List Json) : Except RequestFault Request :=
  match Method.ofName? method with
  | some method => ofArguments method arguments
  | none => .error (.unknownMethod method)

end Request

end Highlighting
