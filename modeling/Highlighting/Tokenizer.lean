import Highlighting.Registry.Basic
import Highlighting.Scan.Line
import Highlighting.Token

/-!
Tokens of buffers as they are edited. For each buffer the lines of its last parse are kept with the
state at the start of each, so a parse scans from the first line that differs.
-/
namespace Highlighting

structure BufferState where
  scopeName : String
  lines : List String
  /-- The state at the start of each line and at the end. -/
  starts : List Stack
  /-- The tokens of each line. -/
  tokens : List (List Token)
  deriving Repr, Inhabited

structure Parsed where
  tokens : List Token
  /-- The first line of which the tokens may have changed, if any have. -/
  changeStart : Option Nat
  deriving Repr, DecidableEq, Inhabited

def firstDifference : (old new : List String) → Option Nat
  | [], [] => none
  | old :: olds, new :: news =>
    if old = new then (firstDifference olds news).map (· + 1) else some 0
  | _, _ => some 0

/-- The tokens of lines from number `line` on, and the state after each. Patterns that one line
has read the next ones find in the cache. -/
def Grammar.scanLines (g : Grammar) :
    (line : Nat) → Stack → List String → PatternCache →
      Except Failure (List (List Token) × List Stack)
  | _, _, [], _ => return ([], [])
  | line, stack, text :: rest, cache =>
    match g.scanLine text.toList stack cache with
    | .error fault => .error (.tokenize line fault)
    | .ok ((spans, stack), cache) => do
      let (tokens, starts) ← scanLines g (line + 1) stack rest cache
      return (spans.map (Token.ofSpan line) :: tokens, stack :: starts)

structure Tokenizer where
  registry : Registry
  buffers : Table Nat BufferState := {}

namespace Tokenizer

def scopeName (t : Tokenizer) (files : Files) (path : Path) :
    Except Failure String × Tokenizer :=
  let (result, registry) := t.registry.scopeName files path
  (result, { t with registry := registry })

def hasState (t : Tokenizer) (buffer : Nat) : Bool := t.buffers.contains buffer

def forget (t : Tokenizer) (buffer : Nat) : Tokenizer :=
  { t with buffers := t.buffers.erase buffer }

/-- The state that a parse can go on from, and the first line to scan; none if nothing changed. -/
def resume (g : Grammar) (previous : Option BufferState) (scopeName : String)
    (lines : List String) : BufferState × Option Nat :=
  let fresh : BufferState := ⟨scopeName, [], [.initial g], []⟩
  match previous with
  | none => (fresh, some 0)
  | some state =>
    if state.scopeName = scopeName then (state, firstDifference state.lines lines)
    else (fresh, some 0)

def parseWith (g : Grammar) (previous : Option BufferState) (scopeName : String)
    (lines : List String) : Except Failure (Parsed × BufferState) :=
  let (state, start?) := resume g previous scopeName lines
  match start? with
  | none => .ok (⟨state.tokens.flatten, none⟩, state)
  | some start => do
    let starts := state.starts.take (start + 1)
    let (tokens, more) ←
      g.scanLines start (starts.getLast?.getD (.initial g)) (lines.drop start) {}
    let tokens := state.tokens.take start ++ tokens
    return (⟨tokens.flatten, some start⟩, ⟨scopeName, lines, starts ++ more, tokens⟩)

/-- Parses the lines of a buffer. A parse that fails leaves the buffer's state as it was. -/
def parse (t : Tokenizer) (files : Files) (buffer : Nat) (scopeName : String)
    (lines : List String) : Except Failure Parsed × Tokenizer :=
  let (loaded, registry) := t.registry.load files scopeName
  let t := { t with registry := registry }
  match loaded with
  | .error failure => (.error failure, t)
  | .ok g =>
    match parseWith g (t.buffers.get? buffer) scopeName lines with
    | .error failure => (.error failure, t)
    | .ok (parsed, state) => (.ok parsed, { t with buffers := t.buffers.put buffer state })

def tokenize (t : Tokenizer) (files : Files) (scopeName : String) (lines : List String) :
    Except Failure (List Token) × Tokenizer :=
  let (loaded, registry) := t.registry.load files scopeName
  let t := { t with registry := registry }
  (do
    let g ← loaded
    let (tokens, _) ← g.scanLines 0 (.initial g) lines {}
    return tokens.flatten, t)

end Tokenizer

end Highlighting
