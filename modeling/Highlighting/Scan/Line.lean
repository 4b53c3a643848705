import Highlighting.Grammar.BackReference
import Highlighting.Scan.Captures
import Highlighting.Scan.Select
import Highlighting.Text.Utf8

/-!
Scanning a line. The line feed that ends it is part of the text that patterns see, and is not
painted.
-/
namespace Highlighting

/-- What a match leads to. -/
inductive Step
  /-- The scan goes on from a place. -/
  | go (pos : Nat) (stack : Stack) (out : Paint)
  /-- Nothing more is matched. -/
  | halt (stack : Stack) (out : Paint)
  deriving Repr, Inhabited

namespace Grammar

variable (g : Grammar)

/-- Opens a region at its first match. Where the region has just been opened, opening it once more
without taking text is given up. -/
def openRegion (rescan : Rescan) (text : Text) (stack : Stack) (found : Found) (rule : Nat)
    (opening : Opening) (resolved : Option String) (out : Paint) : ScanM Step := do
  let nameScopes := stack.scopes.enter opening.name
  let out ← Captures.paint rescan text stack found.groups nameScopes opening.captures out
  let out := out.upTo found.stop nameScopes
  let top := stack.top
  if found.start = found.stop && top.rule = rule && top.enteredAt = some found.start then
    return .halt stack out
  else
    let frame : Frame :=
      ⟨rule, nameScopes, nameScopes.enter opening.contentName, resolved, some found.start⟩
    match stack.push? frame with
    | some stack => return .go found.stop stack out
    | none => throw .tooDeep

def resolve (text : Text) (groups : Groups) (edge : Option EdgePattern) : Option String :=
  (edge.filter EdgePattern.isDynamic).map fun e =>
    String.ofList (BackReference.resolve text groups.toList e.source.toList)

def closeRegion (rescan : Rescan) (text : Text) (pos : Nat) (stack : Stack) (found : Found)
    (out : Paint) : ScanM Step := do
  match stack.pop? with
  | none => return .halt stack out
  | some (frame, stack) =>
    let out := out.upTo found.start frame.contentScopes
    let out ← Captures.paint rescan text stack found.groups frame.nameScopes
      (g.rule frame.rule).stopCaptures out
    let out := out.upTo found.stop frame.nameScopes
    if found.stop = pos && frame.enteredAt = some pos then return .halt stack out
    else return .go found.stop stack out

def act (rescan : Rescan) (text : Text) (pos : Nat) (stack : Stack) (found : Found)
    (out : Paint) : ScanM Step := do
  match found.candidate with
  | .stop => g.closeRegion rescan text pos stack found out
  | .rule id =>
    let out := out.upTo found.start stack.scopes
    match g.rule id with
    | .single name _ captures =>
      let scopes := stack.scopes.enter name
      let out ← Captures.paint rescan text stack found.groups scopes captures out
      let out := out.upTo found.stop scopes
      if pos < found.stop then return .go found.stop stack out else return .halt stack out
    | .block opening stop _ _ =>
      openRegion rescan text stack found id opening (resolve text found.groups stop) out
    | .lines opening go _ =>
      openRegion rescan text stack found id opening (resolve text found.groups go) out
    | .container _ => return .go found.stop stack out

def walk (rescan : Rescan) (text : Text) :
    (steps : Nat) → (pos : Nat) → Stack → Paint → ScanM (Stack × Paint)
  | steps, pos, stack, out =>
    if pos < text.size then
      match steps with
      | 0 => throw .noProgress
      | steps + 1 => do
        match ← g.nextMatch text pos stack with
        | none => return (stack, out)
        | some found =>
          match ← g.act rescan text pos stack found out with
          | .go pos stack out => walk rescan text steps pos stack out
          | .halt stack out => return (stack, out)
    else return (stack, out)

def stepLimit (text : Text) : Nat := Utf8.size text.toList * 4 + Stack.maxDepth

/-- Scans a text from a place on and paints it to its end. Scans of captured text lie in this one;
open regions do not bound how deep, since what captured text is scanned with can be closed there. -/
def scan : (nesting : Nat) → Text → Nat → Stack → Paint → ScanM (Stack × Paint)
  | 0, _, _, _, _ => throw .exhausted
  | nesting + 1, text, pos, stack, out => do
    let rescan : Rescan := fun text pos stack out => do
      return (← scan nesting text pos stack out).2
    let (stack, out) ← g.walk rescan text (stepLimit text) pos stack out
    return (stack, out.upTo text.size stack.scopes)

def rescan (nesting : Nat) : Rescan := fun text pos stack out => do
  return (← g.scan nesting text pos stack out).2

/-- Asks the open regions, outermost first, whether they go on. `kept` are those that do; the first
that does not is closed along with all inside it. -/
def keepOpen (rescan : Rescan) (text : Text) (stack : Stack) :
    (rest kept : List Frame) → (pos : Nat) → Paint → ScanM (Nat × Stack × Paint)
  | [], kept, pos, out => return (pos, { stack with regions := kept }, out)
  | frame :: rest, kept, pos, out =>
    match g.rule frame.rule with
    | .lines _ go captures => do
      let matcher ← g.edgeMatcher go frame.resolved
      match (matcher.search text pos).filter fun groups => groups.whole.start == pos with
      | some groups =>
        let out ← Captures.paint rescan text stack groups frame.nameScopes captures out
        let stop := groups.whole.stop
        keepOpen rescan text stack rest (frame :: kept) stop (out.upTo stop frame.nameScopes)
      | none => return (pos, { stack with regions := kept }, out)
    | _ => keepOpen rescan text stack rest (frame :: kept) pos out

/-- The pieces of a line and the regions that stay open after it, where scans may lie `nesting` deep
in each other. -/
def scanLineWithin (nesting : Nat) (line : List Char) (stack : Stack) :
    ScanM (List ScopedSpan × Stack) := do
  let text : Text := (line ++ ['\n']).toArray
  let (pos, stack, out) ← g.keepOpen (g.rescan nesting) text stack stack.regions.reverse [] 0
    (.fresh line.length)
  let (stack, out) ← g.scan nesting text pos stack out
  return (out.pieces, stack.endLine)

def scanLine (line : List Char) (stack : Stack) : ScanM (List ScopedSpan × Stack) :=
  g.scanLineWithin g.engine.room line stack

end Grammar

end Highlighting
