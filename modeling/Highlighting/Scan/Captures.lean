import Highlighting.Scan.Cache
import Highlighting.Scan.Paint

/-!
Painting what the groups of a match took. A group inside an earlier one has that one's scopes too; a
capture with patterns has its text scanned once more.
-/
namespace Highlighting

/-- Scans a text from a place on, below a stack, and paints it. -/
abbrev Rescan := Text → Nat → Stack → Paint → ScanM Paint

/-- A group of which the end is not painted yet. -/
structure OpenGroup where
  stop : Nat
  scopes : Scopes
  deriving Repr, DecidableEq, Inhabited

namespace Captures

/-- Paints the groups that end at or before `place` to their ends. -/
def closeUpTo (place : Nat) : List OpenGroup → Paint → List OpenGroup × Paint
  | [], out => ([], out)
  | group :: rest, out =>
    if group.stop ≤ place then closeUpTo place rest (out.upTo group.stop group.scopes)
    else (group :: rest, out)

def closeAll (opened : List OpenGroup) (out : Paint) : Paint :=
  opened.foldl (fun out group => out.upTo group.stop group.scopes) out

def paintGroup (rescan : Rescan) (text : Text) (stack : Stack) (base : Scopes) (c : Capture)
    (span : Span) (opened : List OpenGroup) (out : Paint) :
    ScanM (List OpenGroup × Paint) := do
  let (opened, out) := closeUpTo span.start opened out
  let parent := opened.head?
  let outer := parent.elim base OpenGroup.scopes
  let out := out.upTo span.start outer
  let scopes := outer.enter c.name
  let stop := parent.elim span.stop fun group => min span.stop group.stop
  match c.patterns with
  | none => return (⟨stop, scopes⟩ :: opened, out)
  | some rule =>
    match stack.push? ⟨rule, scopes, scopes, none, some span.start⟩ with
    | none => throw .tooDeep
    | some nested =>
      let out ← rescan (text.extract 0 stop) span.start nested out
      return (⟨stop, scopes⟩ :: opened, out)

def paintFrom (rescan : Rescan) (text : Text) (stack : Stack) (groups : Groups) (base : Scopes) :
    (index : Nat) → Captures → List OpenGroup → Paint → ScanM Paint
  | _, [], opened, out => return closeAll opened out
  | index, c :: rest, opened, out =>
    match groups.get? index with
    | none => paintFrom rescan text stack groups base (index + 1) rest opened out
    | some span =>
      if c.isEmpty || span.isEmpty then
        paintFrom rescan text stack groups base (index + 1) rest opened out
      else do
        let (opened, out) ← paintGroup rescan text stack base c span opened out
        paintFrom rescan text stack groups base (index + 1) rest opened out

def paint (rescan : Rescan) (text : Text) (stack : Stack) (groups : Groups) (base : Scopes)
    (captures : Captures) (out : Paint) : ScanM Paint :=
  paintFrom rescan text stack groups base 0 captures [] out

end Captures

end Highlighting
