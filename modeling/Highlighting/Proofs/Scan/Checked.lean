import Highlighting.Tokenizer

/-!
A scan of lines that looks where it reaches: it stops where a rule, a frame, a slice of a text or a
piece of a line is not there.
-/
namespace Highlighting

/-- What is not there. -/
inductive Breach
  /-- A rule, or the list of what is tried in it. -/
  | rule (id : Nat)
  /-- A region to be closed. -/
  | region
  /-- A place of the text that a search is to start from. -/
  | place (pos : Nat)
  /-- A slice of a text or of a line. -/
  | slice (span : Span)
  deriving Repr, DecidableEq, Inhabited

inductive Stop
  | fault (fault : ScanFault)
  | breach (breach : Breach)
  deriving Repr, DecidableEq, Inhabited

abbrev CheckM := StateT PatternCache (Except Stop)

namespace Checked

def check (holds : Bool) (breach : Breach) : CheckM Unit :=
  if holds then return () else throw (.breach breach)

def plain {α : Type} (x : ScanM α) : CheckM α := fun cache => (x cache).mapError .fault

def search (matcher : Matcher) (text : Text) (pos : Nat) : CheckM (Option Groups) := do
  check (pos ≤ text.size) (.place pos)
  return matcher.search text pos

def slice (text : Text) (span : Span) : CheckM Text := do
  check (span.start ≤ span.stop && span.stop ≤ text.size) (.slice span)
  return text.extract span.start span.stop

section Lookup
variable (g : Grammar)

def rule (id : Nat) : CheckM Rule :=
  match g.rules[id]? with
  | some rule => return rule
  | none => throw (.breach (.rule id))

def candidatesOf (id : Nat) : CheckM (List Nat) :=
  match g.candidates[id]? with
  | some rules => return rules
  | none => throw (.breach (.rule id))

def bestRule (text : Text) (pos : Nat) (best : Option Found) : List Nat → CheckM (Option Found)
  | [] => return best
  | id :: rest =>
    if best.any fun b => b.start == pos then return best
    else do
      match (← rule g id).matcher? with
      | none => bestRule text pos best rest
      | some matcher =>
        let groups ← search matcher text pos
        bestRule text pos (Grammar.better best (.rule id) groups) rest

def nextMatch (text : Text) (pos : Nat) (stack : Stack) : CheckM (Option Found) := do
  let frame := stack.top
  let rules ← candidatesOf g frame.rule
  match ← rule g frame.rule with
  | .block _ (some stop) _ stopLast =>
    check stack.pop?.isSome .region
    let matcher ← plain (g.edgeMatcher stop frame.resolved)
    let ended ← search matcher text pos
    if stopLast then
      let best ← bestRule g text pos none rules
      return Grammar.better best .stop ended
    else bestRule g text pos (Grammar.better none .stop ended) rules
  | _ => bestRule g text pos none rules

end Lookup

abbrev Rescan := Text → Nat → Stack → Paint → CheckM Paint

def paintGroup (rescan : Rescan) (text : Text) (stack : Stack) (base : Scopes) (c : Capture)
    (span : Span) (opened : List OpenGroup) (out : Paint) :
    CheckM (List OpenGroup × Paint) := do
  let (opened, out) := Captures.closeUpTo span.start opened out
  let parent := opened.head?
  let outer := parent.elim base OpenGroup.scopes
  let out := out.upTo span.start outer
  let scopes := outer.enter c.name
  let stop := parent.elim span.stop fun group => min span.stop group.stop
  match c.patterns with
  | none => return (⟨stop, scopes⟩ :: opened, out)
  | some rule =>
    match stack.push? ⟨rule, scopes, scopes, none, some span.start⟩ with
    | none => throw (.fault .tooDeep)
    | some nested =>
      let captured ← slice text ⟨0, stop⟩
      let out ← rescan captured span.start nested out
      return (⟨stop, scopes⟩ :: opened, out)

def paintFrom (rescan : Rescan) (text : Text) (stack : Stack) (groups : Groups) (base : Scopes) :
    (index : Nat) → Captures → List OpenGroup → Paint → CheckM Paint
  | _, [], opened, out => return Captures.closeAll opened out
  | index, c :: rest, opened, out =>
    match groups.get? index with
    | none => paintFrom rescan text stack groups base (index + 1) rest opened out
    | some span =>
      if c.isEmpty || span.isEmpty then
        paintFrom rescan text stack groups base (index + 1) rest opened out
      else do
        let (opened, out) ← paintGroup rescan text stack base c span opened out
        paintFrom rescan text stack groups base (index + 1) rest opened out

def paint (rescan : Rescan) (text : Text) (stack : Stack) (groups : Groups) (base : Scopes)
    (captures : Captures) (out : Paint) : CheckM Paint :=
  paintFrom rescan text stack groups base 0 captures [] out

def refer (text : Text) (groups : Groups) : List Char → CheckM (List Char)
  | '\\' :: c :: rest =>
    match Words.digit? c with
    | some index => do
      match groups.get? index with
      | none => refer text groups rest
      | some span =>
        let taken ← slice text span
        return BackReference.literal taken.toList ++ (← refer text groups rest)
    | none => return '\\' :: c :: (← refer text groups rest)
  | c :: rest => return c :: (← refer text groups rest)
  | [] => return []

def resolve (text : Text) (groups : Groups) (edge : Option EdgePattern) :
    CheckM (Option String) :=
  match edge.filter EdgePattern.isDynamic with
  | none => return none
  | some e => return some (String.ofList (← refer text groups e.source.toList))

def openRegion (rescan : Rescan) (text : Text) (stack : Stack) (found : Found) (rule : Nat)
    (opening : Opening) (resolved : Option String) (out : Paint) : CheckM Step := do
  let nameScopes := stack.scopes.enter opening.name
  let out ← paint rescan text stack found.groups nameScopes opening.captures out
  let out := out.upTo found.stop nameScopes
  let top := stack.top
  if found.start = found.stop && top.rule = rule && top.enteredAt = some found.start then
    return .halt stack out
  else
    let frame : Frame :=
      ⟨rule, nameScopes, nameScopes.enter opening.contentName, resolved, some found.start⟩
    match stack.push? frame with
    | some stack => return .go found.stop stack out
    | none => throw (.fault .tooDeep)

section Scan
variable (g : Grammar)

def closeRegion (rescan : Rescan) (text : Text) (pos : Nat) (stack : Stack) (found : Found)
    (out : Paint) : CheckM Step := do
  match stack.pop? with
  | none => throw (.breach .region)
  | some (frame, stack) =>
    let out := out.upTo found.start frame.contentScopes
    let ended ← rule g frame.rule
    let out ← paint rescan text stack found.groups frame.nameScopes ended.stopCaptures out
    let out := out.upTo found.stop frame.nameScopes
    if found.stop = pos && frame.enteredAt = some pos then return .halt stack out
    else return .go found.stop stack out

def act (rescan : Rescan) (text : Text) (pos : Nat) (stack : Stack) (found : Found)
    (out : Paint) : CheckM Step := do
  match found.candidate with
  | .stop => closeRegion g rescan text pos stack found out
  | .rule id =>
    let out := out.upTo found.start stack.scopes
    match ← rule g id with
    | .single name _ captures =>
      let scopes := stack.scopes.enter name
      let out ← paint rescan text stack found.groups scopes captures out
      let out := out.upTo found.stop scopes
      if pos < found.stop then return .go found.stop stack out else return .halt stack out
    | .block opening stop _ _ =>
      let resolved ← resolve text found.groups stop
      openRegion rescan text stack found id opening resolved out
    | .lines opening go _ =>
      let resolved ← resolve text found.groups go
      openRegion rescan text stack found id opening resolved out
    | .container _ => return .go found.stop stack out

def walk (rescan : Rescan) (text : Text) :
    (steps : Nat) → (pos : Nat) → Stack → Paint → CheckM (Stack × Paint)
  | steps, pos, stack, out =>
    if pos < text.size then
      match steps with
      | 0 => throw (.fault .noProgress)
      | steps + 1 => do
        match ← nextMatch g text pos stack with
        | none => return (stack, out)
        | some found =>
          match ← act g rescan text pos stack found out with
          | .go pos stack out => walk rescan text steps pos stack out
          | .halt stack out => return (stack, out)
    else return (stack, out)

def scan : (nesting : Nat) → Text → Nat → Stack → Paint → CheckM (Stack × Paint)
  | 0, _, _, _, _ => throw (.fault .exhausted)
  | nesting + 1, text, pos, stack, out => do
    let rescan : Rescan := fun text pos stack out => do
      return (← scan nesting text pos stack out).2
    let (stack, out) ← walk g rescan text (Grammar.stepLimit text) pos stack out
    return (stack, out.upTo text.size stack.scopes)

def rescan (nesting : Nat) : Rescan := fun text pos stack out => do
  return (← scan g nesting text pos stack out).2

def keepOpen (rescan : Rescan) (text : Text) (stack : Stack) :
    (rest kept : List Frame) → (pos : Nat) → Paint → CheckM (Nat × Stack × Paint)
  | [], kept, pos, out => return (pos, { stack with regions := kept }, out)
  | frame :: rest, kept, pos, out => do
    match ← rule g frame.rule with
    | .lines _ go captures =>
      let matcher ← plain (g.edgeMatcher go frame.resolved)
      let groups? ← search matcher text pos
      match groups?.filter fun groups => groups.whole.start == pos with
      | some groups =>
        let out ← paint rescan text stack groups frame.nameScopes captures out
        let stop := groups.whole.stop
        keepOpen rescan text stack rest (frame :: kept) stop (out.upTo stop frame.nameScopes)
      | none => return (pos, { stack with regions := kept }, out)
    | _ => keepOpen rescan text stack rest (frame :: kept) pos out

def scanLine (nesting : Nat) (line : List Char) (stack : Stack) :
    CheckM (List ScopedSpan × Stack) := do
  let text : Text := (line ++ ['\n']).toArray
  let (pos, stack, out) ← keepOpen g (rescan g nesting) text stack stack.regions.reverse [] 0
    (.fresh line.length)
  let (stack, out) ← scan g nesting text pos stack out
  return (out.pieces, stack.endLine)

def token (number length : Nat) (s : ScopedSpan) : CheckM Token := do
  check (s.start ≤ s.stop && s.stop ≤ length) (.slice ⟨s.start, s.stop⟩)
  return Token.ofSpan number s

def tokenLine (nesting number : Nat) (line : List Char) (stack : Stack) :
    CheckM (List Token × Stack) := do
  let (spans, stack) ← scanLine g nesting line stack
  return (← spans.mapM (token number line.length), stack)

/-- The tokens of lines, and the state after each, where scans may lie `nesting` deep in each other;
or the line that has none, and why. -/
def scanLines (nesting : Nat) : (number : Nat) → Stack → List String → PatternCache →
    Except (Nat × Stop) (List (List Token) × List Stack)
  | _, _, [], _ => return ([], [])
  | number, stack, text :: rest, cache =>
    match tokenLine g nesting number text.toList stack cache with
    | .error stop => .error (number, stop)
    | .ok ((tokens, stack), cache) => do
      let (more, ends) ← scanLines nesting (number + 1) stack rest cache
      return (tokens :: more, stack :: ends)

end Scan

end Checked

end Highlighting
