import Highlighting.Pattern.Width

/-!
Look-behinds. What one begins with is taken no more often than it must be, and what is left has a
width to step back by.
-/
namespace Highlighting.Pattern

namespace Node

def canLookBehind (negative : Bool) : Node → Bool
  | .edge e => e ≠ .textEnd && e ≠ .lastLineEnd
  | .seq a b | .alt a b => a.canLookBehind negative && b.canLookBehind negative
  | .inner _ body | .loop body .. | .atomic body => body.canLookBehind negative
  | .group _ body => !negative && body.canLookBehind negative
  | .behind other body .. => (negative || !other) && body.canLookBehind negative
  | .ahead .. => false
  | _ => true

def isSimple : Node → Bool
  | .text .. | .one _ | .backRef .. => true
  | _ => false

/-- A sequence at the start of which no loop goes more often than it must; none if no part of the
sequence must be there. -/
def trimmedSeq? : Node → Option Node
  | .seq (.loop body least most greedy watched) rest =>
    if !body.isSimple then some (.seq (.loop body least most greedy watched) rest)
    else if least = 0 then rest.trimmedSeq?
    else some (.seq (.loop body least (some least) greedy watched) rest)
  | .loop body least most greedy watched =>
    if !body.isSimple then some (.loop body least most greedy watched)
    else if least = 0 then none
    else some (.loop body least (some least) greedy watched)
  | node => some node

/-- One alternative of a look-behind with no loop at its start that goes more often than it must. -/
def trimmed? : Node → Option Node
  | .inner false (.seq a b) | .seq a b => (Node.seq a b).trimmedSeq?
  | .loop body least most greedy watched =>
    if !body.isSimple then some (.loop body least most greedy watched)
    else if least = 0 then some .empty
    else some (.loop body least (some least) greedy watched)
  | node => some node

def trimmedAlts? : Node → Option Node
  | .alt a b => do return .alt (← a.trimmed?) (← b.trimmedAlts?)
  | node => node.trimmed?

end Node

namespace Draft

/-- Whether something outside of a look-behind in the group `inside` needs it to hold this node: a
group that is called or referred to, or a call of the group it stands in. -/
def isNeeded (d : Draft) (inside : Nat) : Node → Bool
  | .seq a b | .alt a b => d.isNeeded inside a || d.isNeeded inside b
  | .inner _ body | .loop body .. | .atomic body | .ahead _ body | .behind _ body .. =>
    d.isNeeded inside body
  | .group index body =>
    d.refs.contains index || d.live.contains index || d.isNeeded index body
  | .call index => d.reaches index inside
  | _ => false

/-- Whether a node ends with a line end of any kind; none if it takes nothing. -/
def endsLine? (d : Draft) (done : Bodies) : (depth : Nat) → Node → Option Bool
  | _, .newline => some true
  | _, .empty | _, .keep | _, .edge _ | _, .ahead .. | _, .behind .. | _, .fail => none
  | depth, .seq a b => d.endsLine? done depth b <|> d.endsLine? done depth a
  | depth, .inner _ body | depth, .atomic body | depth, .group _ body => d.endsLine? done depth body
  | depth, .loop body least .. => if least = 0 then some false else d.endsLine? done depth body
  | depth + 1, .call index => d.endsLine? done depth (d.bodyIn done index)
  | _, _ => some false
termination_by depth node => (depth, sizeOf node)

def pairBehind (negative : Bool) : Node := .behind negative (.text [13, 10] false) 2 (some 2)

/-- A look-behind that steps back by the width of its body. Of the line ends it knows at its end
only the pair. -/
def stepBack (d : Draft) (done : Bodies) (negative : Bool) (body : Node) (w : Width) : Node :=
  let look := .behind negative body w.least w.most
  if d.endsLine? done (d.bodies.size + 1) body ≠ some true then look
  else if negative then .inner true (.alt (pairBehind true) look)
  else .seq (pairBehind false) look

/-- A look-behind with the given body in the group `inside`. If its body can be nothing it needs not
look. -/
def lookOne (d : Draft) (done : Bodies) (inside : Nat) (negative : Bool) (body : Node) :
    Except Fault (Node × Width) := do
  match body.trimmedAlts? with
  | none => throw .badLookBehind
  | some body =>
    let w ← d.widthOf done inside body
    if w.isTooFar then throw .badLookBehind
    else if w.least = 0 && w.sure && !d.isNeeded inside body then
      return (if negative then .fail else .empty, .exactly 0)
    else return (d.stepBack done negative body w, w)

def othersFixed (d : Draft) (done : Bodies) (inside : Nat) (node : Node) : Except Fault Bool :=
  match node.trimmedAlts? with
  | none => throw .badLookBehind
  | some node =>
    (node.alternatives.drop 1).allM fun other => do return (← d.widthOf done inside other).isFixed

/-- The look-behinds that a look-behind comes to; `listed` says that its alternatives are taken
each on its own. -/
def lookEach (d : Draft) (done : Bodies) (inside : Nat) (negative : Bool) :
    (listed : Bool) → Node → Except Fault (List Node)
  | _, .inner false body => d.lookEach done inside negative false body
  | listed, .alt a b => do
    let each : Except Fault (List Node) := do
      return (← d.lookEach done inside negative false a) ++
        (← d.lookEach done inside negative true b)
    if listed then each
    else
      let (look, w) ← d.lookOne done inside negative (.alt a b)
      if w.isFixed || !(← d.othersFixed done inside (.alt a b)) then return [look] else each
  | _, node => do return [(← d.lookOne done inside negative node).1]

def lookBehind (d : Draft) (done : Bodies) (inside : Nat) (negative : Bool) (body : Node) :
    Except Fault Node := do
  let looks ← d.lookEach done inside negative false body
  return if negative then .seqs looks else (Node.alts looks).bracketed

end Draft

end Highlighting.Pattern
