import Highlighting.Pattern.LookBehind
import Highlighting.Pattern.Reader

/-!
From what was read to what can be searched for: references, case and look-behinds are worked out,
and the bodies of groups that are called stand apart.
-/
namespace Highlighting.Pattern

open Unicode

/-- Works a pattern out, with the bodies of the groups that are done. -/
abbrev Shaping := StateT Bodies (Except Fault)

namespace Draft

/-- Works a node out that stands in the group `inside`, and in a look-behind if `behind`. A
look-behind measures a group by its body as far as that has been worked out. -/
def shape (d : Draft) : (behind : Bool) → (inside : Nat) → Node → Shaping Node
  | behind, _, .text codes fold =>
    return if fold then foldedTexts behind codes else .text codes false
  | behind, inside, .seq a b => do
    return .seq (← d.shape behind inside a) (← d.shape behind inside b)
  | behind, inside, .alt a b => do
    return .alt (← d.shape behind inside a) (← d.shape behind inside b)
  | behind, inside, .inner options body => do return .inner options (← d.shape behind inside body)
  | behind, inside, .loop body least most greedy watched => do
    return .loop (← d.shape behind inside body) least most greedy watched
  | behind, _, .group index body => do
    let body ← d.shape behind index body
    modify ((index, body) :: ·)
    return .group index body
  | behind, inside, .atomic body => do return .atomic (← d.shape behind inside body)
  | behind, inside, .ahead negative body => do return .ahead negative (← d.shape behind inside body)
  | _, inside, .behind negative body .. => do
    if !body.canLookBehind negative then throw .badLookBehind
    let body ← d.shape true inside body
    d.lookBehind (← get) inside negative body
  | _, _, node => return node

end Draft

/-- The form of a node that a search uses: groups that are called stand apart, a text of one
character is a set, and nothing needs to be kept together. -/
def Node.ready (live : List Nat) : Node → Node
  | .text [code] false => .one (.singleton code)
  | .seq a b => .seq (a.ready live) (b.ready live)
  | .alt a b => .alt (a.ready live) (b.ready live)
  | .inner _ body => body.ready live
  | .loop body least most greedy watched => .loop (body.ready live) least most greedy watched
  | .group index body => if live.contains index then .call index else .group index (body.ready live)
  | .atomic body => .atomic (body.ready live)
  | .ahead negative body => .ahead negative (body.ready live)
  | .behind negative body least most => .behind negative (body.ready live) least most
  | node => node

def Draft.regex (d : Draft) : Except Fault Regex := do
  let live := d.live
  let (root, done) ← (d.shape false 0 d.root).run []
  let root := root.ready live
  let body := fun group =>
    if !live.contains group then .fail
    else if group = 0 then root
    else (d.bodyIn done group).ready live
  return {
    root := if live.contains 0 then .call 0 else root
    bodies := ((List.range d.bodies.size).map body).toArray
    captures := d.captures }

def Aim.resolve (p : Progress) : Aim → Except Fault Nat
  | .number group => if group ≤ p.groupCount then .ok group else .error .undefinedGroup
  | .name key =>
    match p.names.lookup key with
    | some [group] => .ok group
    | some _ => .error .ambiguousName
    | none => .error .undefinedName

/-- The groups that capture: where there are names, those that have one. -/
def Progress.captures (p : Progress) : List Nat :=
  let groups := (List.range p.groupCount).map (· + 1)
  if p.names.isEmpty then groups
  else groups.filter fun group => p.names.any fun entry => entry.2.contains group

def Progress.finish (p : Progress) (root : Node) : Except Fault Regex := do
  if !p.names.isEmpty && p.numbered then throw .numberedReference
  if root.backRefs.any fun group => group > p.groupCount then throw .undefinedGroup
  let calls := (← p.calls.mapM (Aim.resolve p)).toArray
  let captures := p.captures
  let root := root.settle (fun site => (calls[site]?).getD 0) captures.contains
  let draft := Draft.ofRoot (root.watch root.backRefs) p.groupCount captures
  if draft.isEndless then throw .endlessRecursion
  draft.regex

def read (source : String) : Except Fault Regex := do
  let text := source.toList
  let (root, p) ← (readAlternatives (8 * text.length + 16) {}).run { rest := text }
  match p.rest with
  | [] => p.finish root
  | _ => .error .unmatchedClose

end Highlighting.Pattern
