import Highlighting.Pattern.Basic

/-!
A pattern as it was read, and what its groups have to do with one another: which a call enters, and
which come back to themselves. No group may call itself before it has taken a character.
-/
namespace Highlighting.Pattern

/-- A pattern as it was read, with the bodies of its groups by number. The first is the whole
pattern. -/
structure Draft where
  bodies : Array Node
  /-- The groups that capture, in order. -/
  captures : List Nat
  /-- The groups that are referred back to. -/
  refs : List Nat
  deriving Repr, Inhabited

/-- All that `next` leads to from `found`, in `fuel` rounds. -/
def spread (next : Nat → List Nat) : (fuel : Nat) → (found : List Nat) → List Nat
  | 0, found => found
  | fuel + 1, found =>
    match (found.flatMap next).eraseDups.filter fun group => !found.contains group with
    | [] => found
    | more => spread next fuel (found ++ more)

/-- Whether every way through a node takes a character, if every way through the groups of `known`
does. -/
def Node.takes (known : List Nat) : Node → Bool
  | .text codes _ => !codes.isEmpty
  | .one _ | .newline => true
  | .seq a b => a.takes known || b.takes known
  | .alt a b => a.takes known && b.takes known
  | .inner _ body | .atomic body | .group _ body => body.takes known
  | .loop body least .. => least ≠ 0 && body.takes known
  | .backRef groups _ within => !within && groups.all known.contains
  | .call index => known.contains index
  | .empty | .fail | .edge _ | .keep | .ahead .. | .behind .. => false

structure Recursion where
  /-- Every way through the node comes back. -/
  must : Bool
  /-- Some way comes back before it takes a character. -/
  endless : Bool
  deriving Repr, DecidableEq, Inhabited

namespace Recursion

def none : Recursion := ⟨false, false⟩

def seq (a b : Recursion) : Recursion := ⟨a.must || b.must, a.endless || b.endless⟩

def alt (a b : Recursion) : Recursion := ⟨a.must && b.must, a.endless || b.endless⟩

end Recursion

namespace Draft

def ofRoot (root : Node) (count : Nat) (captures : List Nat) : Draft :=
  let bodies := root.groupBodies
  let body := fun group => if group = 0 then root else (bodies.lookup group).getD .fail
  ⟨((List.range (count + 1)).map body).toArray, captures, root.backRefs⟩

def body (d : Draft) (group : Nat) : Node := (d.bodies[group]?).getD .fail

def root (d : Draft) : Node := d.body 0

/-- The groups that a call can enter. A call in a part that is repeated no times is never made, but
the body of a group that is called elsewhere stands also outside of such a part. -/
def live (d : Draft) : List Nat :=
  spread (fun group => (d.body group).calls true) d.bodies.size (d.root.calls false).eraseDups

def reaches (d : Draft) (group goal : Nat) : Bool :=
  let next := fun g => (d.body g).groups ++ (d.body g).calls true
  (spread next d.bodies.size [group]).contains goal

/-- The groups that take a character on every way through them, found in `fuel` rounds. -/
def takers (d : Draft) : (fuel : Nat) → List Nat → List Nat
  | 0, known => known
  | fuel + 1, known =>
    d.takers fuel ((List.range d.bodies.size).filter fun group => (d.body group).takes known)

/-- How a node comes back to the group `goal`. `seen` are the groups entered on the way, and `head`
says that no character has been taken; the groups of `known` take one. Calls are followed `depth`
deep. -/
def recursion (d : Draft) (known : List Nat) (goal : Nat) :
    (depth : Nat) → (seen : List Nat) → (head : Bool) → Node → Recursion
  | depth, seen, head, .seq a b =>
    let first := d.recursion known goal depth seen head a
    first.seq (d.recursion known goal depth seen (head && !a.takes known) b)
  | depth, seen, head, .alt a b =>
    (d.recursion known goal depth seen head a).alt (d.recursion known goal depth seen head b)
  | depth, seen, head, .loop body least most _ _ =>
    if most = some 0 then .none
    else
      let inner := d.recursion known goal depth seen head body
      if least = 0 then { inner with must := false } else inner
  | depth, seen, head, .inner _ body | depth, seen, head, .atomic body
  | depth, seen, head, .ahead _ body | depth, seen, head, .behind _ body .. =>
    d.recursion known goal depth seen head body
  | depth, seen, head, .group index body =>
    if seen.contains index then .none
    else if index = goal then ⟨true, head⟩
    else d.recursion known goal depth (index :: seen) head body
  | 0, _, _, .call _ => .none
  | depth + 1, seen, head, .call index =>
    if seen.contains index then .none
    else if index = goal then ⟨true, head⟩
    else d.recursion known goal depth (index :: seen) head (d.body index)
  | _, _, _, _ => .none
termination_by depth _ _ node => (depth, sizeOf node)

/-- Whether some group that is called would call itself without end. -/
def isEndless (d : Draft) : Bool :=
  let live := d.live
  let known := if live.isEmpty then [] else d.takers d.bodies.size []
  live.any fun group =>
    let found := d.recursion known group d.bodies.size [] true (d.body group)
    found.must || found.endless

end Draft

end Highlighting.Pattern
