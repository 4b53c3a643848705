import Highlighting.Unicode.Property

/-!
Patterns as trees, as they are read and, with case and look-behinds worked out, as a search uses
them. Groups are referred to by number.
-/
namespace Highlighting.Pattern

open Unicode (RangeSet lastCode)

/-- Places that a pattern can ask for without taking a character. -/
inductive Edge
  | lineStart
  | lineEnd
  | textStart
  | textEnd
  /-- The end of the text or the line feed that ends it. -/
  | lastLineEnd
  | wordEdge
  | notWordEdge
  /-- Where the search began. -/
  | searchStart
  deriving Repr, DecidableEq, Inhabited

inductive Node
  | empty
  | fail
  /-- Code points one after the other, in any case if `fold`. One that is no character is never
  found. -/
  | text (codes : List Nat) (fold : Bool)
  /-- One character of a set. -/
  | one (codes : RangeSet)
  /-- A line end of any kind; the pair of two characters is one. -/
  | newline
  | edge (e : Edge)
  /-- The match is taken to start here. -/
  | keep
  /-- What follows is the second part, so a sequence of many parts nests to the right. -/
  | seq (first second : Node)
  | alt (first second : Node)
  /-- A part in brackets that does not mingle with what stands beside it: alternatives, or a part
  with options of its own. -/
  | inner (options : Bool) (body : Node)
  /-- `least` to `most` rounds. A round that takes nothing ends the loop, unless it changed what one
  of the `watched` groups took. -/
  | loop (body : Node) (least : Nat) (most : Option Nat) (greedy : Bool) (watched : List Nat)
  | group (index : Nat) (body : Node)
  /-- Once the body has matched, no other way to match it is tried. -/
  | atomic (body : Node)
  | ahead (negative : Bool) (body : Node)
  /-- The body matches a text of `least` to `most` characters that ends here. -/
  | behind (negative : Bool) (body : Node) (least : Nat) (most : Option Nat)
  /-- The text that the last of these groups took; `within` says that it stands in one of them. -/
  | backRef (groups : List Nat) (fold : Bool) (within : Bool)
  /-- A group by its number or, while a pattern is read, by the place of this call among all. -/
  | call (group : Nat)
  deriving Repr, DecidableEq, Inhabited

namespace Node

/-- A code that no text holds. -/
def noCode : Nat := lastCode + 1

/-- Puts a part before the rest of a sequence; texts that meet become one. -/
def join : Node → Node → Node
  | .text a fold, .text b fold' =>
    if fold = fold' then .text (a ++ b) fold else .seq (.text a fold) (.text b fold')
  | .text a fold, .seq (.text b fold') rest =>
    if fold = fold' then .seq (.text (a ++ b) fold) rest
    else .seq (.text a fold) (.seq (.text b fold') rest)
  | a, b => .seq a b

def parts : Node → List Node
  | .seq a b => a :: b.parts
  | node => [node]

def seqs : List Node → Node
  | [] => .empty
  | [n] => n
  | n :: rest => n.join (seqs rest)

/-- A sequence of parts as they stand in a branch: a sequence in brackets goes up into the one
around it, unless it comes first. -/
def branch : List Node → Node
  | [] => .empty
  | [n] => n
  | n :: rest => n.join (seqs (rest.flatMap parts))

def alts : List Node → Node
  | [] => .fail
  | [n] => n
  | n :: rest => .alt n (alts rest)

def alternatives : Node → List Node
  | .alt a b => a :: b.alternatives
  | node => [node]

def bracketed : Node → Node
  | .alt a b => .inner false (.alt a b)
  | node => node

/-- Whether a repeat makes no sense of the node: it asks for a place and takes nothing. A sequence
can be repeated whatever it holds. -/
def isPlace : Node → Bool
  | .edge _ | .keep | .ahead .. | .behind .. => true
  | .alt a b => a.isPlace || b.isPlace
  | .inner false body => body.isPlace
  | _ => false

def backRefs : Node → List Nat
  | .seq a b | .alt a b => a.backRefs ++ b.backRefs
  | .inner _ body | .loop body .. | .group _ body | .atomic body | .ahead _ body
  | .behind _ body .. => body.backRefs
  | .backRef groups .. => groups
  | _ => []

def groupBodies : Node → List (Nat × Node)
  | .seq a b | .alt a b => a.groupBodies ++ b.groupBodies
  | .inner _ body | .loop body .. | .atomic body | .ahead _ body | .behind _ body .. =>
    body.groupBodies
  | .group index body => (index, body) :: body.groupBodies
  | _ => []

def groups (node : Node) : List Nat := node.groupBodies.map (·.1)

/-- The groups that the node calls; with `zero` also in parts that are repeated no times. -/
def calls (zero : Bool) : Node → List Nat
  | .seq a b | .alt a b => a.calls zero ++ b.calls zero
  | .loop body _ most _ _ => if most = some 0 && !zero then [] else body.calls zero
  | .inner _ body | .group _ body | .atomic body | .ahead _ body | .behind _ body .. =>
    body.calls zero
  | .call index => [index]
  | _ => []

/-- Gives every call the number of its group, and takes away the groups that do not capture. -/
def settle (target : Nat → Nat) (captures : Nat → Bool) : Node → Node
  | .seq a b => (a.settle target captures).join (b.settle target captures)
  | .alt a b => .alt (a.settle target captures) (b.settle target captures)
  | .inner options body => .inner options (body.settle target captures)
  | .loop body least most greedy watched =>
    .loop (body.settle target captures) least most greedy watched
  | .group index body =>
    let body := body.settle target captures
    if captures index then .group index body
    else
      match body with
      | .seq .. | .alt .. => .inner false body
      | _ => body
  | .atomic body => .atomic (body.settle target captures)
  | .ahead negative body => .ahead negative (body.settle target captures)
  | .behind negative body least most => .behind negative (body.settle target captures) least most
  | .call site => .call (target site)
  | node => node

/-- Sets the `watched` groups of every loop: those it holds that the pattern, which refers back to
`refs` in all, refers to from outside the loop. -/
def watch (refs : List Nat) : Node → Node
  | .seq a b => .seq (a.watch refs) (b.watch refs)
  | .alt a b => .alt (a.watch refs) (b.watch refs)
  | .inner options body => .inner options (body.watch refs)
  | .loop body least most greedy _ =>
    let inner := body.backRefs
    .loop (body.watch refs) least most greedy
      (body.groups.eraseDups.filter fun g => inner.count g < refs.count g)
  | .group index body => .group index (body.watch refs)
  | .atomic body => .atomic (body.watch refs)
  | .ahead negative body => .ahead negative (body.watch refs)
  | .behind negative body least most => .behind negative (body.watch refs) least most
  | node => node

end Node

structure Regex where
  root : Node
  /-- The bodies of groups by number; the first is the whole pattern. -/
  bodies : Array Node
  /-- The groups that capture, in order. -/
  captures : List Nat
  deriving Repr, Inhabited

def Regex.body (regex : Regex) (group : Nat) : Node := (regex.bodies[group]?).getD .fail

end Highlighting.Pattern
