import Highlighting.Pattern.Draft
import Highlighting.Pattern.Fault

/-!
How many characters a node takes; a look-behind steps back by as many. A group that comes back to
itself takes any number.
-/
namespace Highlighting.Pattern

/-- How many characters are taken: `least` to `most`. Nothing but characters is asked for on a way
that takes `least` of them if that is `sure`. -/
structure Width where
  least : Nat
  most : Option Nat
  sure : Bool
  deriving Repr, DecidableEq, Inhabited

namespace Width

def exactly (count : Nat) : Width := ⟨count, some count, true⟩

def unknown : Width := ⟨0, none, false⟩

def unsure (w : Width) : Width := { w with sure := false }

def add (a b : Width) : Width :=
  ⟨a.least + b.least, (do return (← a.most) + (← b.most)), a.sure && b.sure⟩

/-- Either width; of the same least number, one that is sure counts. -/
def either (a b : Width) : Width :=
  ⟨min a.least b.least, (do return max (← a.most) (← b.most)),
    if b.least < a.least then b.sure else if a.least < b.least then a.sure else a.sure || b.sure⟩

def times (w : Width) (least : Nat) (most : Option Nat) : Width :=
  if most = some 0 then exactly 0
  else ⟨w.least * least, (do return (← w.most) * (← most)), w.sure⟩

def isFixed (w : Width) : Bool := w.most == some w.least

/-- The furthest that a look-behind steps back, if it does not step back without bound. -/
def furthest : Nat := 65535

def isTooFar (w : Width) : Bool := furthest < w.least || w.most.any fun most => furthest < most

end Width

abbrev Bodies := List (Nat × Node)

namespace Draft

def bodyIn (d : Draft) (done : Bodies) (group : Nat) : Node :=
  (done.lookup group).getD (d.body group)

/-- The width of a node that stands in the group `inside`. `seen` are the groups entered on the way,
and calls are followed `depth` deep. A text in any case has none before it is worked out. -/
def width (d : Draft) (done : Bodies) :
    (depth : Nat) → (seen : List Nat) → (inside : Nat) → Node → Except Fault Width
  | _, _, _, .text codes fold =>
    if fold then .error .badLookBehind else .ok (.exactly codes.length)
  | _, _, _, .one _ => .ok (.exactly 1)
  | _, _, _, .newline => .ok ⟨1, some 2, true⟩
  | _, _, _, .edge _ | _, _, _, .ahead .. | _, _, _, .behind .. => .ok (Width.exactly 0).unsure
  | _, _, _, .empty | _, _, _, .fail | _, _, _, .keep => .ok (.exactly 0)
  | depth, seen, inside, .seq a b => do
    return (← d.width done depth seen inside a).add (← d.width done depth seen inside b)
  | depth, seen, inside, .alt a b => do
    return (← d.width done depth seen inside a).either (← d.width done depth seen inside b)
  | depth, seen, inside, .inner _ body | depth, seen, inside, .atomic body =>
    d.width done depth seen inside body
  | depth, seen, inside, .loop body least most _ _ =>
    if most = some 0 then .ok (.exactly 0)
    else do return (← d.width done depth seen inside body).times least most
  | depth, seen, _, .group index body =>
    if seen.contains index then .ok .unknown
    else do return (← d.width done depth (index :: seen) index body).unsure
  | 0, _, _, .call _ | 0, _, _, .backRef .. => .ok .unknown
  | depth + 1, seen, inside, .call index =>
    if d.reaches index inside || seen.contains index then .ok .unknown
    else do return (← d.width done depth (index :: seen) index (d.bodyIn done index)).unsure
  | depth + 1, seen, _, .backRef groups _ within =>
    if within then .ok (Width.exactly 0).unsure
    else do
      let widths ← groups.mapM fun index =>
        if seen.contains index then .ok .unknown
        else d.width done depth (index :: seen) index (d.bodyIn done index)
      match widths with
      | [] => return .unknown
      | first :: others => return (others.foldl Width.either first).unsure
termination_by depth _ _ node => (depth, sizeOf node)

def widthOf (d : Draft) (done : Bodies) (inside : Nat) (node : Node) : Except Fault Width :=
  d.width done (d.bodies.size + 1) [] inside node

end Draft

end Highlighting.Pattern
