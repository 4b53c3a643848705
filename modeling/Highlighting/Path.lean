import Highlighting.Unicode.RangeSet

/-!
Paths as they are written. Two paths are the same if they have the same components; joining and
cutting keep the rest of the text as it is.
-/
namespace Highlighting

structure Path where
  text : String
  deriving Repr, DecidableEq, Inhabited

namespace Path

inductive Component
  | root
  /-- A dot, which counts only in front. -/
  | here
  | up
  | name (s : String)
  deriving Repr, DecidableEq, Inhabited

def parts (p : Path) : List String :=
  (Unicode.splitAll (· == '/') p.text.toList).map String.ofList

def isRooted (p : Path) : Bool := p.text.toList.head? == some '/'

def isIdle (part : String) : Bool := part = "" || part = "."

def component? (part : String) : Option Component :=
  if isIdle part then none else if part = ".." then some .up else some (.name part)

def components (p : Path) : List Component :=
  let front : List Component :=
    if p.isRooted then [.root] else if p.parts.head? == some "." then [.here] else []
  front ++ p.parts.filterMap component?

def fileName? (p : Path) : Option String :=
  match p.components.getLast? with
  | some (.name s) => some s
  | _ => none

def join (folder p : Path) : Path :=
  if p.isRooted || folder.text = "" then p
  else if folder.text.toList.getLast? == some '/' then ⟨folder.text ++ p.text⟩
  else ⟨folder.text ++ "/" ++ p.text⟩

def child (folder : Path) (name : String) : Path := folder.join ⟨name⟩

/-- What is left of a path behind a first component, without idle parts at its ends. -/
def behind? (first : String) (p : Path) : Option Path :=
  match p.parts with
  | part :: rest =>
    if part = first then
      let rest := ((rest.dropWhile isIdle).reverse.dropWhile isIdle).reverse
      some ⟨"/".intercalate rest⟩
    else none
  | [] => none

end Path

end Highlighting
