import Highlighting.Grammar.Basic
import Highlighting.Text.Words

/-! The regions that are open at a place of a text. -/
namespace Highlighting

abbrev Scopes := List String

/-- The scopes inside of a rule: a name may hold several, blanks between them. -/
def Scopes.enter (scopes : Scopes) (name : Option String) : Scopes :=
  scopes ++ (name.map Words.ofString).getD []

structure Frame where
  rule : Nat
  /-- The scopes of what opens and ends the region. -/
  nameScopes : Scopes
  /-- The scopes of what lies between. -/
  contentScopes : Scopes
  /-- The pattern that ends the region or lets it go on, if it depends on what opened it. -/
  resolved : Option String
  /-- Where the region was opened, if that was on the line at hand. -/
  enteredAt : Option Nat
  deriving Repr, DecidableEq, Inhabited

/-- The grammar itself, which is always open, and the regions in it, innermost first. -/
structure Stack where
  root : Frame
  regions : List Frame
  deriving Repr, DecidableEq, Inhabited

namespace Stack

def maxDepth : Nat := 512

def initial (g : Grammar) : Stack :=
  ⟨⟨g.root, [g.scopeName], [g.scopeName], none, none⟩, []⟩

def depth (s : Stack) : Nat := s.regions.length + 1

def top (s : Stack) : Frame := s.regions.head?.getD s.root

def scopes (s : Stack) : Scopes := s.top.contentScopes

def push? (s : Stack) (f : Frame) : Option Stack :=
  if s.depth < maxDepth then some { s with regions := f :: s.regions } else none

def pop? (s : Stack) : Option (Frame × Stack) :=
  match s.regions with
  | [] => none
  | f :: rest => some (f, { s with regions := rest })

/-- Forgets what holds for one line only. -/
def endLine (s : Stack) : Stack :=
  let forget := fun f : Frame => { f with enteredAt := none }
  ⟨forget s.root, s.regions.map forget⟩

end Stack

end Highlighting
