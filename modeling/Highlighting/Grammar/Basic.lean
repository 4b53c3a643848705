import Highlighting.Matcher

/-!
Grammars that are ready to use. All rules stand in one array and refer to each other by their place
in it.
-/
namespace Highlighting

/-- How the text of one group is scoped. -/
structure Capture where
  name : Option String := none
  /-- The rule whose patterns the text is scanned with once more. -/
  patterns : Option Nat := none
  deriving Repr, DecidableEq, Inhabited

def Capture.isEmpty (c : Capture) : Bool := c.name.isNone && c.patterns.isNone

/-- Captures in the order of their groups, from group 0 on. -/
abbrev Captures := List Capture

def Captures.put (captures : Captures) (group : Nat) (c : Capture) : Captures :=
  (captures ++ List.replicate (group + 1 - captures.length) default).set group c

/-- The pattern that ends a region or lets it go on. -/
structure EdgePattern where
  source : String
  /-- How it is searched for, unless it refers back to what began the region. -/
  fixed : Option Matcher

namespace EdgePattern

def isDynamic (p : EdgePattern) : Bool := p.fixed.isNone

/-- How many groups it captures, or, if that depends on the region, a bound. -/
def groupCount (p : EdgePattern) : Nat :=
  match p.fixed with
  | some matcher => matcher.groupCount
  | none => p.source.toList.count '('

end EdgePattern

/-- What opens a region, and how the region is scoped. -/
structure Opening where
  name : Option String
  contentName : Option String
  matcher : Matcher
  captures : Captures
  patterns : List Nat

inductive Rule
  /-- Nothing but other rules. -/
  | container (patterns : List Nat)
  | single (name : Option String) (matcher : Matcher) (captures : Captures)
  /-- A region up to an end, or without one. -/
  | block (opening : Opening) (stop : Option EdgePattern) (stopCaptures : Captures)
    (stopLast : Bool)
  /-- A region that goes on as long as each further line matches. -/
  | lines (opening : Opening) (go : EdgePattern) (goCaptures : Captures)

instance : Inhabited Rule := ⟨.container []⟩

namespace Rule

def patterns : Rule → List Nat
  | .container patterns => patterns
  | .single .. => []
  | .block opening .. | .lines opening .. => opening.patterns

def matcher? : Rule → Option Matcher
  | .container _ => none
  | .single _ matcher _ => some matcher
  | .block opening .. | .lines opening .. => some opening.matcher

def opening? : Rule → Option Opening
  | .block opening .. | .lines opening .. => some opening
  | _ => none

def stopCaptures : Rule → Captures
  | .block _ _ captures _ => captures
  | _ => []

/-- The pattern that a region of the rule must know while it is open. -/
def edge? : Rule → Option EdgePattern
  | .block _ stop .. => stop
  | .lines _ go _ => some go
  | _ => none

end Rule

structure Grammar where
  scopeName : String
  rules : Array Rule
  /-- For each rule, the rules that are tried inside it, first to last: its patterns with containers
  replaced by what they hold. -/
  candidates : Array (List Nat)
  root : Nat
  /-- Reads the patterns that are only known during a scan. -/
  engine : Engine

namespace Grammar

def rule (g : Grammar) (id : Nat) : Rule := (g.rules[id]?).getD default

def candidatesOf (g : Grammar) (id : Nat) : List Nat := (g.candidates[id]?).getD []

def ruleCount (g : Grammar) : Nat := g.rules.size

end Grammar

end Highlighting
