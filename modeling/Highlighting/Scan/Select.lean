import Highlighting.Scan.Cache

/-! Which rule is next: the one that matches first, and of those the one that comes first. -/
namespace Highlighting

inductive Candidate
  /-- The end of the innermost region. -/
  | stop
  | rule (id : Nat)
  deriving Repr, DecidableEq, Inhabited

structure Found where
  candidate : Candidate
  groups : Groups
  deriving Repr, DecidableEq, Inhabited

namespace Found

def start (f : Found) : Nat := f.groups.whole.start

def stop (f : Found) : Nat := f.groups.whole.stop

end Found

namespace Grammar

variable (g : Grammar)

def edgeMatcher (p : EdgePattern) (resolved : Option String) : ScanM Matcher :=
  match p.fixed with
  | some matcher => return matcher
  | none => g.engine.read (resolved.getD p.source)

def better (best : Option Found) (candidate : Candidate) (groups : Option Groups) :
    Option Found :=
  match groups with
  | none => best
  | some groups =>
    match best with
    | none => some ⟨candidate, groups⟩
    | some b => if groups.whole.start < b.start then some ⟨candidate, groups⟩ else best

/-- The best match of rules from `pos` on and of one found before. A match at `pos` is as good as
any. -/
def bestRule (text : Text) (pos : Nat) (best : Option Found) : List Nat → Option Found
  | [] => best
  | id :: rest =>
    if best.any fun b => b.start == pos then best
    else
      match (g.rule id).matcher? with
      | none => bestRule text pos best rest
      | some matcher =>
        bestRule text pos (better best (.rule id) (matcher.search text pos)) rest

/-- The best match from `pos` on inside the innermost region. The end of the region goes first, or
last if its rule says so. -/
def nextMatch (text : Text) (pos : Nat) (stack : Stack) : ScanM (Option Found) :=
  let frame := stack.top
  let rules := g.candidatesOf frame.rule
  match g.rule frame.rule with
  | .block _ (some stop) _ stopLast => do
    let matcher ← g.edgeMatcher stop frame.resolved
    let ended := matcher.search text pos
    if stopLast then return better (g.bestRule text pos none rules) .stop ended
    else return g.bestRule text pos (better none .stop ended) rules
  | _ => return g.bestRule text pos none rules

end Grammar

end Highlighting
