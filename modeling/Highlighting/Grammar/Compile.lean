import Highlighting.Grammar.BackReference
import Highlighting.Grammar.Basic
import Highlighting.Grammar.Fault
import Highlighting.Grammar.Source
import Highlighting.Table
import Highlighting.Text.Words

/-!
From grammar files to a grammar. A rule is compiled once, with the names in view where it is first
reached, and every later mention stands for the result; so references may go in circles.
-/
namespace Highlighting

/-- The grammar files that may refer to each other, by the names under which they are known. -/
abbrev Library := List (String × GrammarSource)

namespace Compile

/-- The file that a rule belongs to and the rules by name in view of it, outermost first. -/
structure Context where
  file : String
  repositories : List RuleNames
  deriving Repr, Inhabited

inductive Target
  /-- The patterns of a whole file. -/
  | root (file : String)
  | rule (context : Context) (number : Nat)
  deriving Repr, Inhabited

structure Progress where
  rules : Array Rule := #[]
  /-- Where rules of files went. -/
  known : Table (String × Nat) Nat := {}
  /-- Where the patterns of grammars went, by the scope names that the files state. -/
  roots : Table String Nat := {}
  /-- The patterns of the grammar that is compiled. -/
  base : Option Nat := none
  /-- The files that rules asked for by name, last first. -/
  asked : List String := []
  deriving Inhabited

structure Environment where
  engine : Engine
  library : Library

/-- Compiles; what was done stays done when a fault ends it. -/
abbrev CompileM := ReaderT Environment (ExceptT GrammarFault (StateM Progress))

def largestGroup : Nat := 999

def source (file : String) : CompileM GrammarSource := do
  return ((← read).library.lookup file).getD default

def ask (file : String) : CompileM Bool := do
  if ((← read).library.lookup file).isSome then
    modify fun p => { p with asked := file :: p.asked }
    return true
  else return false

def known? : Target → CompileM (Option Nat)
  | .root file => do return (← get).roots.get? (← source file).scopeName
  | .rule context number => do return (← get).known.get? (context.file, number)

def allocate (target : Target) : CompileM Nat := do
  let id := (← get).rules.size
  modify fun p => { p with rules := p.rules.push (.container []) }
  match target with
  | .root file =>
    let scopeName := (← source file).scopeName
    modify fun p => { p with
      roots := p.roots.put scopeName id
      base := p.base <|> some id }
  | .rule context number =>
    modify fun p => { p with known := p.known.put (context.file, number) id }
  return id

def fill (id : Nat) (rule : Rule) : CompileM Unit :=
  modify fun p => { p with rules := p.rules.setIfInBounds id rule }

/-- A reference without its mark, and the name of a rule behind the mark, if there is one. -/
def splitReference (reference : String) : String × Option String :=
  match reference.toList.span (· ≠ '#') with
  | (file, _ :: name) => (String.ofList file, some (String.ofList name))
  | (file, []) => (String.ofList file, none)

/-- The rule that a name stands for: that of the innermost repository that has it. -/
def inView (context : Context) (name : String) : Option Nat :=
  context.repositories.reverse.findSome? (List.lookup name)

/-- The file that a scope name stands for: the one in which it is mentioned, or another one that is
asked for. -/
def fileNamed (context : Context) (scope : String) : CompileM (Option String) := do
  if scope = (← source context.file).scopeName then return some context.file
  else do
    let found ← ask scope
    return if found then some scope else none

def entry (name : Option String) (file : String) : CompileM (Option Target) :=
  match name with
  | none => return some (.root file)
  | some name => do
    let repository := (← source file).repository
    return (repository.lookup name).map (.rule ⟨file, [repository]⟩)

def external (context : Context) (scope : String) (name : Option String) :
    CompileM (Option Target) := do
  match ← fileNamed context scope with
  | none => return none
  | some file => entry name file

def referent (context : Context) (reference : String) : CompileM (Option Target) :=
  match splitReference reference with
  | ("", some name) => return (inView context name).map (.rule context)
  | (scope, name) => external context scope name

def follow (compile : Target → CompileM Nat) (context : Context) (reference : String) :
    CompileM (Option Nat) := do
  if reference = "$self" then some <$> compile (.root context.file)
  else if reference = "$base" then return (← get).base
  else
    match ← referent context reference with
    | some target => some <$> compile target
    | none => return none

/-- Compiles a list of patterns; references that lead nowhere are left out. -/
def patterns (compile : Target → CompileM Nat) (file : GrammarSource) (context : Context)
    (numbers : List Nat) : CompileM (List Nat) := do
  let ids ← numbers.mapM fun number =>
    match ((file.rules[number]?).getD {}).reference with
    | some reference => follow compile context reference
    | none => some <$> compile (.rule context number)
  return ids.filterMap id

def matcher (pattern : String) : CompileM Matcher := do
  match (← read).engine.compile? pattern with
  | some matcher => return matcher
  | none => throw (.badPattern pattern)

def edge (pattern : String) : CompileM EdgePattern := do
  if BackReference.occurs pattern.toList then return ⟨pattern, none⟩
  else return ⟨pattern, some (← matcher pattern)⟩

/-- Compiles the captures of a pattern with `groups` groups. Names that are no number, or no group
that the pattern has, are passed over. -/
def captures (compile : Target → CompileM Nat) (file : GrammarSource) (context : Context)
    (groups : Nat) (names : Option RuleNames) : CompileM Captures :=
  (names.getD []).foldlM (fun done (name, number) => do
    match Words.count? name with
    | none => return done
    | some group =>
      if largestGroup < group then throw (.captureTooLarge group)
      else if groups < group then return done
      else
        let rule := (file.rules[number]?).getD {}
        let patterns ←
          if rule.patterns.isSome then some <$> compile (.rule context number) else pure none
        return done.put group ⟨rule.name, patterns⟩) []

def rule (compile : Target → CompileM Nat) (file : GrammarSource) (context : Context)
    (r : RuleSource) : CompileM Rule := do
  let context := { context with
    repositories := context.repositories ++ r.repository.toList }
  let captures := captures compile file context
  let patterns ← patterns compile file context (r.patterns.getD [])
  match r.matchPattern, r.beginPattern with
  | some pattern, _ =>
    let matcher ← matcher pattern
    return .single r.name matcher (← captures matcher.groupCount r.captures)
  | none, some pattern =>
    let matcher ← matcher pattern
    let opening : Opening :=
      { name := r.name
        contentName := r.contentName
        matcher := matcher
        captures := ← captures matcher.groupCount (r.beginCaptures <|> r.captures)
        patterns := patterns }
    match r.whilePattern with
    | some pattern =>
      let go ← edge pattern
      return .lines opening go (← captures go.groupCount (r.whileCaptures <|> r.captures))
    | none =>
      let stop ← r.endPattern.mapM edge
      let stopCaptures ←
        captures (stop.elim 0 EdgePattern.groupCount) (r.endCaptures <|> r.captures)
      return .block opening stop stopCaptures r.endLast
  | none, none => return .container patterns

def ofTarget (compile : Target → CompileM Nat) : Target → CompileM Rule
  | .root name => do
    let file ← source name
    return .container (← patterns compile file ⟨name, [file.repository]⟩ file.patterns)
  | .rule context number => do
    let file ← source context.file
    rule compile file context ((file.rules[number]?).getD {})

/-- Compiles a target unless that has been done, and gives its place. The fuel bounds how deep
targets lie in each other; each of them is another one. -/
def target : (fuel : Nat) → Target → CompileM Nat
  | fuel, t => do
    match ← known? t with
    | some id => return id
    | none =>
      let id ← allocate t
      match fuel with
      | 0 => return id
      | fuel + 1 =>
        fill id (← ofTarget (target fuel) t)
        return id

def targetCount (library : Library) : Nat :=
  library.foldr (fun entry count => entry.2.rules.size + 1 + count) 0

/-- The rules that are no containers among those that `work` leads to, in order, each once. -/
def flatten (rules : Array Rule) : (fuel : Nat) → (work seen : List Nat) → List Nat
  | 0, _, _ | _, [], _ => []
  | fuel + 1, id :: work, seen =>
    if seen.contains id then flatten rules fuel work seen
    else
      match (rules[id]?).getD default with
      | .container patterns => flatten rules fuel (patterns ++ work) (id :: seen)
      | _ => id :: flatten rules fuel work (id :: seen)

/-- What is tried inside a rule. No container is opened twice, so the fuel is enough. -/
def triedInside (rules : Array Rule) (rule : Rule) : List Nat :=
  let patternCount := rules.toList.foldr (fun r count => r.patterns.length + count) 0
  flatten rules (patternCount + rule.patterns.length) rule.patterns []

end Compile

open Compile in
/-- Compiles the grammar that a library has under a name. The list names the files that were asked
for on the way, whether or not this ended well. -/
def Grammar.compile (engine : Engine) (library : Library) (file : String) :
    Except GrammarFault Grammar × List String :=
  let (result, progress) :=
    ((target (targetCount library) (.root file)).run ⟨engine, library⟩).run.run {}
  let grammar := result.map fun root =>
    { scopeName := ((library.lookup file).getD default).scopeName
      rules := progress.rules
      candidates := progress.rules.map (triedInside progress.rules)
      root := root
      engine := engine : Grammar }
  (grammar, progress.asked)

end Highlighting
