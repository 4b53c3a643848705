import Highlighting.Document

/-!
Grammars as their files write them. The rules of a file are numbered in the order in which they are
read to the end, so that a rule is known by its number.
-/
namespace Highlighting

abbrev RuleNames := List (String × Nat)

/-- A rule of a grammar file. The rules inside it stand as their numbers. -/
structure RuleSource where
  /-- The rule that takes this one's place. -/
  reference : Option String := none
  name : Option String := none
  contentName : Option String := none
  matchPattern : Option String := none
  beginPattern : Option String := none
  endPattern : Option String := none
  whilePattern : Option String := none
  captures : Option RuleNames := none
  beginCaptures : Option RuleNames := none
  endCaptures : Option RuleNames := none
  whileCaptures : Option RuleNames := none
  patterns : Option (List Nat) := none
  repository : Option RuleNames := none
  endLast : Bool := false
  deriving Repr, DecidableEq, Inhabited

structure GrammarSource where
  scopeName : String
  patterns : List Nat
  repository : RuleNames
  rules : Array RuleSource
  deriving Repr, DecidableEq, Inhabited

abbrev RuleDecoder := StateT (Array RuleSource) Decoder

namespace RuleSource

def fieldNames : List String :=
  ["include", "name", "contentName", "match", "begin", "end", "while", "captures",
    "beginCaptures", "endCaptures", "whileCaptures", "patterns", "repository",
    "applyEndPatternLast"]

def inner {α : Type} (fields : List (String × Document)) (name : String)
    (decode : Document → RuleDecoder α) : RuleDecoder (Option α) :=
  fun rules =>
    match fields.lookup name with
    | none => return (none, rules)
    | some document => do
      match ← Decoder.optional (fun d => (decode d).run rules) document with
      | some (value, rules) => return (some value, rules)
      | none => return (none, rules)

def sequence (depth : Nat) (decode : Document → RuleDecoder Nat) (document : Document) :
    RuleDecoder (List Nat) := do
  (← Decoder.items depth document).mapM decode

def mapping (depth : Nat) (decode : Document → RuleDecoder Nat) (document : Document) :
    RuleDecoder RuleNames := do
  let entries ← Decoder.entries depth document
  return Decoder.lastOfEach (← entries.mapM fun entry => do
    return (entry.1, ← decode entry.2))

/-- Decodes a rule whose containers may nest `depth` deep; `child` decodes those two levels down. -/
def assemble (depth : Nat) (child : Document → RuleDecoder Nat) (document : Document) :
    RuleDecoder Nat := do
  let fields ← Decoder.fields fieldNames 13 depth document
  let text := fun name => Decoder.maybe fields name Decoder.text
  let names := fun name => inner fields name (mapping (depth - 1) child)
  let rule : RuleSource :=
    { reference := ← text "include"
      name := ← text "name"
      contentName := ← text "contentName"
      matchPattern := ← text "match"
      beginPattern := ← text "begin"
      endPattern := ← text "end"
      whilePattern := ← text "while"
      captures := ← names "captures"
      beginCaptures := ← names "beginCaptures"
      endCaptures := ← names "endCaptures"
      whileCaptures := ← names "whileCaptures"
      patterns := ← inner fields "patterns" (sequence (depth - 1) child)
      repository := ← names "repository"
      endLast := (← Decoder.maybe fields "applyEndPatternLast" Decoder.flag).getD false }
  let rules ← get
  set (rules.push rule)
  return rules.size

def decode : (depth : Nat) → Document → RuleDecoder Nat
  | depth + 2 => assemble (depth + 2) (decode depth)
  | depth => assemble depth fun _ => failure

end RuleSource

namespace GrammarSource

open RuleSource (sequence mapping)

def decode (depth : Nat) (document : Document) : Decoder GrammarSource := do
  let fields ← Decoder.fields ["scopeName", "name", "patterns", "repository"] 1 depth document
  let scopeName ← Decoder.required fields "scopeName" Decoder.text
  let _ ← Decoder.maybe fields "name" Decoder.text
  let child := RuleSource.decode (depth - 2)
  let (patterns, rules) ←
    Decoder.withDefault fields "patterns" ([], #[]) fun d =>
      (sequence (depth - 1) child d).run #[]
  let (repository, rules) ←
    Decoder.withDefault fields "repository" ([], rules) fun d =>
      (mapping (depth - 1) child d).run rules
  return ⟨scopeName, patterns, repository, rules⟩

end GrammarSource

end Highlighting
