import Highlighting.Document
import Highlighting.Scan.Stack

/-!
Which group a token is shown as. A rule names groups for scopes; a scope without one is shown as the
nearest scope above it that has one, where `a.b` lies above `a.b.c`.
-/
namespace Highlighting

structure GroupRule where
  groups : List (String × String) := []
  deriving Repr, DecidableEq, Inhabited

/-- What is left of a text before each of its dots, last dot first. The text is given back to
front, and so are the results. -/
def cutsAtDots : List Char → List (List Char)
  | [] => []
  | c :: rest => if c = '.' then rest :: cutsAtDots rest else cutsAtDots rest

def scopeLine (scope : String) : List String :=
  scope :: (cutsAtDots scope.toList.reverse).map fun cut => String.ofList cut.reverse

namespace GroupRule

def isEmpty (r : GroupRule) : Bool := r.groups.isEmpty

def groupOfScope? (r : GroupRule) (scope : String) : Option String :=
  (scopeLine scope).findSome? fun s => r.groups.lookup s

/-- The group of the innermost scope that has one. -/
def groupOf? (r : GroupRule) (scopes : Scopes) : Option String :=
  scopes.reverse.findSome? r.groupOfScope?

end GroupRule

structure RuleTable where
  rules : List (String × GroupRule) := []
  deriving Repr, DecidableEq, Inhabited

namespace RuleTable

def defaultName : String := "default"

def isEmpty (t : RuleTable) : Bool := t.rules.isEmpty

/-- The rule for a grammar; one without groups if there is none. -/
def resolve (t : RuleTable) (scopeName : String) : GroupRule :=
  (t.rules.lookup scopeName <|> t.rules.lookup defaultName).getD {}

def builtin : RuleTable :=
  ⟨[(defaultName, ⟨[
    ("comment", "Comment"),
    ("string", "String"),
    ("string.regexp", "SpecialChar"),
    ("constant", "Constant"),
    ("constant.numeric", "Number"),
    ("constant.language", "Boolean"),
    ("constant.character", "Character"),
    ("constant.character.escape", "SpecialChar"),
    ("variable", "Identifier"),
    ("variable.parameter", "Identifier"),
    ("entity.name.function", "Function"),
    ("entity.name.type", "Type"),
    ("entity.name.tag", "Tag"),
    ("entity.other.attribute-name", "Label"),
    ("support.function", "Function"),
    ("support.type", "Type"),
    ("keyword", "Keyword"),
    ("keyword.control", "Statement"),
    ("keyword.operator", "Operator"),
    ("storage", "StorageClass"),
    ("storage.type", "Type"),
    ("punctuation.definition.comment", "Comment"),
    ("punctuation.definition.string", "String"),
    ("meta.preprocessor", "PreProc"),
    ("invalid", "Error"),
    ("markup.heading", "Title"),
    ("markup.underline.link", "Underlined")]⟩)]⟩

open Decoder in
def mapping {α : Type} (depth : Nat) (item : (depth : Nat) → Document → Decoder α)
    (document : Document) : Decoder (List (String × α)) := do
  let entries ← entries depth document
  return lastOfEach (← entries.mapM fun entry => do return (entry.1, ← item (depth - 1) entry.2))

def decode (depth : Nat) (document : Document) : Decoder RuleTable := do
  let rules ← mapping depth (mapping · fun _ => Decoder.text) document
  return ⟨rules.map fun (name, groups) => (name, ⟨groups⟩)⟩

end RuleTable

end Highlighting
