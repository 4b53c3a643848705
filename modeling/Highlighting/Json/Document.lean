import Highlighting.Document
import Highlighting.Json.Reader

/-! JSON as a source of documents. -/
namespace Highlighting.Json

def depthLimit : Nat := 127

def scalarOf : Json → Scalar
  | .null => ⟨none, some false, false, none⟩
  | .bool b => ⟨none, some true, false, some b⟩
  | .number (.natural n) =>
    ⟨none, some true, false, if n < Nat.pow 2 63 then some (n ≠ 0) else none⟩
  | .number (.negative n) => ⟨none, some true, false, some (n ≠ 0)⟩
  | .string s => ⟨some s, some true, false, none⟩
  | _ => ⟨none, some true, false, none⟩

mutual

def toDocument : Json → Document
  | .array items => .sequence (itemDocuments items)
  | .object entries => .mapping (entryDocuments entries)
  | json => .scalar json.scalarOf

def itemDocuments : List Json → List Document
  | [] => []
  | item :: rest => item.toDocument :: itemDocuments rest

def entryDocuments : List (String × Json) → List (Document × Document)
  | [] => []
  | (key, value) :: rest =>
    (.scalar (Json.string key).scalarOf, value.toDocument) :: entryDocuments rest

end

def decode? {α : Type} (decode : (depth : Nat) → Document → Decoder α) (text : List Char) :
    Option α := do
  let json ← read? text
  let (value, _) ← ((decode depthLimit json.toDocument).run ⟨true, []⟩).run 0
  return value

end Highlighting.Json
