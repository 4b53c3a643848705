import Highlighting.Json.Document
import Highlighting.Path

/-! What an extension says that it contributes. -/
namespace Highlighting

structure LanguageEntry where
  id : String
  extensions : List String
  filenames : List String
  firstLine : Option String
  deriving Repr, DecidableEq, Inhabited

structure GrammarEntry where
  language : Option String
  scopeName : String
  path : Path
  deriving Repr, DecidableEq, Inhabited

structure Manifest where
  languages : List LanguageEntry := []
  grammars : List GrammarEntry := []
  deriving Repr, DecidableEq, Inhabited

namespace Manifest

open Decoder

def list {α : Type} (depth : Nat) (decode : (depth : Nat) → Document → Decoder α)
    (document : Document) : Decoder (List α) := do
  (← items depth document).mapM (decode (depth - 1))

def language (depth : Nat) (document : Document) : Decoder LanguageEntry := do
  let fields ← fields ["id", "extensions", "filenames", "firstLine"] 1 depth document
  let texts := fun name =>
    withDefault fields name [] (list (depth - 1) fun _ => text)
  return {
    id := ← required fields "id" text
    extensions := ← texts "extensions"
    filenames := ← texts "filenames"
    firstLine := ← maybe fields "firstLine" text }

def grammar (depth : Nat) (document : Document) : Decoder GrammarEntry := do
  let fields ← fields ["language", "scopeName", "path"] 3 depth document
  return {
    language := ← maybe fields "language" text
    scopeName := ← required fields "scopeName" text
    path := ⟨← required fields "path" text⟩ }

def contributes (depth : Nat) (document : Document) : Decoder Manifest := do
  let fields ← fields ["languages", "grammars"] 0 depth document
  return {
    languages := ← withDefault fields "languages" [] (list (depth - 1) language)
    grammars := ← withDefault fields "grammars" [] (list (depth - 1) grammar) }

def decode (depth : Nat) (document : Document) : Decoder Manifest := do
  let fields ← fields ["contributes"] 0 depth document
  withDefault fields "contributes" {} (contributes (depth - 1))

def read? (text : List Char) : Option Manifest := Json.decode? decode text

end Manifest

end Highlighting
