import Highlighting.Failure
import Highlighting.Grammar.Arrangement
import Highlighting.Grammar.Compile
import Highlighting.Grammar.File
import Highlighting.Registry.Manifest
import Highlighting.Text.Lines

/-!
The languages and grammars that extensions contribute. Files are told apart by their names and first
lines; grammars are compiled when they are first asked for.
-/
namespace Highlighting

structure Language where
  id : String
  /-- In small letters, each with a dot in front. -/
  extensions : List String
  filenames : List String
  firstLine : Option Matcher

structure Registry where
  engine : Engine
  roots : List Path
  order : Arrangement := .written
  languages : List Language := []
  /-- The scope names of the grammars of languages. -/
  languageScopes : Table String String := {}
  /-- The files of grammars. -/
  sources : Table String Path := {}
  /-- Grammar files that have been read. -/
  read : Table String GrammarSource := {}
  grammars : Table String Grammar := {}
  /-- Scope names of paths that have been looked up. -/
  resolved : Table (List Path.Component) String := {}

namespace Registry

def manifestName : String := "package.json"

def firstLineLimit : Nat := 1024

def withDot (extension : String) : String :=
  let lower := Unicode.toLower extension
  if lower.toList.head? == some '.' then lower else "." ++ lower

def ofEntry (engine : Engine) (e : LanguageEntry) : Language :=
  ⟨e.id, e.extensions.map withDot, e.filenames, e.firstLine.bind engine.compile?⟩

/-- Adds what the extension in a folder contributes. Of two grammars for one scope name or for one
language the first one stays. -/
def add (r : Registry) (folder : Path) (m : Manifest) : Registry :=
  m.grammars.foldl
    (fun r e =>
      { r with
        languageScopes := e.language.elim r.languageScopes fun language =>
          r.languageScopes.putNew language e.scopeName
        sources := r.sources.putNew e.scopeName (folder.join e.path) })
    { r with languages := r.languages ++ m.languages.map (ofEntry r.engine) }

def manifest? (files : Files) (folder : Path) : Option Manifest := do
  Manifest.read? (← files.text? (folder.child manifestName))

/-- The folders of the extensions below a root: the root itself if it is one, else those folders in
it that are, by name. -/
def extensionFolders (files : Files) (root : Path) : List Path :=
  let isExtension := fun folder : Path => files.isFile (folder.child manifestName)
  if isExtension root then [root]
  else
    (((files.names root).mergeSort fun a b => !decide (b < a)).map root.child).filter isExtension

def addRoot (files : Files) (r : Registry) (root : Path) : Registry :=
  (extensionFolders files root).foldl
    (fun r folder => (manifest? files folder).elim r (r.add folder)) r

def new (engine : Engine) (files : Files) (roots : List Path)
    (order : Arrangement := .written) : Registry :=
  roots.foldl (addRoot files) { engine := engine, roots := roots, order := order }

def hasGrammar (r : Registry) (scopeName : String) : Bool := r.sources.contains scopeName

def isLoaded (r : Registry) (scopeName : String) : Bool := r.grammars.contains scopeName

def scopeOf (r : Registry) (language : Language) : Option String :=
  r.languageScopes.get? language.id

/-- Extensions with the scope names of their languages, of languages that have a grammar. -/
def extensions (r : Registry) : List (String × String) :=
  r.languages.flatMap fun language =>
    match r.scopeOf language with
    | some scope => language.extensions.map (·, scope)
    | none => []

/-- The longer of two extensions, and the first of equally long ones. -/
def longer (best : Option (String × String)) (e : String × String) : Option (String × String) :=
  match best with
  | none => some e
  | some b => if b.1.utf8ByteSize < e.1.utf8ByteSize then some e else best

def scopeOfName? (r : Registry) (name : String) : Option String :=
  match (r.languages.filter fun l => l.filenames.contains name).findSome? r.scopeOf with
  | some scope => some scope
  | none =>
    let lower := Unicode.toLower name
    let best := (r.extensions.filter fun e => endsIn lower e.1).foldl longer none
    best.map (·.2)

def scopeOfFirstLine? (r : Registry) (files : Files) (path : Path) : Option String := do
  let line ← Lines.first? firstLineLimit (← files.content? path)
  (r.languages.filter fun l =>
    l.firstLine.any fun m => (m.search line.toArray 0).isSome).findSome? r.scopeOf

/-- The scope name of the grammar for a file. What has been found is kept. -/
def scopeName (r : Registry) (files : Files) (path : Path) :
    Except Failure String × Registry :=
  match r.resolved.get? path.components with
  | some scope => (.ok scope, r)
  | none =>
    match path.fileName?.bind r.scopeOfName? <|> r.scopeOfFirstLine? files path with
    | some scope => (.ok scope, { r with resolved := r.resolved.put path.components scope })
    | none => (.error (.grammarNotFound path), r)

def sourceOf (r : Registry) (files : Files) (scopeName : String) :
    Except GrammarFault GrammarSource :=
  match r.read.get? scopeName with
  | some source => .ok source
  | none =>
    match r.sources.get? scopeName with
    | some path => (GrammarSource.ofFile files path).map (r.order.arrange scopeName)
    | none => .error .unknown

/-- All grammar files that can be read. -/
def library (r : Registry) (files : Files) : Library :=
  r.sources.entries.filterMap fun entry =>
    match r.sourceOf files entry.1 with
    | .ok source => some (entry.1, source)
    | .error _ => none

def keep (library : Library) (names : List String) (read : Table String GrammarSource) :
    Table String GrammarSource :=
  names.foldl (fun read name => (library.lookup name).elim read (read.put name)) read

/-- The grammar of a scope name, compiled when it is first asked for. Files that were read stay
read. -/
def load (r : Registry) (files : Files) (scopeName : String) :
    Except Failure Grammar × Registry :=
  match r.grammars.get? scopeName with
  | some grammar => (.ok grammar, r)
  | none =>
    match r.sourceOf files scopeName with
    | .error fault => (.error (.grammarLoad scopeName fault), r)
    | .ok source =>
      let library := r.library files
      let (result, asked) := Grammar.compile r.engine library scopeName
      let r := { r with read := keep library (scopeName :: asked) r.read }
      match result with
      | .ok grammar => (.ok grammar, { r with grammars := r.grammars.put scopeName grammar })
      | .error fault => (.error (.grammarLoad source.scopeName fault), r)

end Registry

end Highlighting
