import Highlighting.Path
import Highlighting.Text.Utf8

/-! The files that a program sees: a tree of folders, and the folder that it works in. -/
namespace Highlighting

inductive Entry
  | file (content : List UInt8)
  | folder (entries : List (String × Entry))
  deriving Repr, Inhabited

/-- An entry of a tree, and the folders that hold it, innermost first. -/
structure Place where
  entry : Entry
  holders : List Entry := []
  deriving Inhabited

namespace Place

/-- Goes one part of a path further. Nothing lies above the outermost folder but itself. -/
def step (place : Place) (part : String) : Option Place :=
  match place.entry with
  | .file _ => none
  | .folder entries =>
    if Path.isIdle part then some place
    else if part = ".." then
      match place.holders with
      | [] => some place
      | holder :: rest => some ⟨holder, rest⟩
    else (entries.lookup part).map fun entry => ⟨entry, place.entry :: place.holders⟩

end Place

structure Files where
  /-- What the outermost folder holds. -/
  entries : List (String × Entry)
  /-- The way from there to the working folder. -/
  workingFolder : List String
  deriving Repr, Inhabited

namespace Files

def below (names : List String) : Files :=
  ⟨names.foldr (fun name entries => [(name, .folder entries)]) [], names⟩

def empty : Files := below ["work"]

def place? (files : Files) (p : Path) : Option Place :=
  if p.text = "" then none
  else
    (if p.isRooted then p.parts else files.workingFolder ++ p.parts).foldlM Place.step
      ⟨.folder files.entries, []⟩

def exists? (files : Files) (p : Path) : Bool := (files.place? p).isSome

def content? (files : Files) (p : Path) : Option (List UInt8) :=
  match files.place? p with
  | some ⟨.file content, _⟩ => some content
  | _ => none

def isFile (files : Files) (p : Path) : Bool := (files.content? p).isSome

def isFolder (files : Files) (p : Path) : Bool :=
  match files.place? p with
  | some ⟨.folder _, _⟩ => true
  | _ => false

def text? (files : Files) (p : Path) : Option (List Char) := do
  Utf8.decode (← files.content? p)

def names (files : Files) (p : Path) : List String :=
  match files.place? p with
  | some ⟨.folder entries, _⟩ => entries.map (·.1)
  | _ => []

/-- The names on the way from the outermost folder to what a path means, without detours. -/
def route (files : Files) (p : Path) : List String :=
  p.parts.foldl (fun done part =>
    if Path.isIdle part then done
    else if part = ".." then done.dropLast
    else done ++ [part]) (if p.isRooted then [] else files.workingFolder)

def putEntry (name : String) (entry : Entry) : List (String × Entry) → List (String × Entry)
  | [] => [(name, entry)]
  | (n, e) :: rest => if n = name then (n, entry) :: rest else (n, e) :: putEntry name entry rest

/-- Changes what a route leads to, making the folders on the way; none if a file is in the way. -/
def change? (use : Option Entry → Option Entry) (entries : List (String × Entry)) :
    List String → Option (List (String × Entry))
  | [] => some entries
  | [name] => do return putEntry name (← use (entries.lookup name)) entries
  | name :: next :: route =>
    match entries.lookup name with
    | some (.file _) => none
    | some (.folder inner) => do
      return putEntry name (.folder (← change? use inner (next :: route))) entries
    | none => do return putEntry name (.folder (← change? use [] (next :: route))) entries

def write (files : Files) (p : Path) (content : List UInt8) : Option Files := do
  let entries ← change? (fun old =>
    match old with
    | some (.folder _) => none
    | _ => some (.file content)) files.entries (files.route p)
  return { files with entries := entries }

def makeFolder (files : Files) (p : Path) : Option Files :=
  if files.isFolder p then some files
  else do
    let entries ← change? (fun old =>
      match old with
      | some (.file _) => none
      | some entry => some entry
      | none => some (.folder [])) files.entries (files.route p)
    return { files with entries := entries }

def removeAt (entries : List (String × Entry)) : List String → List (String × Entry)
  | [] => entries
  | [name] => entries.filter (·.1 ≠ name)
  | name :: next :: route =>
    match entries.lookup name with
    | some (.folder inner) => putEntry name (.folder (removeAt inner (next :: route))) entries
    | _ => entries

def put (files : Files) (p : Path) (entry : Entry) : Files :=
  { files with
    entries := (change? (fun _ => some entry) files.entries (files.route p)).getD files.entries }

def remove (files : Files) (p : Path) : Files :=
  { files with entries := removeAt files.entries (files.route p) }

end Files

end Highlighting
