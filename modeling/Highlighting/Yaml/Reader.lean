import Highlighting.Yaml.Lexer
import Highlighting.Yaml.Plain

/-!
From the tokens of a YAML text to the one document in it. Anchors are numbered when they are
reached, and an alias stands for whatever has its number last.
-/
namespace Highlighting.Yaml

structure Reading where
  tokens : List Token
  /-- Short forms of tags and what they stand for. -/
  handles : List (List Char × List Char) := []
  /-- Numbers of anchors by name. -/
  names : List (List Char × Nat) := []
  /-- What anchors stand for, in the order in which they are reached. -/
  anchored : Array (Nat × Document) := #[]
  /-- How many marks and scalars the document has. -/
  events : Nat := 0
  deriving Inhabited

abbrev ReadM := StateT Reading Option

namespace Reading

def peek : ReadM Token := do return (← get).tokens.head?.getD .streamEnd

def drop : ReadM Unit := modify fun r => { r with tokens := r.tokens.tail }

def count (events : Nat) : ReadM Unit := modify fun r => { r with events := r.events + events }

structure Properties where
  anchor : Option (List Char) := none
  tag : Option (List Char × List Char) := none

def properties : ReadM Properties := do
  match ← peek with
  | .anchor name =>
    drop
    match ← peek with
    | .tag handle suffix =>
      drop
      return ⟨some name, some (handle, suffix)⟩
    | _ => return ⟨some name, none⟩
  | .tag handle suffix =>
    drop
    match ← peek with
    | .anchor name =>
      drop
      return ⟨some name, some (handle, suffix)⟩
    | _ => return ⟨none, some (handle, suffix)⟩
  | _ => return {}

def tagText (tag : Option (List Char × List Char)) : ReadM (Option String) := do
  match tag with
  | none => return none
  | some (handle, suffix) =>
    if handle.isEmpty then return some (String.ofList suffix)
    else
      match (← get).handles.lookup handle with
      | some beginning => return some (String.ofList (beginning ++ suffix))
      | none => failure

/-- Numbers an anchor and gives the place for what it stands for. -/
def reach (anchor : Option (List Char)) : ReadM (Option Nat) := do
  match anchor with
  | none => return none
  | some name =>
    let r ← get
    let id := r.names.length
    set { r with
      names := (name, id) :: r.names.filter (·.1 ≠ name)
      anchored := r.anchored.push (id, .sequence []) }
    return some r.anchored.size

def settle (place : Option Nat) (document : Document) : ReadM Unit :=
  modify fun r =>
    { r with
      anchored := place.elim r.anchored fun i =>
        r.anchored.modify i fun entry => (entry.1, document) }

def scalar (p : Properties) (plain : Bool) (text : List Char) : ReadM Document := do
  let tag ← tagText p.tag
  let place ← reach p.anchor
  count 1
  let document := Document.scalar (scalarOf tag plain (String.ofList text))
  settle place document
  return document

def nothing : ReadM Document := scalar {} true []

def aliasOf (name : List Char) : ReadM Document := do
  match (← get).names.lookup name with
  | some id =>
    count 1
    return .alias id
  | none => failure

def container (p : Properties) (body : ReadM Document) : ReadM Document := do
  let _ ← tagText p.tag
  let place ← reach p.anchor
  count 2
  let document ← body
  settle place document
  return document

/-- Whether a node may begin with `token` where one of `ends` says that there is none. -/
def orNothing (ends : List Token) (node : ReadM Document) : ReadM Document := do
  if ends.contains (← peek) then nothing else node

/-- The entries of a block sequence, with or without a token that ends it. -/
def blockItems (node : ReadM Document) (closed : Bool) : (fuel : Nat) → ReadM (List Document)
  | 0 => failure
  | fuel + 1 => do
    match ← peek with
    | .blockEntry =>
      drop
      let ends : List Token := if closed then [.blockEntry, .blockEnd]
        else [.blockEntry, .key, .value, .blockEnd]
      let item ← orNothing ends node
      return item :: (← blockItems node closed fuel)
    | token =>
      if !closed then return []
      else if token = .blockEnd then
        drop
        return []
      else failure

/-- The entries of a block mapping; nodes in it may be sequences that are not indented. -/
def blockEntries (node : ReadM Document) :
    (fuel : Nat) → ReadM (List (Document × Document))
  | 0 => failure
  | fuel + 1 => do
    match ← peek with
    | .key =>
      drop
      let ends : List Token := [.key, .value, .blockEnd]
      let key ← orNothing ends node
      let value ←
        if (← peek) = .value then
          drop
          orNothing ends node
        else nothing
      return (key, value) :: (← blockEntries node fuel)
    | .blockEnd =>
      drop
      return []
    | _ => failure

def flowValue (node : ReadM Document) (ends : List Token) : ReadM Document := do
  if (← peek) = .value then
    drop
    orNothing ends node
  else nothing

/-- A mapping of one entry that stands in a sequence, after the mark of its key. -/
def flowPair (node : ReadM Document) : ReadM Document :=
  container {} do
    let key ←
      if [Token.value, .flowEntry, .flowSequenceEnd].contains (← peek) then
        drop
        nothing
      else node
    let value ← flowValue node [.flowEntry, .flowSequenceEnd]
    return .mapping [(key, value)]

def separate (first : Bool) : ReadM Unit := do
  if !first then
    if (← peek) = .flowEntry then drop else failure

def flowItems (node : ReadM Document) : (fuel : Nat) → (first : Bool) → ReadM (List Document)
  | 0, _ => failure
  | fuel + 1, first => do
    if (← peek) = .flowSequenceEnd then
      drop
      return []
    separate first
    match ← peek with
    | .flowSequenceEnd =>
      drop
      return []
    | .key =>
      drop
      let item ← flowPair node
      return item :: (← flowItems node fuel false)
    | _ =>
      let item ← node
      return item :: (← flowItems node fuel false)

def flowEntries (node : ReadM Document) :
    (fuel : Nat) → (first : Bool) → ReadM (List (Document × Document))
  | 0, _ => failure
  | fuel + 1, first => do
    if (← peek) = .flowMappingEnd then
      drop
      return []
    separate first
    match ← peek with
    | .flowMappingEnd =>
      drop
      return []
    | .key =>
      drop
      let key ← orNothing [.value, .flowEntry, .flowMappingEnd] node
      let value ← flowValue node [.flowEntry, .flowMappingEnd]
      return (key, value) :: (← flowEntries node fuel false)
    | _ =>
      let key ← node
      let value ← nothing
      return (key, value) :: (← flowEntries node fuel false)

inductive Site
  | flow
  | block
  /-- In a block mapping, where a sequence need not be indented. -/
  | mappingBlock
  deriving Repr, DecidableEq

def node : (fuel : Nat) → Site → ReadM Document
  | 0, _ => failure
  | fuel + 1, site => do
    match ← peek with
    | .alias name =>
      drop
      aliasOf name
    | _ =>
      let p ← properties
      let size := (← get).tokens.length + 1
      match ← peek with
      | .scalar plain text =>
        drop
        scalar p plain text
      | .flowSequence =>
        drop
        container p do return .sequence (← flowItems (node fuel .flow) size true)
      | .flowMapping =>
        drop
        container p do return .mapping (← flowEntries (node fuel .flow) size true)
      | token =>
        if token = .blockEntry && site = .mappingBlock then
          container p do return .sequence (← blockItems (node fuel .block) false size)
        else if token = .blockSequence && site ≠ .flow then
          drop
          container p do return .sequence (← blockItems (node fuel .block) true size)
        else if token = .blockMapping && site ≠ .flow then
          drop
          container p do return .mapping (← blockEntries (node fuel .mappingBlock) size)
        else if p.anchor.isSome || p.tag.isSome then scalar p true []
        else failure

def directives : (fuel : Nat) → (version : Bool) → ReadM Unit
  | 0, _ => failure
  | fuel + 1, version => do
    match ← peek with
    | .version known =>
      if version || !known then failure
      drop
      directives fuel true
    | .tagHandle handle beginning =>
      drop
      let r ← get
      if (r.handles.lookup handle).isSome then failure
      set { r with handles := (handle, beginning) :: r.handles }
      directives fuel version
    | _ => return ()

/-- Short forms of tags that need no statement. -/
def defaultHandles : List (List Char × List Char) :=
  [(['!'], ['!']), (['!', '!'], (coreTag "").toList)]

def addDefaults : ReadM Unit :=
  modify fun r =>
    { r with handles := r.handles ++ defaultHandles }

def isExplicit : Token → Bool
  | .version _ | .tagHandle .. | .documentStart => true
  | _ => false

def only : ReadM Document := do
  let size := (← get).tokens.length + 1
  if (← peek) = .streamEnd then return .scalar void
  let explicit := isExplicit (← peek)
  directives size false
  addDefaults
  let document ←
    if explicit then
      if (← peek) ≠ .documentStart then failure
      drop
      match ← peek with
      | .version _ | .tagHandle .. | .documentStart | .documentEnd | .streamEnd => nothing
      | _ => node size .block
    else node size .block
  modify fun r => { r with tokens := r.tokens.dropWhile (· = .documentEnd) }
  if (← peek) ≠ .streamEnd then failure
  return document

end Reading

def depthLimit : Nat := 128

/-- Reads a value from a text that holds one document. Aliases may be followed a hundred times as
often as there are marks and scalars. -/
def decode? {α : Type} (decode : (depth : Nat) → Document → Decoder α) (text : List Char) :
    Option α := do
  let tokens ← tokens? text
  let (document, r) ← Reading.only.run { tokens := tokens }
  let anchors := r.anchored.toList.reverse
  let (value, _) ← ((decode depthLimit document).run ⟨false, anchors⟩).run (100 * r.events)
  return value

end Highlighting.Yaml
