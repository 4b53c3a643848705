/-!
Trees of data as configuration files write them, apart from the format they were written in, and
decoders that read values from them.
-/
namespace Highlighting

structure Scalar where
  text : Option String
  /-- Whether the scalar says that an optional value is there; none if it cannot stand for one. -/
  present : Option Bool
  /-- Whether the scalar can stand for a collection with nothing in it. -/
  isEmpty : Bool
  flag : Option Bool
  deriving Repr, DecidableEq, Inhabited

inductive Document
  | scalar (s : Scalar)
  | sequence (items : List Document)
  | mapping (entries : List (Document × Document))
  /-- The document that has this anchor. -/
  | alias (anchor : Nat)
  deriving Repr, Inhabited

structure DecodeContext where
  /-- Whether a record may be written as the sequence of its fields. -/
  positional : Bool
  anchors : List (Nat × Document)
  deriving Inhabited

/-- Reads a value. The state counts how many aliases may still be followed. -/
abbrev Decoder := ReaderT DecodeContext (StateT Nat Option)

namespace Decoder

/-- Follows an alias, which costs one of those allowed. -/
def resolve : Document → Decoder Document
  | .alias anchor => do
    match ← get with
    | 0 => failure
    | left + 1 =>
      set left
      match (← read).anchors.lookup anchor with
      | some document => return document
      | none => failure
  | document => return document

def text (document : Document) : Decoder String := do
  match ← resolve document with
  | .scalar s => s.text.elim failure pure
  | _ => failure

def flag (document : Document) : Decoder Bool := do
  match ← resolve document with
  | .scalar s => s.flag.elim failure pure
  | _ => failure

def optional {α : Type} (decode : Document → Decoder α) (document : Document) :
    Decoder (Option α) := do
  match ← resolve document with
  | .scalar s =>
    match s.present with
    | some true => some <$> decode (.scalar s)
    | some false => return none
    | none => failure
  | document => some <$> decode document

def items (depth : Nat) (document : Document) : Decoder (List Document) := do
  match ← resolve document with
  | .sequence items => if depth = 0 then failure else return items
  | .scalar s => if s.isEmpty then return [] else failure
  | _ => failure

def entries (depth : Nat) (document : Document) : Decoder (List (String × Document)) := do
  match ← resolve document with
  | .mapping entries =>
    if depth = 0 then failure
    else entries.mapM fun entry => do return (← text entry.1, entry.2)
  | .scalar s => if s.isEmpty then return [] else failure
  | _ => failure

def lastOfEach {α : Type} (entries : List (String × α)) : List (String × α) :=
  entries.foldl (fun done entry => done.filter (·.1 ≠ entry.1) ++ [entry]) []

/-- The fields of a record that are given. Names that are not among `names` are passed over; a name
that is must not be repeated. Written as a sequence, a record has at least `least` fields. -/
def fields (names : List String) (least depth : Nat) (document : Document) :
    Decoder (List (String × Document)) := do
  match ← resolve document with
  | .mapping entries =>
    if depth = 0 then failure
    else
      entries.foldlM (fun done (key, value) => do
        let key ← text key
        if !names.contains key then return done
        else if (done.lookup key).isSome then failure
        else return done ++ [(key, value)]) []
  | .sequence items =>
    if depth = 0 || !(← read).positional then failure
    else if items.length < least || names.length < items.length then failure
    else return names.zip items
  | .scalar s => if s.isEmpty then return [] else failure
  | .alias _ => failure

def required {α : Type} (fields : List (String × Document)) (name : String)
    (decode : Document → Decoder α) : Decoder α :=
  (fields.lookup name).elim failure decode

def withDefault {α : Type} (fields : List (String × Document)) (name : String) (missing : α)
    (decode : Document → Decoder α) : Decoder α :=
  (fields.lookup name).elim (pure missing) decode

def maybe {α : Type} (fields : List (String × Document)) (name : String)
    (decode : Document → Decoder α) : Decoder (Option α) :=
  withDefault fields name none (optional decode)

end Decoder

end Highlighting
