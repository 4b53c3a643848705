import Highlighting.Config

/-!
The words of a command line. Options may stand before or behind a command's name; those behind it
count in place of those before it.
-/
namespace Highlighting

inductive Command
  | serve
  | dump (file : Path)
  deriving Repr, DecidableEq, Inhabited

structure CommandLine where
  config : Option Path := none
  extensions : List Path := []
  command : Option Command := none
  deriving Repr, DecidableEq, Inhabited

inductive CommandLineFault
  /-- Help is asked for. -/
  | displayHelp
  /-- The version is asked for. -/
  | displayVersion
  | unknownArgument
  | invalidSubcommand
  /-- A value is missing or empty. -/
  | invalidValue
  /-- An option that counts once is given twice. -/
  | argumentConflict
  | missingRequiredArgument
  /-- A value is given to what takes none. -/
  | tooManyValues
  deriving Repr, DecidableEq, Inhabited

namespace CommandLine

inductive Flag
  | config
  | extensions
  deriving Repr, DecidableEq, Inhabited

/-- What has been read on one level: before a command's name or behind it. -/
structure Level where
  config : Option String := none
  extensions : List String := []
  /-- What the command works on. -/
  files : List String := []
  /-- An option of which the value is not settled, and the value if there is one. -/
  pending : Option (Flag × Option String) := none
  deriving Repr, Inhabited

namespace Level

def put (l : Level) (flag : Flag) (value : String) : Except CommandLineFault Level :=
  match flag with
  | .config =>
    if l.config.isSome then .error .argumentConflict
    else if value = "" then .error .invalidValue
    else .ok { l with config := some value }
  | .extensions =>
    if value = "" then .error .invalidValue
    else .ok { l with extensions := l.extensions ++ [value] }

def settle (l : Level) : Except CommandLineFault Level :=
  match l.pending with
  | none => .ok l
  | some (_, none) => .error .invalidValue
  | some (flag, some value) => put { l with pending := none } flag value

def wantsValue (l : Level) : Bool := l.pending.any fun p => p.2.isNone

def take (l : Level) (value : String) : Level :=
  { l with pending := l.pending.map fun p => (p.1, some value) }

end Level

def flag? (name : String) : Option Flag :=
  if name = "config" then some .config
  else if name = "extensions" then some .extensions
  else none

def splitLong (name : List Char) : String × Option String :=
  match name.span (· ≠ '=') with
  | (name, _ :: value) => (String.ofList name, some (String.ofList value))
  | (name, []) => (String.ofList name, none)

def show? (root : Bool) (name : String) : Option CommandLineFault :=
  if name = "help" then some .displayHelp
  else if root && name = "version" then some .displayVersion
  else none

def long (root : Bool) (l : Level) (word : List Char) : Except CommandLineFault Level := do
  let (name, value) := splitLong word
  match show? root name, flag? name with
  | some fault, _ =>
    if value.isSome then throw .tooManyValues
    let _ ← l.settle
    throw fault
  | none, some flag =>
    let l ← l.settle
    match value with
    | some value => l.put flag value
    | none => return { l with pending := some (flag, none) }
  | none, none => throw .unknownArgument

def short (root : Bool) (l : Level) (letter : Char) : Except CommandLineFault Level := do
  let name := if letter = 'h' then "help" else if letter = 'V' then "version" else ""
  match show? root name with
  | some fault =>
    let _ ← l.settle
    throw fault
  | none => throw .unknownArgument

/-- The words that name something to get help on. -/
def helpWords : List String := ["serve", "dump", "help"]

def helpFault : List String → CommandLineFault
  | [] => .displayHelp
  | "help" :: rest => helpFault rest
  | [word] => if helpWords.contains word then .displayHelp else .invalidSubcommand
  | _ => .invalidSubcommand

/-- Reads the words behind a command's name; `room` is how many files it works on. -/
def behind (room : Nat) (trailing : Bool) (l : Level) :
    List String → Except CommandLineFault Level
  | [] => do
    let l ← l.settle
    if l.files.any (· = "") then throw .invalidValue
    if l.files.length < room then throw .missingRequiredArgument
    return l
  | word :: rest => do
    match trailing, word.toList with
    | false, ['-', '-'] => behind room true l rest
    | false, '-' :: '-' :: name => behind room false (← long false l name) rest
    | false, '-' :: letter :: _ => behind room false (← short false l letter) rest
    | _, _ =>
      if !trailing && l.wantsValue then behind room trailing (l.take word) rest
      else if l.files.length < room then
        let l ← l.settle
        behind room trailing { l with files := l.files ++ [word] } rest
      else throw .unknownArgument

def join (outer inner : Level) (command : Option Command) : CommandLine where
  config := (inner.config <|> outer.config).map .mk
  extensions := (if inner.extensions.isEmpty then outer.extensions else inner.extensions).map .mk
  command := command

def before (trailing : Bool) (l : Level) : List String → Except CommandLineFault CommandLine
  | [] => do return join (← l.settle) {} none
  | word :: rest => do
    match trailing, word.toList with
    | false, ['-', '-'] => before true l rest
    | false, '-' :: '-' :: name => before false (← long true l name) rest
    | false, '-' :: letter :: _ => before false (← short true l letter) rest
    | _, _ =>
      if !trailing && l.wantsValue then before trailing (l.take word) rest
      else if trailing then
        throw (if helpWords.contains word then .unknownArgument else .invalidSubcommand)
      else if word = "serve" then
        let inner ← behind 0 false {} rest
        return join (← l.settle) inner (some .serve)
      else if word = "dump" then
        let inner ← behind 1 false {} rest
        return join (← l.settle) inner (some (.dump ⟨inner.files.headD ""⟩))
      else if word = "help" then throw (helpFault rest)
      else throw .invalidSubcommand

def read (words : List String) : Except CommandLineFault CommandLine := before false {} words

/-- The settings in the file that is named, or in the usual one, with the roots that are named. -/
def settings (c : CommandLine) (s : Surroundings) (files : Files) : Config :=
  let config := c.config.elim (.usual s files) (.ofFile files)
  if c.extensions.isEmpty then config else { config with extensionsPath := c.extensions }

end CommandLine

end Highlighting
