import Highlighting.Program

/-!
The command line. What a run needs of the disk is read before the run looks at it, and what the run
writes is written out; a served editor gets its answers line by line.
-/
namespace Highlighting.Main

/-- Reads an entry of the disk. Folders are read `depth` deep, and what cannot be read is not
there. -/
def read : (depth : Nat) → String → IO (Option Entry)
  | depth, path => do
    try
      let place ← IO.FS.realPath path
      if ← place.isDir then
        match depth with
        | 0 => return some (.folder [])
        | depth + 1 =>
          let entries ← (← place.readDir).toList.filterMapM fun e => do
            return (← read depth e.path.toString).map (e.fileName, ·)
          return some (.folder entries)
      else return some (.file (← IO.FS.readBinFile path).toList)
    catch _ => return none

def look (depth : Nat) (files : Files) (path : Path) : IO Files := do
  match ← read depth path.text with
  | some entry => return files.put path entry
  | none => return files.remove path

def lookAll (depth : Nat) (files : Files) (paths : List Path) : IO Files :=
  paths.foldlM (look depth) files

def workingFolder : IO Files := do
  let path : Path := ⟨(← IO.currentDir).toString⟩
  return .below (path.parts.filter fun part => !Path.isIdle part)

def gather (line : CommandLine) (s : Surroundings) : IO Files := do
  let files ← lookAll 0 (← workingFolder) (line.config <|> s.configFile).toList
  let files ← lookAll 2 files ((line.settings s files).roots s)
  let registry := Registry.new Pattern.engine files ((line.settings s files).roots s)
  lookAll 0 files (registry.sources.entries.map (·.2))

def emit (run : Run) : IO UInt32 := do
  for line in run.output do IO.println line
  for text in run.error do IO.eprintln text
  return run.exitCode.toUInt32

def nextLine (input : IO.FS.Stream) : IO (Option (List Char)) := do
  let text ← input.getLine
  return if text.isEmpty then none else (Lines.ofChars text.toList).head?

/-- Serves requests until the input ends. -/
partial def serve (files : Files) (s : Service) : IO UInt32 := do
  match ← (nextLine (← IO.getStdin)).toBaseIO with
  | .error _ => emit (.failing [] ServeFault.notText.message)
  | .ok none => return 0
  | .ok (some line) =>
    let files ← lookAll 0 files ((Incoming.read? line).bind Incoming.path?).toList
    let (fault, s) := s.serveLine files none line
    let _ ← emit ⟨0, s.output, none⟩
    (← IO.getStdout).flush
    if fault = some .aborted then emit (.aborted []) else serve files { s with output := [] }

def run (words : List String) : IO UInt32 := do
  let s := Surroundings.ofVariables (← IO.getEnv "HOME") (← IO.getEnv "XDG_CONFIG_HOME")
  match CommandLine.read words with
  | .error _ => emit (.ofWords words s .empty [])
  | .ok line =>
    let files ← gather line s
    match line.command.getD .serve with
    | .serve =>
      serve files ⟨.ofConfig Pattern.engine s files (line.settings s files), []⟩
    | .dump file => emit (.ofWords words s (← look 0 files file) [])

end Highlighting.Main

def main (words : List String) : IO UInt32 := do
  try Highlighting.Main.run words
  catch fault =>
    IO.eprintln ("Error: " ++ toString fault)
    return 1
