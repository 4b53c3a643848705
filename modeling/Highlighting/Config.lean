import Highlighting.Files
import Highlighting.Rules
import Highlighting.Yaml.Reader

/-! What the user has set, and where the program's own files lie. -/
namespace Highlighting

structure Surroundings where
  home : Option Path
  /-- The folder for settings, if it is not the usual one. -/
  configHome : Option Path
  deriving Repr, DecidableEq, Inhabited

namespace Surroundings

def appName : String := "scopemark"

/-- Reads the variables that say it. An empty home is none. -/
def ofVariables (home configHome : Option String) : Surroundings :=
  ⟨(home.filter (· ≠ "")).map .mk, configHome.map .mk⟩

def configFolder (s : Surroundings) : Option Path :=
  (s.configHome <|> s.home.map (·.child ".config")).map (·.child appName)

def configFile (s : Surroundings) : Option Path := s.configFolder.map (·.child "config.yaml")

def extensionsFolder (s : Surroundings) : Option Path := s.configFolder.map (·.child "extensions")

def logsFolder (s : Surroundings) : Option Path := s.configFolder.map (·.child "logs")

def expandHome (s : Surroundings) (p : Path) : Path :=
  match p.behind? "~", s.home with
  | some rest, some home => home.join rest
  | _, _ => p

def folderMessage : Option Path → String
  | some folder => "Failed to create directory " ++ folder.text ++ ": <io>"
  | none => "No config directory available"

def ensureLogs (s : Surroundings) (files : Files) : Except String (Path × Files) :=
  match s.logsFolder with
  | none => .error (folderMessage none)
  | some folder =>
    match files.makeFolder folder with
    | some files => .ok (folder, files)
    | none => .error (folderMessage (some folder))

end Surroundings

structure Config where
  extensionsPath : List Path := []
  rules : RuleTable := {}
  deriving Repr, DecidableEq, Inhabited

namespace Config

open Decoder

def decode (depth : Nat) (document : Document) : Decoder Config := do
  let fields ← fields ["extensions_path", "rules"] 0 depth document
  return {
    extensionsPath := ← withDefault fields "extensions_path" [] fun d => do
      (← items (depth - 1) d).mapM fun item => do return ⟨← text item⟩
    rules := ← withDefault fields "rules" {} (RuleTable.decode (depth - 1)) }

def ofFile (files : Files) (path : Path) : Config :=
  ((files.text? path).bind fun text =>
    (Yaml.decode? (fun depth => optional (decode depth)) text).join).getD {}

def usual (s : Surroundings) (files : Files) : Config := s.configFile.elim {} (ofFile files)

def roots (c : Config) (s : Surroundings) : List Path :=
  if c.extensionsPath.isEmpty then s.extensionsFolder.toList
  else c.extensionsPath.map s.expandHome

def effectiveRules (c : Config) : RuleTable := if c.rules.isEmpty then .builtin else c.rules

end Config

end Highlighting
