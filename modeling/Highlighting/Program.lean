import Highlighting.CommandLine
import Highlighting.Pattern.Match
import Highlighting.Transport

/-! What the program does with its words, its files and its input. -/
namespace Highlighting

structure Run where
  exitCode : Nat
  output : List String
  /-- What is written of the failure that ended the run. -/
  error : Option String := none
  deriving Repr, DecidableEq, Inhabited

namespace Run

def versionText : String := "scopemark 0.1.0"

def usageText : String := "Usage: scopemark [OPTIONS] [COMMAND]"

def helpText : List String :=
  ["Incremental TextMate highlighting for editors",
    "",
    usageText,
    "",
    "Commands:",
    "  serve  Serve host requests as JSON lines on stdin/stdout (default)",
    "  dump   Tokenize a file and print every token with its scopes",
    "  help   Print this message or the help of the given subcommand(s)",
    "",
    "Options:",
    "      --config <FILE>     Config file (default: ~/.config/scopemark/config.yaml)",
    "      --extensions <DIR>  Extension root; repeat to search several, in order",
    "  -h, --help              Print help",
    "  -V, --version           Print version"]

def failing (output : List String) (message : String) : Run :=
  ⟨1, output, some ("Error: " ++ message)⟩

/-- A run that has used up the native stack. -/
def aborted (output : List String) : Run := ⟨134, output, some ScanFault.exhausted.message⟩

/-- The lines of a text; a text without any has one that is empty. -/
def linesOf (text : List Char) : List String :=
  match Lines.ofChars text with
  | [] => [""]
  | lines => lines.map String.ofList

def dump (files : Files) (roots : List Path) (file : Path) : Run :=
  match files.text? file with
  | none => failing [] ("failed to read " ++ file.text)
  | some text =>
    let tokenizer : Tokenizer := { registry := .new Pattern.engine files roots }
    let (named, tokenizer) := tokenizer.scopeName files file
    let listed := do
      let scopeName ← named
      let tokens ← (tokenizer.tokenize files scopeName (linesOf text)).1
      return Token.listing scopeName tokens
    match listed with
    | .ok lines => ⟨0, lines, none⟩
    | .error failure => if failure.isAbort then aborted [] else failing [] failure.message

def serve (h : Highlighter) (files : Files) (input : List UInt8) : Run :=
  let (fault, service) := Service.serve h files none input
  match fault with
  | none => ⟨0, service.output, none⟩
  | some .aborted => aborted service.output
  | some fault => failing service.output fault.message

def ofWords (words : List String) (s : Surroundings) (files : Files) (input : List UInt8) : Run :=
  match CommandLine.read words with
  | .error .displayHelp => ⟨0, helpText, none⟩
  | .error .displayVersion => ⟨0, [versionText], none⟩
  | .error _ => ⟨2, [], some usageText⟩
  | .ok line =>
    let config := line.settings s files
    match line.command.getD .serve with
    | .serve => serve (.ofConfig Pattern.engine s files config) files input
    | .dump file => dump files (config.roots s) file

end Run

end Highlighting
