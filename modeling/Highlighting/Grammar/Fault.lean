import Highlighting.Path
import Highlighting.Text.Quoted

/-! Why a grammar cannot be used. -/
namespace Highlighting

inductive GrammarFault
  /-- No extension has a grammar of this name. -/
  | unknown
  | unreadable (path : Path)
  | malformed (path : Path)
  /-- The file's name does not tell its format. -/
  | unsupported (path : Path)
  | badPattern (source : String)
  | captureTooLarge (group : Nat)
  deriving Repr, DecidableEq, Inhabited

/-- What is said of the fault. The words of those that read files and patterns are left out, and a
word between angle brackets stands for them. -/
def GrammarFault.message : GrammarFault → String
  | .unknown => "no extension contributes this scope"
  | .unreadable path => "cannot read " ++ path.text ++ ": <io>"
  | .malformed path => path.text ++ ": <parse>"
  | .unsupported path => "unsupported grammar format: " ++ path.text
  | .badPattern source => "invalid regex " ++ Quoted.encode source ++ ": <engine>"
  | .captureTooLarge group => "capture index " ++ toString group ++ " out of range"

end Highlighting
