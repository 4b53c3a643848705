import Highlighting.Scan.Stack
import Highlighting.Text.Quoted

/-! Why a line cannot be scanned. -/
namespace Highlighting

inductive ScanFault
  | noProgress
  | tooDeep
  /-- Scans lie too deep in each other for the native stack. Nothing comes after this. -/
  | exhausted
  /-- A pattern that refers back is none once the text is put in. -/
  | badPattern (source : String)
  deriving Repr, DecidableEq, Inhabited

def ScanFault.message : ScanFault → String
  | .noProgress => "grammar made no progress"
  | .tooDeep => "rule stack exceeded " ++ toString Stack.maxDepth ++ " frames"
  | .exhausted => "stack overflow"
  | .badPattern source =>
    "invalid back-referenced pattern " ++ Quoted.encode source ++ ": <engine>"

end Highlighting
