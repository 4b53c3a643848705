import Highlighting.Grammar.Fault
import Highlighting.Scan.Fault

/-! What can go wrong on the way from a file to its highlights, and what is said of it. -/
namespace Highlighting

inductive Report
  | grammarNotFound (path : Path)
  | grammarLoad (scopeName reason : String)
  | tokenize (line : Nat) (reason : String)
  | highlightApply (reason : String)
  deriving Repr, DecidableEq, Inhabited

namespace Report

def message : Report → String
  | .grammarNotFound path => "no grammar found for " ++ path.text
  | .grammarLoad scopeName reason => "failed to load grammar " ++ scopeName ++ ": " ++ reason
  | .tokenize line reason => "tokenize error at line " ++ toString line ++ ": " ++ reason
  | .highlightApply reason => "failed to apply highlight: " ++ reason

/-- Whether it only means that there is nothing to do. -/
def isSkip : Report → Bool
  | .grammarNotFound _ => true
  | _ => false

end Report

inductive Failure
  /-- The file is in no known language. -/
  | grammarNotFound (path : Path)
  | grammarLoad (scopeName : String) (fault : GrammarFault)
  | tokenize (line : Nat) (fault : ScanFault)
  /-- The editor refused a call. -/
  | highlightApply (reason : String)
  deriving Repr, DecidableEq, Inhabited

namespace Failure

def report : Failure → Report
  | .grammarNotFound path => .grammarNotFound path
  | .grammarLoad scopeName fault => .grammarLoad scopeName fault.message
  | .tokenize line fault => .tokenize line fault.message
  | .highlightApply reason => .highlightApply reason

def message (f : Failure) : String := f.report.message

def isSkip (f : Failure) : Bool := f.report.isSkip

/-- Whether the native stack was used up, so that the program is gone. -/
def isAbort : Failure → Bool
  | .tokenize _ .exhausted => true
  | _ => false

end Failure

end Highlighting
