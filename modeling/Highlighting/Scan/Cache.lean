import Highlighting.Scan.Fault
import Highlighting.Table

/-! What scans keep from one line to the next besides the stack: the patterns they have read. -/
namespace Highlighting

/-- Patterns that were read during scans, by their sources. -/
abbrev PatternCache := Table String Matcher

/-- What a scan does: it may read patterns, and a fault may end it. -/
abbrev ScanM := StateT PatternCache (Except ScanFault)

def Engine.read (e : Engine) (source : String) : ScanM Matcher := fun cache =>
  match cache.get? source with
  | some matcher => .ok (matcher, cache)
  | none =>
    match e.compile? source with
    | some matcher => .ok (matcher, cache.put source matcher)
    | none => .error (.badPattern source)

end Highlighting
