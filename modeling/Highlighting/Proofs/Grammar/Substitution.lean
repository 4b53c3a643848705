import Highlighting.Proofs.Grammar.CaptureOrder
import Highlighting.Proofs.Pattern.GroupCount

/-!
What becomes of the edge of a region when the texts of groups take the place of its references.
Only literals are put in.
-/
namespace Highlighting

theorem Captures.putAll_append (captures : Captures) (more : List (Nat × Capture))
    (c : Nat × Capture) : captures.putAll (more ++ [c]) = (captures.putAll more).put c.1 c.2 := by
  simp [putAll]

namespace Compile

/-- A capture says what a rule of a file says, with its patterns where the rule has its place. -/
structure Progress.Scopes (p : Progress) (library : Library) (file : String) (number : Nat)
    (c : Capture) : Prop where
  name_eq : c.name = (ruleOf library file number).name
  isSome_patterns : c.patterns.isSome = (ruleOf library file number).patterns.isSome
  place : ∀ id, c.patterns = some id → p.at? (.rule file number) = some id

section
variable {p : Progress} {library : Library} {file : String} {groups group : Nat}
  {entry : String × Nat}

end

section
variable {engine : Engine} {library : Library} {file : String} {g : Grammar} {asked : List String}

end

end Compile

namespace BackReference
open Pattern Compile

section
variable {engine : Engine} {text : Text} {groups : List (Option Span)} {matcher : Matcher}

end

end BackReference

end Highlighting
