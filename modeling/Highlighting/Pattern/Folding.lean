import Highlighting.Pattern.Basic
import Highlighting.Pattern.Bracket

/-!
Patterns without regard to case. A character then stands for all that fold as it does, and where a
folding has several characters a run of them stands for the one that folds to it, and back.
-/
namespace Highlighting.Pattern

open Unicode

def foldedOne (code : Nat) : Node :=
  match foldSiblings code with
  | [] => .text [code] false
  | others => .one (.ofIntervals ((code :: others).map fun c => (c, c)))

def foldedRun (codes : List Nat) : Node := .seqs (codes.map foldedOne)

def foldedCode (code : Nat) : Node :=
  match foldCode code with
  | [_] => foldedOne code
  | folded => .inner false (.alt (foldedOne code) (foldedRun folded))

def foldSingles? (run : List Nat) : Option (List Nat) :=
  run.mapM fun code =>
    match foldCode code with
    | [target] => some target
    | _ => none

/-- The characters that fold to a whole run, each character of which folds to one. -/
def contractions (run : List Nat) : List Nat :=
  match foldSingles? run with
  | none => []
  | some folded => (expandingFolds.filter fun row => row.2 == folded).map (·.1)

/-- A text in any case. A run that one character can stand for is taken whole, the longest first. -/
def foldedText : (fuel : Nat) → List Nat → List Node
  | fuel + 1, code :: rest =>
    let contracted := [3, 2].findSome? fun count =>
      match contractions ((code :: rest).take count) with
      | [] => none
      | shorter => if rest.length + 1 < count then none else some (count, shorter)
    match contracted with
    | none => foldedCode code :: foldedText fuel rest
    | some (count, shorter) =>
      .inner false (.alt (foldedRun ((code :: rest).take count))
          (.one (.ofIntervals (shorter.map fun c => (c, c))))) ::
        foldedText fuel (rest.drop (count - 1))
  | _, _ => []

/-- A text in any case, as a node. In a look-behind every character is taken on its own. -/
def foldedTexts (behind : Bool) (codes : List Nat) : Node :=
  if behind then foldedRun codes else .seqs (foldedText codes.length codes)

/-- A class in any case. A class that is not negated also takes the foldings of its members that
have several characters. -/
def foldedClass (l : Listed) : Node :=
  let closed := closeUnderFolding l.members.codes
  if l.negative then
    let reached := Members.ofCodes closed
    .one { l.members with codes := closed, wide := l.members.wide || reached.wide }.leftOut
  else
    let expanding := expandingFolds.filter fun row => l.members.codes.contains row.1
    (Node.alts (.one closed ::
      (expanding.map fun row => Node.text row.2 true).eraseDups)).bracketed

end Highlighting.Pattern
