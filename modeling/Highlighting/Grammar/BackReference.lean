import Highlighting.Matcher
import Highlighting.Text.Words

/-!
Patterns that refer back to what another pattern's groups took: a backslash and a digit stand for
the text of that group, taken literally.
-/
namespace Highlighting.BackReference

open Words (digit?)

def occurs : List Char → Bool
  | '\\' :: c :: rest => (digit? c).isSome || occurs rest
  | _ :: rest => occurs rest
  | [] => false

def isSpecial (c : Char) : Bool :=
  ['\\', '|', '(', ')', '[', ']', '{', '}', '^', '$', '*', '+', '?', '.'].contains c

def literal (text : List Char) : List Char :=
  text.flatMap fun c => if isSpecial c then ['\\', c] else [c]

/-- The text of a group; a group that took no part has none. -/
def taken (text : Text) (groups : List (Option Span)) (index : Nat) : List Char :=
  groups[index]?.join.elim [] fun span => span.slice text

/-- The pattern with the text of groups, counted from 0 on, in place of references. -/
def resolve (text : Text) (groups : List (Option Span)) : List Char → List Char
  | '\\' :: c :: rest =>
    match digit? c with
    | some index => literal (taken text groups index) ++ resolve text groups rest
    | none => '\\' :: c :: resolve text groups rest
  | c :: rest => c :: resolve text groups rest
  | [] => []

end Highlighting.BackReference
