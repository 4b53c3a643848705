/-!
Why a text is not a pattern.
-/
namespace Highlighting.Pattern

inductive Fault
  | endAfterBackslash
  | endInControl
  | badControl
  | endInGroup
  | unclosedGroup
  | unmatchedClose
  | unknownGroup
  | unknownOption
  | nothingToRepeat
  | countTooLarge
  | emptyClass
  | unclosedClass
  | emptyRange
  | badRangeEnd
  | badRangeStart
  | badClassName
  | badProperty
  | badCode
  | badBytes
  | badName
  | undefinedName
  | undefinedGroup
  | ambiguousName
  | numberedReference
  | badLookBehind
  | endlessRecursion
  | unsupported
  | tooDeep
  deriving Repr, DecidableEq, Inhabited

end Highlighting.Pattern
