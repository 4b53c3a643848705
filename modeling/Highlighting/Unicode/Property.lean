import Highlighting.Unicode.Block
import Highlighting.Unicode.Derived
import Highlighting.Unicode.Listed
import Highlighting.Unicode.Script

/-!
Character classes and named properties of Unicode 16.0, as patterns ask for them by name. A name is
compared without regard to case, blanks, hyphens and low lines.
-/
namespace Highlighting.Unicode

open Category (codes)

namespace Property

/-! The classes that have a name of their own in brackets. -/

def alnum : RangeSet := alphabetic.union (codes .decimalNumber)

def blank : RangeSet := (codes .spaceSeparator).union (.singleton 9)

def graph : RangeSet :=
  (RangeSet.unions [whiteSpace, codes .control, codes .surrogate, codes .unassigned]).complement

def print : RangeSet := graph.union (codes .spaceSeparator)

/-- Punctuation in brackets takes in the symbols. -/
def punctAndSymbols : RangeSet := punctuation.union symbols

def word : RangeSet :=
  .unions [alphabetic, marks, codes .decimalNumber, codes .connectorPunctuation]

def ascii : RangeSet := ⟨#[(0, 0x7F)]⟩

def bracketClasses : List (String × RangeSet) :=
  [("alnum", alnum), ("alpha", alphabetic), ("blank", blank), ("cntrl", codes .control),
   ("digit", codes .decimalNumber), ("graph", graph), ("lower", lowercase), ("print", print),
   ("punct", punctAndSymbols), ("space", whiteSpace), ("upper", uppercase),
   ("xdigit", asciiHexDigit), ("ascii", ascii), ("word", word)]

/-! Names. Each row holds the names of one property, apart by blanks. -/

def classNames : List (String × RangeSet) :=
  [("Alnum", alnum), ("Blank", blank), ("Cntrl", codes .control), ("Digit", codes .decimalNumber),
   ("Graph", graph), ("Print", print), ("PosixPunct", punctAndSymbols), ("Space", whiteSpace),
   ("XDigit", asciiHexDigit), ("ASCII", ascii), ("Word", word), ("Newline", .singleton 10),
   ("Any", .all), ("Assigned", (codes .unassigned).complement)]

def categoryGroups : List (String × RangeSet) :=
  [("L Letter", letters), ("LC Cased_Letter", casedLetters), ("M Mark Combining_Mark", marks),
   ("N Number", numbers), ("P Punctuation Punct", punctuation), ("S Symbol", symbols),
   ("Z Separator", separators), ("C Other", others)]

def categories : List (String × RangeSet) :=
  (Category.unassigned :: Category.assigned).map fun c =>
    (c.shortName ++ " " ++ c.longName, codes c)

def binary : List (String × RangeSet) :=
  [("Alphabetic Alpha", alphabetic), ("Lowercase Lower", lowercase), ("Uppercase Upper", uppercase),
   ("White_Space WSpace", whiteSpace), ("Cased", cased), ("Case_Ignorable CI", caseIgnorable),
   ("Changes_When_Lowercased CWL", changesWhenLowercased),
   ("Changes_When_Uppercased CWU", changesWhenUppercased),
   ("Changes_When_Titlecased CWT", changesWhenTitlecased),
   ("Changes_When_Casefolded CWCF", changesWhenCasefolded),
   ("Changes_When_Casemapped CWCM", changesWhenCasemapped),
   ("Grapheme_Extend Gr_Ext", graphemeExtend), ("Grapheme_Base Gr_Base", graphemeBase),
   ("Grapheme_Link Gr_Link", graphemeLink), ("InCB Indic_Conjunct_Break", indicConjunctBreak),
   ("ID_Start IDS", idStart), ("ID_Continue IDC", idContinue), ("XID_Start XIDS", xidStart),
   ("XID_Continue XIDC", xidContinue), ("Math", math),
   ("Default_Ignorable_Code_Point DI", defaultIgnorableCodePoint),
   ("Other_Alphabetic OAlpha", otherAlphabetic), ("Other_Lowercase OLower", otherLowercase),
   ("Other_Uppercase OUpper", otherUppercase), ("Other_Math OMath", otherMath),
   ("Other_Grapheme_Extend OGr_Ext", otherGraphemeExtend), ("Other_ID_Start OIDS", otherIdStart),
   ("Other_ID_Continue OIDC", otherIdContinue),
   ("Other_Default_Ignorable_Code_Point ODI", otherDefaultIgnorableCodePoint),
   ("ASCII_Hex_Digit AHex", asciiHexDigit), ("Hex_Digit Hex", hexDigit),
   ("Bidi_Control Bidi_C", bidiControl), ("Dash", dash), ("Hyphen", hyphen),
   ("Deprecated Dep", deprecated), ("Diacritic Dia", diacritic), ("Extender Ext", extender),
   ("ID_Compat_Math_Start", idCompatMathStart), ("ID_Compat_Math_Continue", idCompatMathContinue),
   ("IDS_Binary_Operator IDSB", idsBinaryOperator),
   ("IDS_Trinary_Operator IDST", idsTrinaryOperator),
   ("IDS_Unary_Operator IDSU", idsUnaryOperator), ("Ideographic Ideo", ideographic),
   ("Join_Control Join_C", joinControl), ("Logical_Order_Exception LOE", logicalOrderException),
   ("Modifier_Combining_Mark MCM", modifierCombiningMark),
   ("Noncharacter_Code_Point NChar", noncharacterCodePoint),
   ("Pattern_Syntax Pat_Syn", patternSyntax), ("Pattern_White_Space Pat_WS", patternWhiteSpace),
   ("Prepended_Concatenation_Mark PCM", prependedConcatenationMark),
   ("Quotation_Mark QMark", quotationMark), ("Radical", radical),
   ("Regional_Indicator RI", regionalIndicator), ("Sentence_Terminal STerm", sentenceTerminal),
   ("Soft_Dotted SD", softDotted), ("Terminal_Punctuation Term", terminalPunctuation),
   ("Unified_Ideograph UIdeo", unifiedIdeograph), ("Variation_Selector VS", variationSelector),
   ("Emoji", emoji), ("Emoji_Component EComp", emojiComponent),
   ("Emoji_Modifier EMod", emojiModifier), ("Emoji_Modifier_Base EBase", emojiModifierBase),
   ("Emoji_Presentation EPres", emojiPresentation),
   ("Extended_Pictographic ExtPict", extendedPictographic)]

/-- Scripts by their names; two have a name from before they had their own. -/
def scripts : List (String × RangeSet) :=
  ("Qaac", Script.coptic.codes) :: ("Qaai", Script.inherited.codes) ::
    Script.all.map fun s => (s.shortName ++ " " ++ s.longName, s.codes)

def blocks : List (String × RangeSet) :=
  Block.all.map fun b => ("In_" ++ b.name, b.codes)

def normalize (name : List Char) : String :=
  .ofList <| (name.filter fun c => c ≠ ' ' && c ≠ '-' && c ≠ '_').map Char.toLower

def named : List (String × RangeSet) :=
  [classNames, categoryGroups, categories, binary, scripts, blocks].flatten.flatMap
    fun (names, set) => (tableWords names).map fun name => (normalize name, set)

def find? (name : List Char) : Option RangeSet :=
  if name.any fun c => c.toNat ≥ 0x80 then none else named.lookup (normalize name)

end Property

def isWhiteSpace (c : Char) : Bool := Property.whiteSpace.containsChar c

/-- The characters of words: in this use fractions and raised digits of Latin-1 are among them. -/
def wordChars : RangeSet := Property.word.union (.ofTable "B2-B3 B9 BC-BE")

def isWordChar (c : Char) : Bool := wordChars.containsChar c

/-- Characters that a display shows as themselves: no controls, no separators but the space, nothing
unassigned. -/
def isPrintable (c : Char) : Bool :=
  c = ' ' || !(Property.others.containsChar c || Property.separators.containsChar c)

end Highlighting.Unicode
