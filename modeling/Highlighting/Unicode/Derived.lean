import Highlighting.Unicode.Casing

/-! Properties of Unicode 16.0 that follow from the general categories and the case mappings. -/
namespace Highlighting.Unicode

open Category (codes)

namespace Property

def letters : RangeSet :=
  .unions <| [Category.uppercaseLetter, .lowercaseLetter, .titlecaseLetter, .modifierLetter,
    .otherLetter].map codes

def casedLetters : RangeSet :=
  .unions <| [Category.uppercaseLetter, .lowercaseLetter, .titlecaseLetter].map codes

def marks : RangeSet :=
  .unions <| [Category.nonspacingMark, .spacingMark, .enclosingMark].map codes

def numbers : RangeSet :=
  .unions <| [Category.decimalNumber, .letterNumber, .otherNumber].map codes

def punctuation : RangeSet :=
  .unions <| [Category.connectorPunctuation, .dashPunctuation, .openPunctuation, .closePunctuation,
    .initialPunctuation, .finalPunctuation, .otherPunctuation].map codes

def symbols : RangeSet :=
  .unions <| [Category.mathSymbol, .currencySymbol, .modifierSymbol, .otherSymbol].map codes

def separators : RangeSet :=
  .unions <| [Category.spaceSeparator, .lineSeparator, .paragraphSeparator].map codes

def others : RangeSet :=
  .unions <| [Category.control, .format, .surrogate, .privateUse, .unassigned].map codes

def otherAlphabetic : RangeSet := .ofTable
  "345 363-36F 5B0-5BD 5BF 5C1-5C2 5C4-5C5 5C7 610-61A 64B-657 659-65F 670 6D6-6DC 6E1-6E4
    6E7-6E8 6ED 711 730-73F 7A6-7B0 816-817 81B-823 825-827 829-82C 897 8D4-8DF 8E3-8E9 8F0-903
    93A-93B 93E-94C 94E-94F 955-957 962-963 981-983 9BE-9C4 9C7-9C8 9CB-9CC 9D7 9E2-9E3 A01-A03
    A3E-A42 A47-A48 A4B-A4C A51 A70-A71 A75 A81-A83 ABE-AC5 AC7-AC9 ACB-ACC AE2-AE3 AFA-AFC
    B01-B03 B3E-B44 B47-B48 B4B-B4C B56-B57 B62-B63 B82 BBE-BC2 BC6-BC8 BCA-BCC BD7 C00-C04
    C3E-C44 C46-C48 C4A-C4C C55-C56 C62-C63 C81-C83 CBE-CC4 CC6-CC8 CCA-CCC CD5-CD6 CE2-CE3 CF3
    D00-D03 D3E-D44 D46-D48 D4A-D4C D57 D62-D63 D81-D83 DCF-DD4 DD6 DD8-DDF DF2-DF3 E31 E34-E3A
    E4D EB1 EB4-EB9 EBB-EBC ECD F71-F83 F8D-F97 F99-FBC 102B-1036 1038 103B-103E 1056-1059
    105E-1060 1062-1064 1067-106D 1071-1074 1082-108D 108F 109A-109D 1712-1713 1732-1733
    1752-1753 1772-1773 17B6-17C8 1885-1886 18A9 1920-192B 1930-1938 1A17-1A1B 1A55-1A5E
    1A61-1A74 1ABF-1AC0 1ACC-1ACE 1B00-1B04 1B35-1B43 1B80-1B82 1BA1-1BA9 1BAC-1BAD 1BE7-1BF1
    1C24-1C36 1DD3-1DF4 24B6-24E9 2DE0-2DFF A674-A67B A69E-A69F A802 A80B A823-A827 A880-A881
    A8B4-A8C3 A8C5 A8FF A926-A92A A947-A952 A980-A983 A9B4-A9BF A9E5 AA29-AA36 AA43 AA4C-AA4D
    AA7B-AA7D AAB0 AAB2-AAB4 AAB7-AAB8 AABE AAEB-AAEF AAF5 ABE3-ABEA FB1E 10376-1037A 10A01-10A03
    10A05-10A06 10A0C-10A0F 10D24-10D27 10D69 10EAB-10EAC 10EFC 11000-11002 11038-11045
    11073-11074 11080-11082 110B0-110B8 110C2 11100-11102 11127-11132 11145-11146 11180-11182
    111B3-111BF 111CE-111CF 1122C-11234 11237 1123E 11241 112DF-112E8 11300-11303 1133E-11344
    11347-11348 1134B-1134C 11357 11362-11363 113B8-113C0 113C2 113C5 113C7-113CA 113CC-113CD
    11435-11441 11443-11445 114B0-114C1 115AF-115B5 115B8-115BE 115DC-115DD 11630-1163E 11640
    116AB-116B5 1171D-1172A 1182C-11838 11930-11935 11937-11938 1193B-1193C 11940 11942
    119D1-119D7 119DA-119DF 119E4 11A01-11A0A 11A35-11A39 11A3B-11A3E 11A51-11A5B 11A8A-11A97
    11C2F-11C36 11C38-11C3E 11C92-11CA7 11CA9-11CB6 11D31-11D36 11D3A 11D3C-11D3D 11D3F-11D41
    11D43 11D47 11D8A-11D8E 11D90-11D91 11D93-11D96 11EF3-11EF6 11F00-11F01 11F03 11F34-11F3A
    11F3E-11F40 1611E-1612E 16F4F 16F51-16F87 16F8F-16F92 16FF0-16FF1 1BC9E 1E000-1E006
    1E008-1E018 1E01B-1E021 1E023-1E024 1E026-1E02A 1E08F 1E947 1F130-1F149 1F150-1F169
    1F170-1F189"

def alphabetic : RangeSet := .unions [letters, codes .letterNumber, otherAlphabetic]

def lowercase : RangeSet := (codes .lowercaseLetter).union otherLowercase

def uppercase : RangeSet := (codes .uppercaseLetter).union otherUppercase

def cased : RangeSet := .unions [lowercase, uppercase, codes .titlecaseLetter]

def caseIgnorable : RangeSet :=
  .unions [codes .nonspacingMark, codes .enclosingMark, codes .format, codes .modifierLetter,
    codes .modifierSymbol, wordInner]

def whiteSpace : RangeSet := .ofTable
  "9-D 20 85 A0 1680 2000-200A 2028-2029 202F 205F 3000"

/-! What case mapping changes. -/

def sources (runs : Array CaseRun) : RangeSet :=
  .ofIntervals <| runs.toList.flatMap fun run =>
    if run.step = 1 then [(run.first, run.last)] else run.sources.map fun code => (code, code)

def changesWhenLowercased : RangeSet := (sources lowerRuns).union (.singleton 0x130)

def onlyLowercase : RangeSet := .ofTable
  "138 18D 1AA-1AB 1BA 1BE 221 234-239 255 258 25A 25D-25F 262 267 26D-26E 270 273-274 276-27C
    27E-27F 281 284-286 28D-291 293 295-29C 29F-2AF 3FC 560 588 1D00-1D2B 1D6B-1D77 1D7A-1D7C
    1D7E-1D8D 1D8F-1D9A 1E9C-1E9D 1E9F 210A 210E-210F 2113 212F 2134 2139 213C-213D 2146-2149
    2C71 2C74 2C77-2C7B 2CE4 A730-A731 A771-A778 A78E A795 A7AF A7D3 A7D5 A7FA AB30-AB52
    AB54-AB5A AB60-AB68 1D41A-1D433 1D44E-1D454 1D456-1D467 1D482-1D49B 1D4B6-1D4B9 1D4BB
    1D4BD-1D4C3 1D4C5-1D4CF 1D4EA-1D503 1D51E-1D537 1D552-1D56B 1D586-1D59F 1D5BA-1D5D3
    1D5EE-1D607 1D622-1D63B 1D656-1D66F 1D68A-1D6A5 1D6C2-1D6DA 1D6DC-1D6E1 1D6FC-1D714
    1D716-1D71B 1D736-1D74E 1D750-1D755 1D770-1D788 1D78A-1D78F 1D7AA-1D7C2 1D7C4-1D7C9 1D7CB
    1DF00-1DF09 1DF0B-1DF1E 1DF25-1DF2A"

def alsoUppercased : RangeSet := .ofTable
  "1C5 1C8 1CB 1F2 345 1F88-1F8F 1F98-1F9F 1FA8-1FAF 1FBC 1FCC 1FFC 2170-217F 24D0-24E9"

def changesWhenUppercased : RangeSet :=
  ((codes .lowercaseLetter).diff onlyLowercase).union alsoUppercased

/-- The title case of a letter is its upper case but for digraphs; Georgian has none. -/
def changesWhenTitlecased : RangeSet :=
  (changesWhenUppercased.diff ((codes .titlecaseLetter).union georgian)).union digraphs
where
  georgian : RangeSet := .ofTable "10D0-10FA 10FD-10FF"
  digraphs : RangeSet := .ofTable "1C4 1C7 1CA 1F1"

/-- Foldings that only take a character apart do not count. -/
def changesWhenCasefolded : RangeSet :=
  ((sources foldRuns).union (.ofIntervals (expandingFolds.map fun row => (row.1, row.1)))).diff
    takenApart
where
  takenApart : RangeSet := .ofTable
    "1F0 390 3B0 1E96-1E99 1F50 1F52 1F54 1F56 1FB6 1FBE 1FC6 1FD2-1FD3 1FD6-1FD7 1FE2-1FE4
      1FE6-1FE7 1FF6"

def changesWhenCasemapped : RangeSet :=
  .unions [changesWhenLowercased, changesWhenUppercased, changesWhenTitlecased]

/-! Parts of what a reader sees as one character. -/

def otherGraphemeExtend : RangeSet := .ofTable
  "9BE 9D7 B3E B57 BBE BD7 CC0 CC2 CC7-CC8 CCA-CCB CD5-CD6 D3E D57 DCF DDF 1715 1734 1B35 1B3B
    1B3D 1B43-1B44 1BAA 1BF2-1BF3 200C 302E-302F A953 A9C0 FF9E-FF9F 111C0 11235 1133E 1134D
    11357 113B8 113C2 113C5 113C7-113C9 113CF 114B0 114BD 115AF 116B6 11930 1193D 11F41
    16FF0-16FF1 1D165-1D166 1D16D-1D172 E0020-E007F"

def graphemeExtend : RangeSet :=
  .unions [codes .nonspacingMark, codes .enclosingMark, otherGraphemeExtend]

def graphemeBase : RangeSet :=
  (RangeSet.unions [others, codes .lineSeparator, codes .paragraphSeparator,
    graphemeExtend]).complement

/-- Signs that take the vowel from a consonant. -/
def graphemeLink : RangeSet := .ofTable
  "94D 9CD A4D ACD B4D BCD C4D CCD D3B-D3C D4D DCA E3A EBA F84 1039-103A 1714-1715 1734 17D2 1A60
    1B44 1BAA-1BAB 1BF2-1BF3 2D7F A806 A82C A8C4 A953 A9C0 AAF6 ABED 10A3F 11046 11070 1107F
    110B9 11133-11134 111C0 11235 112EA 1134D 113CE-113D0 11442 114C2 115BF 1163F 116B6 1172B
    11839 1193D-1193E 119E0 11A34 11A47 11A99 11C3F 11D44-11D45 11D97 11F41-11F42 1612F"

def joinControl : RangeSet := .ofTable
  "200C-200D"

def emojiModifier : RangeSet := .ofTable
  "1F3FB-1F3FF"

def clusterConsonants : RangeSet := .ofTable
  "915-939 958-95F 978-97F 995-9A8 9AA-9B0 9B2 9B6-9B9 9DC-9DD 9DF 9F0-9F1 A95-AA8 AAA-AB0
    AB2-AB3 AB5-AB9 AF9 B15-B28 B2A-B30 B32-B33 B35-B39 B5C-B5D B5F B71 C15-C28 C2A-C39 C58-C5A
    D15-D3A"

def indicConjunctBreak : RangeSet :=
  .unions [clusterConsonants, graphemeExtend.diff (.singleton 0x200C), emojiModifier,
    .singleton 0x200D]

/-! Identifiers. -/

def otherIdStart : RangeSet := .ofTable
  "1885-1886 2118 212E 309B-309C"

def otherIdContinue : RangeSet := .ofTable
  "B7 387 1369-1371 19DA 200C-200D 30FB FF65"

def idStart : RangeSet :=
  (RangeSet.unions [letters, codes .letterNumber, otherIdStart]).diff (.singleton 0x2E2F)

def idContinue : RangeSet :=
  .unions [idStart, codes .nonspacingMark, codes .spacingMark, codes .decimalNumber,
    codes .connectorPunctuation, otherIdContinue]

/-- Characters that a compatibility mapping turns into something that does not go on with an
identifier. -/
def unstable : RangeSet := .ofTable
  "37A 309B-309C FC5E-FC63 FDFA-FDFB FE70 FE72 FE74 FE76 FE78 FE7A FE7C FE7E"

def xidStart : RangeSet :=
  (idStart.diff unstable).diff (.ofTable "E33 EB3 FF9E-FF9F")

def xidContinue : RangeSet := idContinue.diff unstable

/-! Signs of mathematics, and characters that are not shown. -/

def otherMath : RangeSet := .ofTable
  "5E 3D0-3D2 3D5 3F0-3F1 3F4-3F5 2016 2032-2034 2040 2061-2064 207D-207E 208D-208E 20D0-20DC
    20E1 20E5-20E6 20EB-20EF 2102 2107 210A-2113 2115 2119-211D 2124 2128-2129 212C-212D
    212F-2131 2133-2138 213C-213F 2145-2149 2195-2199 219C-219F 21A1-21A2 21A4-21A5 21A7
    21A9-21AD 21B0-21B1 21B6-21B7 21BC-21CD 21D0-21D1 21D3 21D5-21DB 21DD 21E4-21E5 2308-230B
    23B4-23B5 23B7 23D0 23E2 25A0-25A1 25AE-25B6 25BC-25C0 25C6-25C7 25CA-25CB 25CF-25D3 25E2
    25E4 25E7-25EC 2605-2606 2640 2642 2660-2663 266D-266E 27C5-27C6 27E6-27EF 2983-2998
    29D8-29DB 29FC-29FD FE61 FE63 FE68 FF3C FF3E 1D400-1D454 1D456-1D49C 1D49E-1D49F 1D4A2
    1D4A5-1D4A6 1D4A9-1D4AC 1D4AE-1D4B9 1D4BB 1D4BD-1D4C3 1D4C5-1D505 1D507-1D50A 1D50D-1D514
    1D516-1D51C 1D51E-1D539 1D53B-1D53E 1D540-1D544 1D546 1D54A-1D550 1D552-1D6A5 1D6A8-1D6C0
    1D6C2-1D6DA 1D6DC-1D6FA 1D6FC-1D714 1D716-1D734 1D736-1D74E 1D750-1D76E 1D770-1D788
    1D78A-1D7A8 1D7AA-1D7C2 1D7C4-1D7CB 1D7CE-1D7FF 1EE00-1EE03 1EE05-1EE1F 1EE21-1EE22 1EE24
    1EE27 1EE29-1EE32 1EE34-1EE37 1EE39 1EE3B 1EE42 1EE47 1EE49 1EE4B 1EE4D-1EE4F 1EE51-1EE52
    1EE54 1EE57 1EE59 1EE5B 1EE5D 1EE5F 1EE61-1EE62 1EE64 1EE67-1EE6A 1EE6C-1EE72 1EE74-1EE77
    1EE79-1EE7C 1EE7E 1EE80-1EE89 1EE8B-1EE9B 1EEA1-1EEA3 1EEA5-1EEA9 1EEAB-1EEBB"

def math : RangeSet := (codes .mathSymbol).union otherMath

def otherDefaultIgnorableCodePoint : RangeSet := .ofTable
  "34F 115F-1160 17B4-17B5 2065 3164 FFA0 FFF0-FFF8 E0000 E0002-E001F E0080-E00FF E01F0-E0FFF"

def variationSelector : RangeSet := .ofTable
  "180B-180D 180F FE00-FE0F E0100-E01EF"

def prependedConcatenationMark : RangeSet := .ofTable
  "600-605 6DD 70F 890-891 8E2 110BD 110CD"

/-- Format characters are not shown, but for those that are drawn around others. -/
def defaultIgnorableCodePoint : RangeSet :=
  ((RangeSet.unions [otherDefaultIgnorableCodePoint, codes .format, variationSelector]).diff
    prependedConcatenationMark).diff (.ofTable "FFF9-FFFB 13430-1343F")

end Property

end Highlighting.Unicode
