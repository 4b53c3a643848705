import Highlighting.Unicode.Category

/-!
Lower-case mapping and full case folding of Unicode 16.0. A table is a list of runs: the code points
from the first to the last, every one or every second, move by one distance up (`+`) or down (`~`).
-/
namespace Highlighting.Unicode

/-- Code points `first`, `first + step`, … up to `last`, each mapped by adding `offset`. -/
structure CaseRun where
  first : Nat
  last : Nat
  step : Nat
  offset : Int
  deriving Repr, DecidableEq, Inhabited

namespace CaseRun

def covers (run : CaseRun) (code : Nat) : Bool :=
  run.first ≤ code && code ≤ run.last && (code - run.first) % run.step == 0

def apply (run : CaseRun) (code : Nat) : Nat := (Int.ofNat code + run.offset).toNat

def sources (run : CaseRun) : List Nat :=
  (List.range ((run.last - run.first) / run.step + 1)).map fun i => run.first + i * run.step

/-- Reads `41-5A+20`, `100-12E/2+1` or `1E9E~1DBF`. -/
def ofWord (word : List Char) : CaseRun :=
  let isSign := fun c : Char => c == '+' || c == '~'
  let offset := hexValue ((word.dropWhile fun c => !isSign c).drop 1)
  let offset : Int := if word.contains '~' then -(Int.ofNat offset) else Int.ofNat offset
  let span := word.takeWhile fun c => !isSign c
  let step := if span.contains '/' then 2 else 1
  match splitAll (· == '-') (span.takeWhile (· ≠ '/')) with
  | [first, last] => ⟨hexValue first, hexValue last, step, offset⟩
  | _ => ⟨hexValue span, hexValue span, step, offset⟩

end CaseRun

def caseRuns (text : String) : Array CaseRun := ((tableWords text).map CaseRun.ofWord).toArray

def mapCase (runs : Array CaseRun) (code : Nat) : Option Nat :=
  (runs.find? fun run => run.covers code).map fun run => run.apply code

def lowerRuns : Array CaseRun := caseRuns
  "41-5A+20 C0-D6+20 D8-DE+20 100-12E/2+1 132-136/2+1 139-147/2+1 14A-176/2+1 178~79
    179-17D/2+1 181+D2 182-184/2+1 186+CE 187+1 189-18A+CD 18B+1 18E+4F 18F+CA 190+CB 191+1
    193+CD 194+CF 196+D3 197+D1 198+1 19C+D3 19D+D5 19F+D6 1A0-1A4/2+1 1A6+DA 1A7+1 1A9+DA
    1AC+1 1AE+DA 1AF+1 1B1-1B2+D9 1B3-1B5/2+1 1B7+DB 1B8+1 1BC+1 1C4+2 1C5+1 1C7+2 1C8+1 1CA+2
    1CB-1DB/2+1 1DE-1EE/2+1 1F1+2 1F2-1F4/2+1 1F6~61 1F7~38 1F8-21E/2+1 220~82 222-232/2+1
    23A+2A2B 23B+1 23D~A3 23E+2A28 241+1 243~C3 244+45 245+47 246-24E/2+1 370-372/2+1 376+1
    37F+74 386+26 388-38A+25 38C+40 38E-38F+3F 391-3A1+20 3A3-3AB+20 3CF+8 3D8-3EE/2+1 3F4~3C
    3F7+1 3F9~7 3FA+1 3FD-3FF~82 400-40F+50 410-42F+20 460-480/2+1 48A-4BE/2+1 4C0+F
    4C1-4CD/2+1 4D0-52E/2+1 531-556+30 10A0-10C5+1C60 10C7+1C60 10CD+1C60 13A0-13EF+97D0
    13F0-13F5+8 1C89+1 1C90-1CBA~BC0 1CBD-1CBF~BC0 1E00-1E94/2+1 1E9E~1DBF 1EA0-1EFE/2+1
    1F08-1F0F~8 1F18-1F1D~8 1F28-1F2F~8 1F38-1F3F~8 1F48-1F4D~8 1F59-1F5F/2~8 1F68-1F6F~8
    1F88-1F8F~8 1F98-1F9F~8 1FA8-1FAF~8 1FB8-1FB9~8 1FBA-1FBB~4A 1FBC~9 1FC8-1FCB~56 1FCC~9
    1FD8-1FD9~8 1FDA-1FDB~64 1FE8-1FE9~8 1FEA-1FEB~70 1FEC~7 1FF8-1FF9~80 1FFA-1FFB~7E 1FFC~9
    2126~1D5D 212A~20BF 212B~2046 2132+1C 2160-216F+10 2183+1 24B6-24CF+1A 2C00-2C2F+30 2C60+1
    2C62~29F7 2C63~EE6 2C64~29E7 2C67-2C6B/2+1 2C6D~2A1C 2C6E~29FD 2C6F~2A1F 2C70~2A1E 2C72+1
    2C75+1 2C7E-2C7F~2A3F 2C80-2CE2/2+1 2CEB-2CED/2+1 2CF2+1 A640-A66C/2+1 A680-A69A/2+1
    A722-A72E/2+1 A732-A76E/2+1 A779-A77B/2+1 A77D~8A04 A77E-A786/2+1 A78B+1 A78D~A528
    A790-A792/2+1 A796-A7A8/2+1 A7AA~A544 A7AB~A54F A7AC~A54B A7AD~A541 A7AE~A544 A7B0~A512
    A7B1~A52A A7B2~A515 A7B3+3A0 A7B4-A7C2/2+1 A7C4~30 A7C5~A543 A7C6~8A38 A7C7-A7C9/2+1
    A7CB~A567 A7CC+1 A7D0+1 A7D6-A7DA/2+1 A7DC~A641 A7F5+1 FF21-FF3A+20 10400-10427+28
    104B0-104D3+28 10570-1057A+27 1057C-1058A+27 1058C-10592+27 10594-10595+27 10C80-10CB2+40
    10D50-10D65+20 118A0-118BF+20 16E40-16E5F+20 1E900-1E921+22"

def foldRuns : Array CaseRun := caseRuns
  "41-5A+20 B5+307 C0-D6+20 D8-DE+20 100-12E/2+1 132-136/2+1 139-147/2+1 14A-176/2+1 178~79
    179-17D/2+1 17F~10C 181+D2 182-184/2+1 186+CE 187+1 189-18A+CD 18B+1 18E+4F 18F+CA 190+CB
    191+1 193+CD 194+CF 196+D3 197+D1 198+1 19C+D3 19D+D5 19F+D6 1A0-1A4/2+1 1A6+DA 1A7+1
    1A9+DA 1AC+1 1AE+DA 1AF+1 1B1-1B2+D9 1B3-1B5/2+1 1B7+DB 1B8+1 1BC+1 1C4+2 1C5+1 1C7+2 1C8+1
    1CA+2 1CB-1DB/2+1 1DE-1EE/2+1 1F1+2 1F2-1F4/2+1 1F6~61 1F7~38 1F8-21E/2+1 220~82
    222-232/2+1 23A+2A2B 23B+1 23D~A3 23E+2A28 241+1 243~C3 244+45 245+47 246-24E/2+1 345+74
    370-372/2+1 376+1 37F+74 386+26 388-38A+25 38C+40 38E-38F+3F 391-3A1+20 3A3-3AB+20 3C2+1
    3CF+8 3D0~1E 3D1~19 3D5~F 3D6~16 3D8-3EE/2+1 3F0~36 3F1~30 3F4~3C 3F5~40 3F7+1 3F9~7 3FA+1
    3FD-3FF~82 400-40F+50 410-42F+20 460-480/2+1 48A-4BE/2+1 4C0+F 4C1-4CD/2+1 4D0-52E/2+1
    531-556+30 10A0-10C5+1C60 10C7+1C60 10CD+1C60 13F8-13FD~8 1C80~184E 1C81~184D 1C82~1844
    1C83-1C84~1842 1C85~1843 1C86~183C 1C87~1824 1C88+89C3 1C89+1 1C90-1CBA~BC0 1CBD-1CBF~BC0
    1E00-1E94/2+1 1E9B~3A 1EA0-1EFE/2+1 1F08-1F0F~8 1F18-1F1D~8 1F28-1F2F~8 1F38-1F3F~8
    1F48-1F4D~8 1F59-1F5F/2~8 1F68-1F6F~8 1FB8-1FB9~8 1FBA-1FBB~4A 1FBE~1C05 1FC8-1FCB~56
    1FD8-1FD9~8 1FDA-1FDB~64 1FE8-1FE9~8 1FEA-1FEB~70 1FEC~7 1FF8-1FF9~80 1FFA-1FFB~7E
    2126~1D5D 212A~20BF 212B~2046 2132+1C 2160-216F+10 2183+1 24B6-24CF+1A 2C00-2C2F+30 2C60+1
    2C62~29F7 2C63~EE6 2C64~29E7 2C67-2C6B/2+1 2C6D~2A1C 2C6E~29FD 2C6F~2A1F 2C70~2A1E 2C72+1
    2C75+1 2C7E-2C7F~2A3F 2C80-2CE2/2+1 2CEB-2CED/2+1 2CF2+1 A640-A66C/2+1 A680-A69A/2+1
    A722-A72E/2+1 A732-A76E/2+1 A779-A77B/2+1 A77D~8A04 A77E-A786/2+1 A78B+1 A78D~A528
    A790-A792/2+1 A796-A7A8/2+1 A7AA~A544 A7AB~A54F A7AC~A54B A7AD~A541 A7AE~A544 A7B0~A512
    A7B1~A52A A7B2~A515 A7B3+3A0 A7B4-A7C2/2+1 A7C4~30 A7C5~A543 A7C6~8A38 A7C7-A7C9/2+1
    A7CB~A567 A7CC+1 A7D0+1 A7D6-A7DA/2+1 A7DC~A641 A7F5+1 AB70-ABBF~97D0 FF21-FF3A+20
    10400-10427+28 104B0-104D3+28 10570-1057A+27 1057C-1058A+27 1058C-10592+27 10594-10595+27
    10C80-10CB2+40 10D50-10D65+20 118A0-118BF+20 16E40-16E5F+20 1E900-1E921+22"

def expandingFolds : List (Nat × List Nat) :=
  (splitAll (· == ';') foldText.toList).filterMap fun row =>
    match rowWords row with
    | [] => none
    | source :: target => some (hexValue source, target.map hexValue)
where
  foldText : String :=
    "DF 73 73; 130 69 307; 149 2BC 6E; 1F0 6A 30C; 390 3B9 308 301; 3B0 3C5 308 301;
      587 565 582; 1E96 68 331; 1E97 74 308; 1E98 77 30A; 1E99 79 30A; 1E9A 61 2BE; 1E9E 73 73;
      1F50 3C5 313; 1F52 3C5 313 300; 1F54 3C5 313 301; 1F56 3C5 313 342; 1F80 1F00 3B9;
      1F81 1F01 3B9; 1F82 1F02 3B9; 1F83 1F03 3B9; 1F84 1F04 3B9; 1F85 1F05 3B9; 1F86 1F06 3B9;
      1F87 1F07 3B9; 1F88 1F00 3B9; 1F89 1F01 3B9; 1F8A 1F02 3B9; 1F8B 1F03 3B9; 1F8C 1F04 3B9;
      1F8D 1F05 3B9; 1F8E 1F06 3B9; 1F8F 1F07 3B9; 1F90 1F20 3B9; 1F91 1F21 3B9; 1F92 1F22 3B9;
      1F93 1F23 3B9; 1F94 1F24 3B9; 1F95 1F25 3B9; 1F96 1F26 3B9; 1F97 1F27 3B9; 1F98 1F20 3B9;
      1F99 1F21 3B9; 1F9A 1F22 3B9; 1F9B 1F23 3B9; 1F9C 1F24 3B9; 1F9D 1F25 3B9; 1F9E 1F26 3B9;
      1F9F 1F27 3B9; 1FA0 1F60 3B9; 1FA1 1F61 3B9; 1FA2 1F62 3B9; 1FA3 1F63 3B9; 1FA4 1F64 3B9;
      1FA5 1F65 3B9; 1FA6 1F66 3B9; 1FA7 1F67 3B9; 1FA8 1F60 3B9; 1FA9 1F61 3B9; 1FAA 1F62 3B9;
      1FAB 1F63 3B9; 1FAC 1F64 3B9; 1FAD 1F65 3B9; 1FAE 1F66 3B9; 1FAF 1F67 3B9; 1FB2 1F70 3B9;
      1FB3 3B1 3B9; 1FB4 3AC 3B9; 1FB6 3B1 342; 1FB7 3B1 342 3B9; 1FBC 3B1 3B9; 1FC2 1F74 3B9;
      1FC3 3B7 3B9; 1FC4 3AE 3B9; 1FC6 3B7 342; 1FC7 3B7 342 3B9; 1FCC 3B7 3B9;
      1FD2 3B9 308 300; 1FD3 3B9 308 301; 1FD6 3B9 342; 1FD7 3B9 308 342; 1FE2 3C5 308 300;
      1FE3 3C5 308 301; 1FE4 3C1 313; 1FE6 3C5 342; 1FE7 3C5 308 342; 1FF2 1F7C 3B9;
      1FF3 3C9 3B9; 1FF4 3CE 3B9; 1FF6 3C9 342; 1FF7 3C9 342 3B9; 1FFC 3C9 3B9; FB00 66 66;
      FB01 66 69; FB02 66 6C; FB03 66 66 69; FB04 66 66 6C; FB05 73 74; FB06 73 74;
      FB13 574 576; FB14 574 565; FB15 574 56B; FB16 57E 576; FB17 574 56D;"

def lowerChar (c : Char) : List Char :=
  if c.toNat = 0x130 then ['i', Char.ofNat 0x307]
  else [match mapCase lowerRuns c.toNat with | some code => Char.ofNat code | none => c]

namespace Property

def otherLowercase : RangeSet := .ofTable
  "AA BA 2B0-2B8 2C0-2C1 2E0-2E4 345 37A 10FC 1D2C-1D6A 1D78 1D9B-1DBF 2071 207F 2090-209C
    2170-217F 24D0-24E9 2C7C-2C7D A69C-A69D A770 A7F2-A7F4 A7F8-A7F9 AB5C-AB5F AB69 10780
    10783-10785 10787-107B0 107B2-107BA 1E030-1E06D"

def otherUppercase : RangeSet := .ofTable
  "2160-216F 24B6-24CF 1F130-1F149 1F150-1F169 1F170-1F189"

def wordInner : RangeSet := .ofTable
  "27 2E 3A B7 387 55F 5F4 2018-2019 2024 2027 FE13 FE52 FE55 FF07 FF0E FF1A"

end Property

def isCased (c : Char) : Bool :=
  let category := Category.ofChar c
  category == .uppercaseLetter || category == .lowercaseLetter || category == .titlecaseLetter
    || Property.otherLowercase.containsChar c || Property.otherUppercase.containsChar c

def isCaseIgnorable (c : Char) : Bool :=
  [Category.nonspacingMark, .enclosingMark, .format, .modifierLetter, .modifierSymbol].contains
      (Category.ofChar c)
    || Property.wordInner.containsChar c

/-- A capital sigma is final when a cased letter stands before it and none stands after it. -/
def isFinalSigma (before after : List Char) : Bool :=
  (match before.dropWhile isCaseIgnorable with | c :: _ => isCased c | [] => false)
    && (match after.dropWhile isCaseIgnorable with | c :: _ => !isCased c | [] => true)

def lowerFrom (before : List Char) : List Char → List Char
  | [] => []
  | c :: rest =>
    let lowered :=
      if c.toNat = 0x3A3 then
        [Char.ofNat (if isFinalSigma before rest then 0x3C2 else 0x3C3)]
      else lowerChar c
    lowered ++ lowerFrom (c :: before) rest

def toLower (text : String) : String := String.ofList (lowerFrom [] text.toList)

def foldCode (code : Nat) : List Nat :=
  match mapCase foldRuns code with
  | some target => [target]
  | none => (expandingFolds.find? fun row => row.1 == code).elim [code] (·.2)

def unfoldCode (target : Nat) : List Nat :=
  foldRuns.toList.filterMap fun run =>
    let source := (Int.ofNat target - run.offset).toNat
    if run.covers source && run.apply source == target then some source else none

def foldSiblings (code : Nat) : List Nat :=
  match foldCode code with
  | [target] => (target :: unfoldCode target).filter (· ≠ code)
  | folded => (expandingFolds.filter fun row => row.2 == folded && row.1 ≠ code).map (·.1)

/-- Cuts an ascending list of pairs into the groups that share a first component. -/
def groupPairs : List (Nat × Nat) → List (Nat × List Nat)
  | [] => []
  | (key, value) :: rest =>
    match groupPairs rest with
    | (next, values) :: groups =>
      if key = next then (key, value :: values) :: groups
      else (key, [value]) :: (next, values) :: groups
    | [] => [(key, [value])]

def foldClasses : List (List Nat) :=
  let pairs := foldRuns.toList.flatMap fun run => run.sources.map fun c => (run.apply c, c)
  let single := (groupPairs (pairs.mergeSort fun a b => a.1 ≤ b.1)).map fun (target, sources) =>
    target :: sources
  let multiple := expandingFolds.map fun row =>
    (expandingFolds.filter fun other => other.2 == row.2).map (·.1)
  single ++ multiple.filter fun members => members.length > 1

/-- A set with every code point that folds as one of its members does. -/
def closeUnderFolding (codes : RangeSet) : RangeSet :=
  codes.union <| .ofIntervals <|
    (foldClasses.filter fun members => members.any codes.contains).flatten.map fun c => (c, c)

end Highlighting.Unicode
