import Highlighting.Pattern.Escape

/-!
Bracketed classes. What a class lists before negation is kept apart from the negation, for case
folding treats the two differently.
-/
namespace Highlighting.Pattern

open Unicode

/-- What a class lists: characters, and bytes from 80 to FF that stand by themselves. No character
is such a byte, but a negated class that lists nothing of several bytes, which `wide` would say,
looks at the first byte of a character only. -/
structure Members where
  codes : RangeSet
  bytes : RangeSet
  wide : Bool
  deriving Repr, DecidableEq, Inhabited

namespace Members

def loneBytes : RangeSet := ⟨#[(0x80, 0xFF)]⟩

def ofCodes (codes : RangeSet) : Members :=
  ⟨codes, .empty, codes.intervals.back?.any fun interval => 0x80 ≤ interval.2⟩

def union (a b : Members) : Members :=
  ⟨a.codes.union b.codes, a.bytes.union b.bytes, a.wide || b.wide⟩

def inter (a b : Members) : Members :=
  ⟨a.codes.inter b.codes, a.bytes.inter b.bytes, a.wide && b.wide⟩

def complement (m : Members) : Members :=
  ⟨m.codes.complement, loneBytes.diff m.bytes, true⟩

def startingWith (bytes : RangeSet) : RangeSet :=
  .ofIntervals <| bytes.members.map fun byte =>
    match encodedLength byte with
    | 2 => (max ((byte - 0xC0) * 64) 0x80, (byte - 0xC0) * 64 + 63)
    | 3 => (max ((byte - 0xE0) * 4096) 0x800, (byte - 0xE0) * 4096 + 4095)
    | 4 => (max ((byte - 0xF0) * 262144) 0x10000, (byte - 0xF0) * 262144 + 262143)
    | _ => (1, 0)

def leftOut (m : Members) : RangeSet :=
  if m.wide then m.codes.complement else (m.codes.union (startingWith m.bytes)).complement

end Members

/-- What a bracketed class lists, and whether the class is all that it leaves out. -/
structure Listed where
  members : Members
  negative : Bool
  deriving Repr, DecidableEq, Inhabited

namespace Listed

def set (l : Listed) : RangeSet := if l.negative then l.members.leftOut else l.members.codes

def nested (l : Listed) : Members := if l.negative then l.members.complement else l.members

end Listed

/-- A character or byte inside brackets; `single` says that it is written in one byte. -/
structure Value where
  code : Nat
  single : Bool
  deriving Repr, DecidableEq, Inhabited

def Value.ofCode (code : Nat) : Value := ⟨code, code < 0x80⟩

inductive BracketToken
  | value (v : Value)
  | close
  | hyphen
  | open
  | both
  | named (members : Members)
  deriving Repr, DecidableEq, Inhabited

def closeFollows : List Char → Bool
  | '\\' :: _ :: rest => closeFollows rest
  | c :: rest => c == ']' || closeFollows rest
  | [] => false

/-- A class name after `[:`, if the text has the form of one: letters up to `:]`, with `^` before
them if the class is turned round. -/
def className? (text : List Char) : Option (Bool × List Char × Rest) :=
  let (negative, text) := match text with
    | '^' :: rest => (true, rest)
    | _ => (false, text)
  let name := text.takeWhile Char.isAlpha
  match name, text.drop name.length with
  | _ :: _, ':' :: ']' :: rest => some (negative, name, rest)
  | _, _ => none

def namedClass (negative : Bool) (name : List Char) : Except Fault Members :=
  match Property.bracketClasses.lookup (.ofList name) with
  | some codes => .ok (.ofCodes (if negative then codes.complement else codes))
  | none => .error .badClassName

def readByteAgain (bases : List Nat) : List Char → Option (Nat × Rest)
  | '\\' :: 'x' :: rest =>
    match readHexEscape rest with
    | .ok (some (.byte value base), rest) => keep value base rest
    | _ => none
  | '\\' :: c :: rest =>
    if (octalDigit? c).isSome then
      match readOctalByte 3 (c :: rest) with
      | (.byte value base, rest) => keep value base rest
      | _ => none
    else none
  | _ => none
where
  keep (value base : Nat) (rest : Rest) : Option (Nat × Rest) :=
    if bases.contains base then some (value, rest) else none

def readTrail (bases : List Nat) : (count : Nat) → List Char → Except Fault (List Nat × Rest)
  | 0, text => .ok ([], text)
  | count + 1, text =>
    match readByteAgain bases text with
    | none => .error .badBytes
    | some (value, rest) => do
      if !isTrailByte value then throw .badBytes
      let (more, rest) ← readTrail bases count rest
      .ok (value :: more, rest)

/-- The character that a coded character inside brackets stands for. Its bytes are written in one
base. -/
def codedToken (coded : Coded) (rest : Rest) : Except Fault (BracketToken × Rest) :=
  match coded with
  | .code value => .ok (.value (.ofCode value), rest)
  | .byte first base =>
    if encodedLength first = 1 then .ok (.value ⟨first, true⟩, rest)
    else do
      let (trail, rest) ← readTrail [base] (encodedLength first - 1) rest
      .ok (.value ⟨codeOfBytes first trail, false⟩, rest)

def readBracketEscape (text : List Char) : Except Fault (BracketToken × Rest) :=
  let coded := fun (read : Option Coded × Rest) (letter : Char) =>
    match read with
    | (some c, rest) => codedToken c rest
    | (none, rest) => .ok (.value (.ofCode letter.toNat), rest)
  match text with
  | [] => .error .endAfterBackslash
  | c :: rest =>
    match Place.bracketed.classLetter? c with
    | some codes => .ok (.named (.ofCodes codes), rest)
    | none =>
      match c, rest with
      | 'p', '{' :: rest => property false rest
      | 'P', '{' :: rest => property true rest
      | 'x', _ => do coded (← readHexEscape rest) c
      | 'u', _ => do coded (← readShortCode rest) c
      | 'o', _ => do coded (← readOctalEscape rest) c
      | _, _ =>
        if (octalDigit? c).isSome then
          let (byte, rest) := readOctalByte 3 (c :: rest)
          codedToken byte rest
        else do
          let (code, rest) ← readCode (text.length + 1) text
          .ok (.value (.ofCode code), rest)
where
  property (negative : Bool) (rest : Rest) : Except Fault (BracketToken × Rest) := do
    let (codes, rest) ← Place.bracketed.readProperty negative rest
    .ok (.named (.ofCodes codes), rest)

def readBracketToken (text : List Char) : Except Fault (BracketToken × Rest) :=
  match text with
  | [] => .error .unclosedClass
  | ']' :: rest => .ok (.close, rest)
  | '-' :: rest => .ok (.hyphen, rest)
  | '\\' :: rest => readBracketEscape rest
  | '[' :: ':' :: rest =>
    match className? rest with
    | some (negative, name, rest) => do .ok (.named (← namedClass negative name), rest)
    | none => .ok (.open, ':' :: rest)
  | '[' :: rest => .ok (.open, rest)
  | '&' :: '&' :: rest => .ok (.both, rest)
  | c :: rest => .ok (.value (.ofCode c.toNat), rest)

inductive Pending
  | start
  | value (v : Value)
  | named
  | rangeFrom (v : Value)
  | done
  deriving Repr, DecidableEq, Inhabited

/-- A class as far as it has been read: the operands of `&&` before this one, this one, and what is
open. -/
structure BracketState where
  operands : List Members
  codes : List (Nat × Nat)
  bytes : List (Nat × Nat)
  wide : Bool
  sets : List Members
  pending : Pending
  deriving Repr, Inhabited

namespace BracketState

def initial : BracketState := ⟨[], [], [], false, [], .start⟩

/-- Adds what lies between two values: between two of one byte what takes one byte, and between two
of several bytes what takes several. -/
def addRange (s : BracketState) (low high : Value) : BracketState :=
  let lone := (max low.code 0x80, min high.code 0xFF)
  match low.single, high.single with
  | true, true =>
    { s with codes := (low.code, min high.code 0x7F) :: s.codes, bytes := lone :: s.bytes }
  | false, false =>
    { s with codes := (max low.code 0x80, min high.code lastCode) :: s.codes, wide := true }
  | _, _ =>
    { s with
      codes := (low.code, min high.code lastCode) :: s.codes
      bytes := lone :: s.bytes
      wide := true }

def flush (s : BracketState) : BracketState :=
  match s.pending with
  | .value v => s.addRange v v
  | _ => s

def current (s : BracketState) : Members :=
  s.sets.foldl Members.union ⟨.ofIntervals s.codes, .ofIntervals s.bytes, s.wide⟩

/-- Adds a value, which may end a range. Only there may its code be too large for a character. -/
def value (s : BracketState) (v : Value) : Except Fault BracketState :=
  match s.pending with
  | .rangeFrom low =>
    if v.code < low.code then .error .emptyRange
    else .ok { s.addRange low v with pending := .done }
  | _ =>
    if largestCode < v.code then .error .badCode else .ok { s.flush with pending := .value v }

def addClass (s : BracketState) (members : Members) : Except Fault BracketState :=
  match s.pending with
  | .rangeFrom _ => .error .badRangeEnd
  | _ => .ok { s.flush with sets := members :: s.sets, pending := .named }

def nested (s : BracketState) (members : Members) : BracketState :=
  { s.flush with sets := members :: s.sets, pending := .done }

def both (s : BracketState) : BracketState :=
  { initial with operands := s.flush.current :: s.operands }

/-- A hyphen before `next`: it opens a range after a value, and stands for itself elsewhere. -/
def hyphen (s : BracketState) (next : BracketToken) : Except Fault BracketState :=
  let itself := s.value (.ofCode '-'.toNat)
  match s.pending, next with
  | .value _, .close | .value _, .both => itself
  | .value v, _ => .ok { s with pending := .rangeFrom v }
  | .named, .close | .named, .both => itself
  | .named, _ => .error .badRangeStart
  | _, _ => itself

def finish (s : BracketState) : Members := s.operands.foldl Members.inter s.flush.current

end BracketState

mutual

def readBracket : (fuel : Nat) → List Char → Except Fault (Listed × Rest)
  | 0, _ => .error .tooDeep
  | fuel + 1, text => do
    let (negative, text) := match text with
      | '^' :: rest => (true, rest)
      | _ => (false, text)
    match text with
    | ']' :: rest =>
      if closeFollows rest then
        let state ← BracketState.initial.value (.ofCode ']'.toNat)
        let (members, rest) ← readListed fuel state rest
        .ok (⟨members, negative⟩, rest)
      else .error .emptyClass
    | _ =>
      let (members, rest) ← readListed fuel .initial text
      .ok (⟨members, negative⟩, rest)

def readListed : (fuel : Nat) → BracketState → List Char → Except Fault (Members × Rest)
  | 0, _, _ => .error .tooDeep
  | fuel + 1, state, text => do
    let (token, rest) ← readBracketToken text
    match token with
    | .close => .ok (state.finish, rest)
    | .value v => readListed fuel (← state.value v) rest
    | .named members => readListed fuel (← state.addClass members) rest
    | .both => readListed fuel state.both rest
    | .hyphen =>
      let (next, _) ← readBracketToken rest
      readListed fuel (← state.hyphen next) rest
    | .open =>
      let (inner, rest) ← readBracket fuel rest
      readListed fuel (state.nested inner.nested) rest

end

end Highlighting.Pattern
