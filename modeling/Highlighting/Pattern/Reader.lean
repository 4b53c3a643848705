import Highlighting.Pattern.Folding

/-!
Reading a pattern. The reader keeps the rest of the text together with the groups, names and calls
met so far; it is bounded by the length of the text.
-/
namespace Highlighting.Pattern

open Unicode

structure Options where
  ignoreCase : Bool := false
  /-- A dot takes a line feed too. -/
  dotAll : Bool := false
  /-- Blanks and comments are passed over. -/
  extended : Bool := false
  deriving Repr, DecidableEq, Inhabited

inductive Aim
  | number (group : Nat)
  | name (name : String)
  deriving Repr, DecidableEq, Inhabited

structure Progress where
  rest : List Char
  groupCount : Nat := 0
  /-- The groups whose closing bracket has been read. -/
  closed : List Nat := []
  /-- Names with their groups, in the order of definition. -/
  names : List (String × List Nat) := []
  calls : List Aim := []
  /-- Whether a group is referred to by its number. -/
  numbered : Bool := false
  deriving Repr, Inhabited

def Progress.isWithin (p : Progress) (groups : List Nat) : Bool :=
  groups.any fun group => group ≤ p.groupCount && !p.closed.contains group

abbrev ReadM := StateT Progress (Except Fault)

def rest : ReadM (List Char) := do return (← get).rest

def setRest (text : List Char) : ReadM Unit := modify fun p => { p with rest := text }

def readWith {α : Type} (read : List Char → Except Fault (α × Rest)) : ReadM α := do
  let (value, text) ← (read (← rest) : Except Fault _)
  setRest text
  return value

def Options.code (o : Options) (code : Nat) : Node := .text [code] o.ignoreCase

def Options.char (o : Options) (c : Char) : Node := o.code c.toNat

def Options.listed (o : Options) (l : Listed) : Node :=
  if o.ignoreCase then foldedClass l else .one l.set

def skipComment : List Char → Except Fault (List Char)
  | [] => .error .endInGroup
  | ')' :: rest => .ok rest
  | '\\' :: _ :: rest => skipComment rest
  | _ :: rest => skipComment rest

def skipIgnored (extended : Bool) : (fuel : Nat) → List Char → Except Fault (List Char)
  | fuel + 1, '(' :: '?' :: '#' :: rest => do
    skipIgnored extended fuel (← skipComment rest)
  | fuel + 1, c :: rest =>
    if extended && (c = ' ' || c = '\t' || c = '\n' || c = '\r' || c.toNat = 12) then
      skipIgnored extended fuel rest
    else if extended && c = '#' then
      skipIgnored extended fuel ((rest.dropWhile (· ≠ '\n')).drop 1)
    else .ok (c :: rest)
  | _, text => .ok text

def skip (o : Options) : ReadM Unit := do
  let text ← rest
  setRest (← (skipIgnored o.extended (text.length + 1) text : Except Fault _))

structure Repeat where
  least : Nat
  most : Option Nat
  greedy : Bool := true
  possessive : Bool := false
  deriving Repr, DecidableEq, Inhabited

namespace Repeat

/-- The repeats that are written by one sign, with or without a question mark. -/
inductive Sign
  | option
  | star
  | plus
  deriving Repr, DecidableEq, Inhabited

def sign? (least : Nat) (most : Option Nat) : Option Sign :=
  match least, most with
  | 0, some 1 => some .option
  | 0, none => some .star
  | 1, none => some .plus
  | _, _ => none

/-- The one loop that a loop of a loop comes to: its least rounds, its most and its greed. -/
def merged? (inner : Sign) (innerGreedy : Bool) (outer : Sign) (outerGreedy : Bool) :
    Option (Nat × Option Nat × Bool) :=
  match inner, innerGreedy, outer, outerGreedy with
  | .option, true, .option, true => some (0, some 1, true)
  | .option, true, .option, false | .option, false, .option, _ => some (0, some 1, false)
  | .option, true, .plus, false => none
  | .option, true, _, true => some (0, none, true)
  | .option, _, _, _ => some (0, none, false)
  | .star, true, _, true | .star, true, .plus, false => some (0, none, true)
  | .star, true, _, false => none
  | .star, false, _, _ => some (0, none, false)
  | .plus, true, .plus, _ => some (1, none, true)
  | .plus, true, _, true => some (0, none, true)
  | .plus, true, _, false => none
  | .plus, false, .plus, greedy => some (1, none, greedy)
  | .plus, false, .star, true => some (0, none, true)
  | .plus, false, .option, true => none
  | .plus, false, _, false => some (0, none, false)

def loop (r : Repeat) (body : Node) : Node :=
  match body with
  | .loop inner least most greedy _ =>
    match sign? least most, sign? r.least r.most with
    | some sign, some sign' =>
      match merged? sign greedy sign' r.greedy with
      | some (least, most, greedy) => .loop inner least most greedy []
      | none => .loop body r.least r.most r.greedy []
    | _, _ => .loop body r.least r.most r.greedy []
  | _ => .loop body r.least r.most r.greedy []

def apply (r : Repeat) (body : Node) : Node :=
  if r.possessive then .atomic (r.loop body) else r.loop body

end Repeat

def largestCount : Nat := 100000

/-- Reads what follows an opening brace as a count; a text of another form stands for itself. -/
def readCount (text : List Char) : Except Fault (Option (Repeat × Rest)) :=
  let (lowDigits, low, afterLow) := readNumber text
  if low > largestCount then .error .countTooLarge
  else
    match afterLow with
    | ',' :: afterComma =>
      let (highDigits, high, afterHigh) := readNumber afterComma
      if high > largestCount then .error .countTooLarge
      else if lowDigits = 0 && highDigits = 0 then .ok none
      else
        match afterHigh with
        | '}' :: rest =>
          if highDigits = 0 then .ok (some (lazily ⟨low, none, true, false⟩ rest))
          else if high < low then .ok (some (⟨high, some low, true, true⟩, rest))
          else .ok (some (lazily ⟨low, some high, true, false⟩ rest))
        | _ => .ok none
    | '}' :: rest =>
      if lowDigits = 0 then .ok none else .ok (some (⟨low, some low, true, false⟩, rest))
    | _ => .ok none
where
  lazily (r : Repeat) : List Char → Repeat × Rest
    | '?' :: rest => ({ r with greedy := false }, rest)
    | rest => (r, rest)

def readRepeat (text : List Char) : Except Fault (Option (Repeat × Rest)) :=
  match text with
  | '*' :: rest => .ok (some (suffix 0 none rest))
  | '+' :: rest => .ok (some (suffix 1 none rest))
  | '?' :: rest => .ok (some (suffix 0 (some 1) rest))
  | '{' :: rest => readCount rest
  | _ => .ok none
where
  suffix (least : Nat) (most : Option Nat) : List Char → Repeat × Rest
    | '?' :: rest => (⟨least, most, false, false⟩, rest)
    | '+' :: rest => (⟨least, most, true, true⟩, rest)
    | rest => (⟨least, most, true, false⟩, rest)

/-- Applies the repeats that follow a node. One round exactly is no repeat, but a text after it is
not repeated as a `whole` any more: its last character is. -/
def readRepeats (o : Options) : (fuel : Nat) → (whole : Bool) → Node → ReadM Node
  | 0, _, _ => throw .tooDeep
  | fuel + 1, whole, node => do
    skip o
    match ← (readRepeat (← rest) : Except Fault _) with
    | none => return node
    | some (r, text) =>
      if node.isPlace then throw .nothingToRepeat
      setRest text
      if r.least = 1 && r.most = some 1 then readRepeats o fuel false node
      else
        match whole, node with
        | false, .text (first :: second :: codes) fold =>
          let all := first :: second :: codes
          let last := r.apply (.text (all.drop (all.length - 1)) fold)
          return .seq (.text all.dropLast fold) (← readRepeats o fuel false last)
        | _, _ => readRepeats o fuel false (r.apply node)

/-- A name or number between an opening sign and `close`. Its first character may also be a closing
bracket. -/
def readReference (close : Char) (text : List Char) : Except Fault (String × Rest) :=
  match text with
  | [] => .error .badName
  | first :: text =>
    let more := text.takeWhile fun c => c ≠ close && c ≠ ')'
    match text.drop more.length with
    | c :: rest =>
      if first ≠ close && c = close then .ok (.ofList (first :: more), rest) else .error .badName
    | [] => .error .badName

def closeOf? : Char → Option Char
  | '<' => some '>'
  | '\'' => some '\''
  | _ => none

/-- Whether a group can have the name: it must not look like a number. -/
def isName (name : String) : Bool :=
  match name.toList with
  | c :: _ => !isDigit c && c ≠ '-' && c ≠ '+'
  | [] => false

/-- A reference by number: absolute, or relative to the groups opened so far. -/
def referenceNumber? (groupCount : Nat) (name : List Char) : Option (Except Fault Nat) :=
  let digits := fun (ds : List Char) (use : Nat → Except Fault Nat) =>
    if ds.isEmpty || !ds.all isDigit then .error .badName else use (readNumber ds).2.1
  match name with
  | '-' :: ds =>
    some <| digits ds fun n =>
      if n = 0 then .error .badName
      else if n ≤ groupCount then .ok (groupCount + 1 - n)
      else .error .undefinedGroup
  | '+' :: ds => some <| digits ds fun n => if n = 0 then .error .badName else .ok (groupCount + n)
  | c :: _ => if isDigit c then some (digits name .ok) else none
  | [] => none

/-- A reference back to the groups, of which the last that took a text counts. -/
def Options.backRef (o : Options) (groups : List Nat) : ReadM Node := do
  return .backRef groups o.ignoreCase ((← get).isWithin groups)

/-- Reads a reference back by name or number, after `\k`. A sign inside the name would ask for a
depth of calls, which is not supported. -/
def readBackReference (o : Options) (close : Char) : ReadM Node := do
  let name ← readWith (readReference close)
  if (name.toList.drop 1).any fun c => c = '+' || c = '-' then throw .unsupported
  let p ← get
  match referenceNumber? p.groupCount name.toList with
  | some number =>
    let group ← (number : Except Fault _)
    if group = 0 then throw .undefinedGroup
    set { p with numbered := true }
    o.backRef [group]
  | none =>
    match p.names.lookup name with
    | some groups => o.backRef groups
    | none => throw .undefinedName

def readCall (close : Char) : ReadM Node := do
  let name ← readWith (readReference close)
  let p ← get
  let aim ← match referenceNumber? p.groupCount name.toList with
    | some number => do
      set { p with numbered := true }
      pure (Aim.number (← (number : Except Fault _)))
    | none => pure (Aim.name name)
  modify fun p => { p with calls := p.calls ++ [aim] }
  return .call p.calls.length

/-- The character that a coded character stands for; the bytes of one character are written one
after the other. Bytes that encode no character are never found. -/
def readCoded (o : Options) (coded : Coded) : ReadM Node :=
  match coded with
  | .code value => if isCodeNumber value then return o.code value else throw .badCode
  | .byte first _ => do
    if isTrailByte first then throw .badBytes
    let trail ← readWith (readTrail [8, 16] (encodedLength first - 1))
    let code := codeOfBytes first trail
    return o.code (if isShortest code trail.length then code else Node.noCode)

def readDigitEscape (o : Options) (c : Char) (text : Rest) : ReadM Node := do
  let (_, number, after) := readNumber (c :: text)
  let p ← get
  if c ≠ '0' && number ≤ 1000 && (number ≤ p.groupCount || number ≤ 9) then
    set { p with rest := after, numbered := true }
    o.backRef [number]
  else if c = '8' || c = '9' then
    setRest text
    return o.char c
  else
    let (coded, after) :=
      if c = '0' then readOctalByte 2 text else readOctalByte 3 (c :: text)
    setRest after
    readCoded o coded

def notNewline : RangeSet := (RangeSet.singleton 10).complement

def letterNode? : Char → Option Node
  | 'b' => some (.edge .wordEdge)
  | 'B' => some (.edge .notWordEdge)
  | 'A' => some (.edge .textStart)
  | 'Z' => some (.edge .lastLineEnd)
  | 'z' => some (.edge .textEnd)
  | 'G' => some (.edge .searchStart)
  | 'K' => some .keep
  | 'R' => some .newline
  | 'N' => some (.one notNewline)
  | 'O' => some (.one .all)
  | c => (Place.bare.classLetter? c).map .one

def readEscape (o : Options) : ReadM Node := do
  let text ← rest
  match text with
  | [] => throw .endAfterBackslash
  | c :: after =>
    match letterNode? c with
    | some node => do setRest after; return node
    | none =>
      match c, after with
      | 'p', '{' :: after => do setRest after; property false
      | 'P', '{' :: after => do setRest after; property true
      | 'k', quote :: after =>
        match closeOf? quote with
        | some close => do setRest after; readBackReference o close
        | none => literal c (quote :: after)
      | 'g', quote :: after =>
        match closeOf? quote with
        | some close => do setRest after; readCall close
        | none => literal c (quote :: after)
      | 'X', _ => throw .unsupported
      | 'y', _ => throw .unsupported
      | 'Y', _ => throw .unsupported
      | 'x', _ => coded c after readHexEscape
      | 'u', _ => coded c after readShortCode
      | 'o', _ => coded c after readOctalEscape
      | _, _ =>
        if isDigit c then readDigitEscape o c after
        else do
          let code ← readWith (readCode (text.length + 1))
          readCoded o (.code code)
where
  literal (c : Char) (after : Rest) : ReadM Node := do
    setRest after
    return o.char c
  property (negative : Bool) : ReadM Node := do
    return .one (← readWith (Place.bare.readProperty negative))
  coded (c : Char) (after : Rest) (read : List Char → Except Fault (Option Coded × Rest)) :
      ReadM Node := do
    setRest after
    match ← readWith read with
    | some value => readCoded o value
    | none => return o.char c

/-- How the options of a group end: for the rest of the group around it, or for a group of their
own. -/
inductive OptionScope
  | toEnd
  | own
  deriving Repr, DecidableEq

def readOptions (negative : Bool) (o : Options) :
    List Char → Except Fault ((Options × OptionScope) × Rest)
  | ')' :: rest => .ok ((o, .toEnd), rest)
  | ':' :: rest => .ok ((o, .own), rest)
  | '-' :: rest => readOptions true o rest
  | 'i' :: rest => readOptions negative { o with ignoreCase := !negative } rest
  | 'm' :: rest => readOptions negative { o with dotAll := !negative } rest
  | 'x' :: rest => readOptions negative { o with extended := !negative } rest
  | [] => .error .endInGroup
  | _ => .error .unknownOption

def openGroup (name : Option String) : ReadM Nat := do
  let p ← get
  let group := p.groupCount + 1
  let names := match name with
    | none => p.names
    | some name =>
      if (p.names.lookup name).isSome then
        p.names.map fun (n, groups) => (n, if n = name then groups ++ [group] else groups)
      else p.names ++ [(name, [group])]
  set { p with groupCount := group, names }
  return group

def closeGroup : ReadM Unit := do
  match ← rest with
  | ')' :: text => setRest text
  | _ => throw .unclosedGroup

mutual

def readAlternatives : (fuel : Nat) → Options → ReadM Node
  | 0, _ => throw .tooDeep
  | fuel + 1, o => do
    let first ← readBranch fuel o []
    match ← rest with
    | '|' :: text =>
      setRest text
      return .alt first (← readAlternatives fuel o)
    | _ => return first

/-- Reads one alternative; `done` are the items before, reversed. -/
def readBranch : (fuel : Nat) → Options → List Node → ReadM Node
  | 0, _, _ => throw .tooDeep
  | fuel + 1, o, done => do
    skip o
    let text ← rest
    match text with
    | [] => return .branch done.reverse
    | '|' :: _ => return .branch done.reverse
    | ')' :: _ => return .branch done.reverse
    | _ =>
      let item ← readItem fuel o
      let item ← readRepeats o (text.length + 1) true item
      readBranch fuel o (item :: done)

def readItem : (fuel : Nat) → Options → ReadM Node
  | 0, _ => throw .tooDeep
  | fuel + 1, o => do
    match ← rest with
    | [] => return .empty
    | '(' :: text =>
      setRest text
      readGroup fuel o
    | '[' :: text =>
      setRest text
      return o.listed (← readWith (readBracket (2 * text.length + 2)))
    | '\\' :: text =>
      setRest text
      readEscape o
    | c :: text =>
      if (← (readRepeat (c :: text) : Except Fault _)).isSome then throw .nothingToRepeat
      setRest text
      match c with
      | '.' => return .one (if o.dotAll then .all else notNewline)
      | '^' => return .edge .lineStart
      | '$' => return .edge .lineEnd
      | _ => return o.char c

def readGroup : (fuel : Nat) → Options → ReadM Node
  | 0, _ => throw .tooDeep
  | fuel + 1, o => do
    match ← rest with
    | '?' :: ':' :: text => plain fuel o text Node.bracketed
    | '?' :: '=' :: text => plain fuel o text (.ahead false)
    | '?' :: '!' :: text => plain fuel o text (.ahead true)
    | '?' :: '>' :: text => plain fuel o text .atomic
    | '?' :: '<' :: '=' :: text => plain fuel o text fun body => .behind false body 0 none
    | '?' :: '<' :: '!' :: text => plain fuel o text fun body => .behind true body 0 none
    | '?' :: '<' :: text => named fuel o '>' text
    | '?' :: '\'' :: text => named fuel o '\'' text
    | '?' :: '~' :: _ => throw .unsupported
    | '?' :: '(' :: _ => throw .unsupported
    | '?' :: '{' :: _ => throw .unsupported
    | ['?'] => throw .endInGroup
    | '?' :: ')' :: _ => throw .unknownGroup
    | '?' :: text =>
      setRest text
      let (inner, ends) ← readWith (readOptions false o)
      match ends with
      | .own => do
        let body ← readAlternatives fuel inner
        closeGroup
        return .inner true body
      | .toEnd => return .inner true (← readAlternatives fuel inner)
    | '*' :: _ => throw .unsupported
    | text => capture fuel o none text

def plain : (fuel : Nat) → Options → List Char → (Node → Node) → ReadM Node
  | 0, _, _, _ => throw .tooDeep
  | fuel + 1, o, text, wrap => do
    setRest text
    let body ← readAlternatives fuel o
    closeGroup
    return wrap body

def named : (fuel : Nat) → Options → Char → List Char → ReadM Node
  | 0, _, _, _ => throw .tooDeep
  | fuel + 1, o, close, text => do
    setRest text
    let name ← readWith (readReference close)
    if !isName name then throw .badName
    capture fuel o (some name) (← rest)

def capture : (fuel : Nat) → Options → Option String → List Char → ReadM Node
  | 0, _, _, _ => throw .tooDeep
  | fuel + 1, o, name, text => do
    setRest text
    let group ← openGroup name
    let body ← readAlternatives fuel o
    closeGroup
    modify fun p => { p with closed := group :: p.closed }
    return .group group body

end

end Highlighting.Pattern
