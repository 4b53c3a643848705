import Highlighting.Text.Words
import Highlighting.Unicode.RangeSet
import Highlighting.Yaml.Cursor

/-!
The text of scalars. Where a scalar goes over several lines, one line break counts as a blank and of
more the first is dropped; block scalars may keep them all.
-/
namespace Highlighting.Yaml

structure Gap where
  blanks : List Char := []
  /-- Whether there is a line break, after which blanks no longer count. -/
  broken : Bool := false
  first : List Char := []
  more : List Char := []
  deriving Repr, Inhabited

namespace Gap

def text (g : Gap) : List Char :=
  if !g.broken then g.blanks
  else if g.first.head? == some '\n' then (if g.more.isEmpty then [' '] else g.more)
  else g.first ++ g.more

/-- Takes blanks and line breaks. A tab to the left of `indent` must not begin a line. -/
def take (indent : Option Nat) : (fuel : Nat) → Gap → Cursor → Option (Gap × Cursor)
  | 0, g, c => some (g, c)
  | fuel + 1, g, c =>
    match c.next with
    | none => some (g, c)
    | some x =>
      if isBlank x then
        if g.broken && x == '\t' && indent.any (c.column < ·) then none
        else
          let g := if g.broken then g else { g with blanks := g.blanks ++ [x] }
          take indent fuel g (c.skip 1)
      else if isBreak x then
        let (text, c) := c.takeBreak
        if g.broken then take indent fuel { g with more := g.more ++ text } c
        else take indent fuel ⟨[], true, text, []⟩ c
      else some (g, c)

end Gap

def endsFlowWord (c : Char) : Bool := [',', '[', ']', '{', '}'].contains c

/-- A word of a plain scalar; none if a colon stands where none may. -/
def plainWord (flow : Bool) : List Char → Option (List Char)
  | [] => some []
  | x :: rest =>
    if isBlank x || isBreak x then some []
    else if flow && x == ':' && rest.head?.any fun y => endsFlowWord y || y == '?' then none
    else if x == ':' && endsWord rest.head? then some []
    else if flow && endsFlowWord x then some []
    else (x :: ·) <$> plainWord flow rest

/-- The text of a plain scalar that is indented at least to `indent`, and whether it ends in a line
break. -/
def readPlain (flow : Bool) (indent : Nat) :
    (fuel : Nat) → (done : List Char) → Gap → Cursor → Option (List Char × Bool × Cursor)
  | 0, done, gap, c => some (done, gap.broken, c)
  | fuel + 1, done, gap, c =>
    if c.atDocumentEdge || c.next == some '#' then some (done, gap.broken, c)
    else do
      let word ← plainWord flow c.rest
      if word.isEmpty then return (done, gap.broken, c)
      let done := done ++ gap.text ++ word
      let c := c.skip word.length
      if c.next.any fun x => isBlank x || isBreak x then
        let (gap, c) ← Gap.take (some indent) (c.rest.length + 1) {} c
        if !flow && c.column < indent then return (done, gap.broken, c)
        else readPlain flow indent fuel done gap c
      else return (done, false, c)

/-- How many digits an escape has, or the character that it stands for. -/
def escape? : Char → Option (Char ⊕ Nat)
  | '0' => some (.inl '\x00')
  | 'a' => some (.inl '\x07')
  | 'b' => some (.inl '\x08')
  | 't' | '\t' => some (.inl '\t')
  | 'n' => some (.inl '\n')
  | 'v' => some (.inl '\x0b')
  | 'f' => some (.inl '\x0c')
  | 'r' => some (.inl '\r')
  | 'e' => some (.inl '\x1b')
  | ' ' => some (.inl ' ')
  | '"' => some (.inl '"')
  | '/' => some (.inl '/')
  | '\\' => some (.inl '\\')
  | 'N' => some (.inl '\x85')
  | '_' => some (.inl '\xa0')
  | 'L' => some (.inl '\u2028')
  | 'P' => some (.inl '\u2029')
  | 'x' => some (.inr 2)
  | 'u' => some (.inr 4)
  | 'U' => some (.inr 8)
  | _ => none

def readEscape (c : Cursor) : Option (Char × Cursor) := do
  match ← escape? (← c.next) with
  | .inl x => return (x, c.skip 1)
  | .inr count =>
    let digits := (c.rest.drop 1).take count
    if digits.length ≠ count || digits.any fun d => (Unicode.hexDigit? d).isNone then none
    else
      let code := Unicode.hexValue digits
      if (0xD800 ≤ code && code ≤ 0xDFFF) || 0x10FFFF < code then none
      else return (Char.ofNat code, c.skip (1 + count))

/-- The characters of a quoted scalar up to a blank, a line break or the closing mark, and whether
they end in an escaped line break, which counts for nothing. -/
def quotedWord (single : Bool) :
    (fuel : Nat) → (done : List Char) → Cursor → Option (List Char × Bool × Cursor)
  | 0, done, c => some (done, false, c)
  | fuel + 1, done, c =>
    match c.next with
    | none => some (done, false, c)
    | some x =>
      if isBlank x || isBreak x then some (done, false, c)
      else if single then
        if x == '\'' then
          if c.ahead 1 == some '\'' then quotedWord single fuel (done ++ ['\'']) (c.skip 2)
          else some (done, false, c)
        else quotedWord single fuel (done ++ [x]) (c.skip 1)
      else if x == '"' then some (done, false, c)
      else if x == '\\' then
        if (c.ahead 1).any isBreak then some (done, true, (c.skip 1).takeBreak.2)
        else do
          let (y, c) ← readEscape (c.skip 1)
          quotedWord single fuel (done ++ [y]) c
      else quotedWord single fuel (done ++ [x]) (c.skip 1)

def readQuoted (single : Bool) :
    (fuel : Nat) → (done : List Char) → Cursor → Option (List Char × Cursor)
  | 0, _, _ => none
  | fuel + 1, done, c =>
    if c.atDocumentEdge || c.next.isNone then none
    else do
      let (word, broken, c) ← quotedWord single (c.rest.length + 1) [] c
      let done := done ++ word
      if c.next == some (if single then '\'' else '"') then return (done, c.skip 1)
      let (gap, c) ← Gap.take none (c.rest.length + 1) { broken := broken } c
      readQuoted single fuel (done ++ gap.text) c

/-- What becomes of the line breaks at the end of a block scalar. -/
inductive Chomp
  | strip
  | clip
  | keep
  deriving Repr, DecidableEq

structure BlockHeader where
  chomp : Chomp := .clip
  /-- How much further than its parent the scalar is indented, if that is said. -/
  indent : Option Nat := none
  deriving Repr

def chomp? : Char → Option Chomp
  | '+' => some .keep
  | '-' => some .strip
  | _ => none

def readIndent (c : Cursor) : Option (Option Nat × Cursor) :=
  match c.next.bind Words.digit? with
  | some 0 => none
  | some n => some (some n, c.skip 1)
  | none => some (none, c)

def readChomp (c : Cursor) : Option Chomp × Cursor :=
  match c.next.bind chomp? with
  | some chomp => (some chomp, c.skip 1)
  | none => (none, c)

def readBlockHeader (c : Cursor) : Option (BlockHeader × Cursor) := do
  match readChomp c with
  | (some chomp, c) =>
    let (indent, c) ← readIndent c
    return (⟨chomp, indent⟩, c)
  | (none, c) =>
    let (indent, c) ← readIndent c
    if indent.isSome then
      let (chomp, c) := readChomp c
      return (⟨chomp.getD .clip, indent⟩, c)
    else return ({}, c)

/-- Skips indentation and empty lines. Gives the line breaks and the deepest indentation; none if a
tab stands where the text could begin. -/
def blockBreaks (indent : Option Nat) :
    (fuel : Nat) → (done : List Char) → (deepest : Nat) → Cursor →
      Option (List Char × Nat × Cursor)
  | 0, done, deepest, c => some (done, deepest, c)
  | fuel + 1, done, deepest, c =>
    let room := indent.elim c.rest.length (· - c.column)
    let c := c.skip ((c.rest.take room).takeWhile (· == ' ')).length
    let deepest := max deepest c.column
    if indent.all (c.column < ·) && c.next == some '\t' then none
    else if c.next.any isBreak then
      let (text, c) := c.takeBreak
      blockBreaks indent fuel (done ++ text) deepest c
    else some (done, deepest, c)

/-- The lines of a block scalar that is indented to `indent`; `last` is the line break before them
and `breaks` those after it. -/
def blockLines (literal : Bool) (indent : Nat) :
    (fuel : Nat) → (done last breaks : List Char) → (leadingBlank : Bool) → Cursor →
      Option (List Char × List Char × List Char × Cursor)
  | 0, done, last, breaks, _, c => some (done, last, breaks, c)
  | fuel + 1, done, last, breaks, leadingBlank, c =>
    if c.column ≠ indent || c.next.isNone then some (done, last, breaks, c)
    else do
      let blank := c.next.any isBlank
      let join :=
        if !literal && last.head? == some '\n' && !leadingBlank && !blank then
          (if breaks.isEmpty then [' '] else [])
        else last
      let line := c.rest.takeWhile fun x => !isBreak x
      let done := done ++ join ++ breaks ++ line
      let (last, c) := (c.skip line.length).takeBreak
      let (breaks, _, c) ← blockBreaks (some indent) (c.rest.length + 1) [] 0 c
      blockLines literal indent fuel done last breaks blank c

/-- The text of a block scalar after its mark; `parent` is the indentation of what holds it, if
something does. -/
def readBlock (literal : Bool) (parent : Option Nat) (c : Cursor) :
    Option (List Char × Cursor) := do
  let (header, c) ← readBlockHeader c
  let c := (c.skipWhile isBlank).skipComment
  if c.next.any fun x => !isBreak x then none
  let c := c.takeBreak.2
  let given := header.indent.map fun n => parent.getD 0 + n
  let (breaks, deepest, c) ← blockBreaks given (c.rest.length + 1) [] 0 c
  let indent := given.getD (max (max deepest (parent.elim 0 (· + 1))) 1)
  let (text, last, breaks, c) ← blockLines literal indent (c.rest.length + 1) [] [] breaks false c
  return match header.chomp with
    | .strip => (text, c)
    | .clip => (text ++ last, c)
    | .keep => (text ++ last ++ breaks, c)

end Highlighting.Yaml
