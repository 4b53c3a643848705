import Highlighting.Yaml.Scalar
import Highlighting.Yaml.Token

/-!
From a YAML text to its tokens. That something was a key shows only at the colon behind it, so the
places where a key may have begun are kept.
-/
namespace Highlighting.Yaml

/-- A place where a key may have begun. -/
structure KeyPlace where
  /-- Whether only a key may stand here. -/
  required : Bool
  /-- The number of the token that a key begins with. -/
  token : Nat
  line : Nat
  column : Nat
  index : Nat
  deriving Repr, Inhabited

structure Lexer where
  cursor : Cursor
  tokens : Array Token := #[]
  /-- The key that may have begun at this level of brackets. -/
  place : Option KeyPlace := none
  /-- The same for the levels around it, innermost first. -/
  outer : List (Option KeyPlace) := []
  /-- How far the block at hand is indented, if there is one. -/
  indent : Option Nat := none
  /-- The same for the blocks around it, innermost first. -/
  indents : List (Option Nat) := []
  /-- Whether a key may begin here. -/
  keyAllowed : Bool := true
  deriving Repr, Inhabited

/-- Reads tokens; none if the text has none where some must be. -/
abbrev LexM := StateT Lexer Option

namespace Lexer

def inFlow (l : Lexer) : Bool := !l.outer.isEmpty

def emit (token : Token) : LexM Unit := modify fun l => { l with tokens := l.tokens.push token }

/-- Ends the blocks that are indented further than a column; all of them at the end. -/
def closeBlocks (column : Option Nat) : List (Option Nat) → Lexer → Lexer
  | [], l => l
  | outer :: rest, l =>
    if l.indent.any fun n => column.all (· < n) then
      closeBlocks column rest
        { l with indent := outer, indents := rest, tokens := l.tokens.push .blockEnd }
    else l

def unroll (column : Option Nat) : LexM Unit :=
  modify fun l => if l.inFlow then l else closeBlocks column l.indents l

/-- Begins a block if a column is indented further than the block at hand. The token goes before the
one with a number. -/
def roll (column : Nat) (token : Token) (number : Option Nat) : LexM Unit :=
  modify fun l =>
    if l.inFlow || !l.indent.all (· < column) then l
    else
      { l with
        indent := some column
        indents := l.indent :: l.indents
        tokens := l.tokens.insertIdxIfInBounds (number.getD l.tokens.size) token }

/-- Gives up the key that may have begun; none if it had to be one. -/
def dropKey : LexM Unit := do
  let l ← get
  if l.place.any (·.required) then failure
  set { l with place := none }

def noteKey : LexM Unit := do
  let l ← get
  if l.keyAllowed then
    dropKey
    modify fun l =>
      { l with
        place := some
          { required := !l.inFlow && l.indent == some l.cursor.column
            token := l.tokens.size
            line := l.cursor.line
            column := l.cursor.column
            index := l.cursor.index } }

/-- The key that has begun, if it is on one line and not too long. -/
def liveKey : LexM (Option KeyPlace) := do
  let l ← get
  match l.place with
  | none => return none
  | some place =>
    if place.line < l.cursor.line || place.index + 1024 < l.cursor.index then
      if place.required then failure
      set { l with place := none }
      return none
    else return some place

def allowKey (allowed : Bool) : LexM Unit := modify fun l => { l with keyAllowed := allowed }

def skip (count : Nat) : LexM Unit := modify fun l => { l with cursor := l.cursor.skip count }

/-- Skips blanks, comments and line breaks. After a line break a key may begin. -/
def skipToToken : (fuel : Nat) → Lexer → Lexer
  | 0, l => l
  | fuel + 1, l =>
    let c := l.cursor
    let c := if c.column == 0 && c.next == some '\ufeff' then c.skip 1 else c
    let tabs := l.inFlow || !l.keyAllowed
    let c := (c.skipWhile fun x => x == ' ' || (tabs && x == '\t')).skipComment
    if c.next.any isBreak then
      skipToToken fuel
        { l with cursor := c.takeBreak.2, keyAllowed := l.keyAllowed || !l.inFlow }
    else { l with cursor := c }

def mark (count : Nat) (token : Token) : LexM Unit := do
  skip count
  emit token

def documentMark (token : Token) : LexM Unit := do
  unroll none
  dropKey
  allowKey false
  mark 3 token

def directive : LexM Unit := do
  unroll none
  dropKey
  allowKey false
  let (token, c) ← (readDirective (← get).cursor : Option _)
  modify fun l => { l with cursor := c }
  emit token

def openFlow (token : Token) : LexM Unit := do
  noteKey
  modify fun l => { l with outer := l.place :: l.outer, place := none }
  allowKey true
  mark 1 token

def closeFlow (token : Token) : LexM Unit := do
  dropKey
  modify fun l =>
    match l.outer with
    | [] => l
    | place :: outer => { l with place := place, outer := outer }
  allowKey false
  mark 1 token

def flowEntry : LexM Unit := do
  dropKey
  allowKey true
  mark 1 .flowEntry

def beginBlock (token : Token) : LexM Unit := do
  let l ← get
  if !l.inFlow then
    if !l.keyAllowed then failure
    roll l.cursor.column token none

def blockEntry : LexM Unit := do
  beginBlock .blockSequence
  dropKey
  allowKey true
  mark 1 .blockEntry

def key : LexM Unit := do
  beginBlock .blockMapping
  dropKey
  allowKey !(← get).inFlow
  mark 1 .key

def value : LexM Unit := do
  match ← liveKey with
  | some place =>
    modify fun l =>
      { l with
        place := none
        tokens := l.tokens.insertIdxIfInBounds place.token .key }
    roll place.column .blockMapping (some place.token)
    allowKey false
  | none =>
    beginBlock .blockMapping
    allowKey !(← get).inFlow
  mark 1 .value

def anchor (token : List Char → Token) : LexM Unit := do
  noteKey
  allowKey false
  let (name, c) ← (readAnchor ((← get).cursor.skip 1) : Option _)
  modify fun l => { l with cursor := c }
  emit (token name)

def tag : LexM Unit := do
  noteKey
  allowKey false
  let l ← get
  let (token, c) ← (readTag l.inFlow l.cursor : Option _)
  modify fun l => { l with cursor := c }
  emit token

def blockScalar (literal : Bool) : LexM Unit := do
  dropKey
  allowKey true
  let l ← get
  let (text, c) ← (readBlock literal l.indent (l.cursor.skip 1) : Option _)
  modify fun l => { l with cursor := c }
  emit (.scalar false text)

def quotedScalar (single : Bool) : LexM Unit := do
  noteKey
  allowKey false
  let c := (← get).cursor.skip 1
  let (text, c) ← (readQuoted single (c.rest.length + 1) [] c : Option _)
  modify fun l => { l with cursor := c }
  emit (.scalar false text)

def plainScalar : LexM Unit := do
  noteKey
  allowKey false
  let l ← get
  let c := l.cursor
  let indent := l.indent.elim 0 (· + 1)
  let (text, broken, c) ←
    (readPlain l.inFlow indent (c.rest.length + 1) [] {} c : Option _)
  modify fun l => { l with cursor := c, keyAllowed := l.keyAllowed || broken }
  emit (.scalar true text)

def isMark (c : Char) : Bool :=
  ['-', '?', ':', ',', '[', ']', '{', '}', '#', '&', '*', '!', '|', '>', '\'', '"', '%', '@',
    '\x60'].contains c

def atPlain (l : Lexer) (x : Char) : Bool :=
  let next := l.cursor.ahead 1
  (!isMark x && !isBlank x) || (x == '-' && next.all fun y => !isBlank y) ||
    (!l.inFlow && (x == '?' || x == ':') && !endsWord next)

def endStream : LexM Unit := do
  unroll none
  dropKey
  emit .streamEnd

def token (x : Char) : LexM Unit := do
  let l ← get
  let c := l.cursor
  let alone := endsWord (c.ahead 1)
  if c.column == 0 && x == '%' then directive
  else if c.atMarks '-' then documentMark .documentStart
  else if c.atMarks '.' then documentMark .documentEnd
  else if x == '[' then openFlow .flowSequence
  else if x == '{' then openFlow .flowMapping
  else if x == ']' then closeFlow .flowSequenceEnd
  else if x == '}' then closeFlow .flowMappingEnd
  else if x == ',' then flowEntry
  else if x == '-' && alone then blockEntry
  else if x == '?' && (l.inFlow || alone) then key
  else if x == ':' && (l.inFlow || alone) then value
  else if x == '*' then anchor .alias
  else if x == '&' then anchor .anchor
  else if x == '!' then tag
  else if x == '|' && !l.inFlow then blockScalar true
  else if x == '>' && !l.inFlow then blockScalar false
  else if x == '\'' then quotedScalar true
  else if x == '"' then quotedScalar false
  else if l.atPlain x then plainScalar
  else failure

def all : (fuel : Nat) → LexM Unit
  | 0 => failure
  | fuel + 1 => do
    modify fun l => skipToToken (l.cursor.rest.length + 1) l
    let _ ← liveKey
    let l ← get
    unroll (some l.cursor.column)
    match l.cursor.next with
    | none => endStream
    | some x =>
      token x
      all fuel

end Lexer

def tokens? (text : List Char) : Option (List Token) :=
  if text.all isAllowed then do
    let (_, l) ← (Lexer.all (text.length + 1)).run { cursor := { rest := text } }
    return l.tokens.toList
  else none

end Highlighting.Yaml
