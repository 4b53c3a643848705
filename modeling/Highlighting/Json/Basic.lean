import Highlighting.Decimal.Binary64
import Highlighting.Text.Words

/-! JSON as it is written: objects keep their entries in order, repeated keys included. -/
namespace Highlighting

/-- Numbers of 64 bits: an integer if it is written as one and fits, else a binary fraction. -/
inductive Number
  | natural (n : Nat)
  /-- The negative of `n`. -/
  | negative (n : Nat)
  | real (x : Binary64)
  deriving Repr, DecidableEq, Inhabited

inductive Json
  | null
  | bool (b : Bool)
  | number (n : Number)
  | string (s : String)
  | array (items : List Json)
  | object (entries : List (String × Json))
  /-- Well written, but no value: a number too large for 64 bits, or text or a key with half of a
  surrogate pair. -/
  | unusable
  deriving Repr, Inhabited

structure Numeral where
  negative : Bool
  whole : List Char
  fraction : Option (List Char)
  /-- Whether the exponent is negative, and its digits. -/
  exponent : Option (Bool × List Char)
  deriving Repr, DecidableEq, Inhabited

namespace Numeral

open Words (largest digit?)

/-- Reads digits into `n` for as long as 64 bits hold them; counts those that were read. -/
def absorb (n count : Nat) : List Char → Nat × Nat
  | [] => (n, count)
  | c :: rest =>
    let next := 10 * n + (digit? c).getD 0
    if next ≤ largest then absorb next (count + 1) rest else (n, count)

/-- A number times a power of ten. Each step rounds; none where the number grows too large. -/
def scale (x : Binary64) (power : Int) : (steps : Nat) → Option Binary64
  | 0 => some (.zero false)
  | steps + 1 =>
    if power.natAbs ≤ 308 then do
      let ten ← Binary64.tenTo power.natAbs
      if 0 ≤ power then x.mul ten else x.div ten
    else if x.isZero then some x
    else if 0 ≤ power then none
    else do scale (← x.div (← Binary64.tenTo 308)) (power + 308) steps

/-- The number that is meant, if 64 bits hold it. Digits after those that fit 64 bits count only for
their place. -/
def value? (n : Numeral) : Option Number :=
  let (whole, taken) := absorb 0 0 n.whole
  let skipped := n.whole.length - taken
  if skipped = 0 && n.fraction.isNone && n.exponent.isNone then
    if !n.negative then some (.natural whole)
    else if whole = 0 then some (.real (.zero true))
    else if whole ≤ Nat.pow 2 63 then some (.negative whole)
    else (Binary64.ofNat whole).map fun x => .real (x.withSign true)
  else
    let (digits, places) := absorb whole 0 (n.fraction.getD [])
    let power : Int := (skipped : Int) - (places : Int)
    let (down, exponent) := match n.exponent with
      | some (down, text) => (down, ((Words.digits? text).getD 0 : Nat))
      | none => (false, 0)
    let x : Option Binary64 :=
      if Nat.pow 2 31 ≤ exponent then
        if digits ≠ 0 && !down then none else some (.zero false)
      else do
        scale (← Binary64.ofNat digits) (if down then power - exponent else power + exponent) 4
    x.map fun x => .real (x.withSign n.negative)

end Numeral

namespace Json

/-- Puts an entry where its key belongs in ascending order, in place of one with that key. -/
def insertKey (key : String) (value : Json) : List (String × Json) → List (String × Json)
  | [] => [(key, value)]
  | (k, v) :: rest =>
    if key = k then (key, value) :: rest
    else if key < k then (key, value) :: (k, v) :: rest
    else (k, v) :: insertKey key value rest

mutual

/-- The value that is meant, if there is one and its containers nest at most `depth` deep: of
entries with the same key the last counts, and keys ascend. -/
def value? (depth : Nat) : Json → Option Json
  | .unusable => none
  | .array items =>
    match depth with
    | 0 => none
    | depth + 1 => Json.array <$> values? depth items
  | .object entries =>
    match depth with
    | 0 => none
    | depth + 1 => Json.object <$> entries? depth [] entries
  | json => some json

def values? (depth : Nat) : List Json → Option (List Json)
  | [] => some []
  | item :: rest => do
    let item ← item.value? depth
    return item :: (← values? depth rest)

def entries? (depth : Nat) (done : List (String × Json)) :
    List (String × Json) → Option (List (String × Json))
  | [] => some done
  | (key, value) :: rest => do
    let value ← value.value? depth
    entries? depth (insertKey key value done) rest

end

def natural? : Json → Option Nat
  | .number (.natural n) => some n
  | _ => none

def string? : Json → Option String
  | .string s => some s
  | _ => none

def items? : Json → Option (List Json)
  | .array items => some items
  | _ => none

def entriesOf? : Json → Option (List (String × Json))
  | .object entries => some entries
  | _ => none

/-- The value of a key that is written once. -/
def field? (json : Json) (key : String) : Option Json := do
  (← json.entriesOf?).lookup key

end Json

end Highlighting
