import Highlighting.Decimal.Binary64

/-!
The shortest decimal that reads back as a binary number: of the decimals with the fewest digits
that round to the number, the nearest to it.
-/
namespace Highlighting

/-- The number `digits * 10 ^ exponent`. -/
structure Decimal where
  digits : Nat
  exponent : Int
  deriving Repr, DecidableEq, Inhabited

namespace Decimal

def trim (d : Decimal) : (fuel : Nat) → Decimal
  | 0 => d
  | fuel + 1 =>
    if d.digits ≠ 0 && d.digits % 10 == 0 then trim ⟨d.digits / 10, d.exponent + 1⟩ fuel else d

def text (d : Decimal) : List Char := Nat.toDigits 10 d.digits

/-- The number lies between this power of ten and a tenth of it. -/
def point (d : Decimal) : Int := d.text.length + d.exponent

end Decimal

namespace Binary64

/-- The reals that round to a number, in quarters of its last place. The ends belong to them if the
mantissa is even. -/
structure Reach where
  low : Nat
  middle : Nat
  high : Nat
  closed : Bool

def reach (x : Binary64) : Reach where
  low := if x.mantissa * 2 = mantissaBound && leastExponent < x.exponent then 4 * x.mantissa - 1
    else 4 * x.mantissa - 2
  middle := 4 * x.mantissa
  high := 4 * x.mantissa + 2
  closed := x.mantissa % 2 == 0

/-- The decimal with last place `10 ^ place` that reads back as the number and is nearest to it. -/
def onGrid? (x : Binary64) (place : Int) : Option Decimal :=
  let r := x.reach
  let quarters := fun n => n * Nat.pow 2 (x.exponent - 2).toNat * Nat.pow 10 (-place).toNat
  let unit := Nat.pow 10 place.toNat * Nat.pow 2 (2 - x.exponent).toNat
  let fits := fun c =>
    if r.closed then quarters r.low ≤ c * unit && c * unit ≤ quarters r.high
    else quarters r.low < c * unit && c * unit < quarters r.high
  let below := quarters r.middle / unit
  let above := below + 1
  let nearest := roundDiv (quarters r.middle) unit
  let pick :=
    if fits nearest then some nearest
    else if fits below then some below
    else if fits above then some above
    else none
  pick.map fun c => ⟨c, place⟩

def magnitude (x : Binary64) : Int :=
  let (num, den) := x.ratio
  if den ≤ num then (Nat.toDigits 10 (num / den)).length
  else
    match (List.range 400).find? fun n => den ≤ num * Nat.pow 10 n with
    | some n => 1 - (n : Int)
    | none => 0

def shortest (x : Binary64) : Decimal :=
  let top := x.magnitude
  match (List.range 17).findSome? fun n => x.onGrid? (top - (n + 1 : Nat)) with
  | some d => d.trim 400
  | none => ⟨0, 0⟩

/-- Writes a number: positional from `0.00001` to below `10 ^ 16` and never without a point, else
with an exponent. -/
def write (x : Binary64) : String :=
  let sign := if x.negative then ['-'] else []
  if x.isZero then String.ofList (sign ++ ['0', '.', '0'])
  else
    let d := x.shortest
    let digits := d.text
    let point := d.point
    let body :=
      if 0 ≤ d.exponent && point ≤ 16 then
        digits ++ List.replicate d.exponent.toNat '0' ++ ['.', '0']
      else if 0 < point && point ≤ 16 then
        digits.take point.toNat ++ '.' :: digits.drop point.toNat
      else if -5 < point && point ≤ 0 then
        '0' :: '.' :: List.replicate (-point).toNat '0' ++ digits
      else
        let exponent := 'e' :: (toString (point - 1)).toList
        match digits with
        | [only] => only :: exponent
        | first :: rest => first :: '.' :: rest ++ exponent
        | [] => exponent
    String.ofList (sign ++ body)

end Binary64

end Highlighting
