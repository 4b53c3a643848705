/-!
Binary numbers of 53 digits and a bounded exponent, and the nearest of them to a ratio. All of it is
exact arithmetic on natural numbers.
-/
namespace Highlighting

/-- The number `mantissa * 2 ^ exponent`, or its negative. -/
structure Binary64 where
  negative : Bool
  mantissa : Nat
  exponent : Int
  deriving Repr, DecidableEq, Inhabited

namespace Binary64

def leastExponent : Int := -1074

def greatestExponent : Int := 971

def mantissaBound : Nat := Nat.pow 2 53

def zero (negative : Bool) : Binary64 := ⟨negative, 0, leastExponent⟩

def isZero (x : Binary64) : Bool := x.mantissa == 0

def ratio (x : Binary64) : Nat × Nat :=
  (x.mantissa * Nat.pow 2 x.exponent.toNat, Nat.pow 2 (-x.exponent).toNat)

/-- The integer nearest to a quotient; a tie goes to the even one. -/
def roundDiv (num den : Nat) : Nat :=
  let q := num / den
  let twice := 2 * (num % den)
  if den < twice || (den == twice && q % 2 == 1) then q + 1 else q

def scaled (num den : Nat) (exponent : Int) : Nat :=
  roundDiv (num * Nat.pow 2 (-exponent).toNat) (den * Nat.pow 2 exponent.toNat)

/-- The nearest number to `num / den`, a tie going to the even mantissa; none where that would be
too large. -/
def ofRatio (num den : Nat) : Option Binary64 :=
  if num = 0 || den = 0 then some (zero false)
  else
    let guess : Int := (Nat.log2 num : Int) - (Nat.log2 den : Int) - 53
    let low := max leastExponent guess
    let floor := num * Nat.pow 2 (-low).toNat / (den * Nat.pow 2 low.toNat)
    let exponent := if mantissaBound ≤ floor then low + 1 else low
    let mantissa := scaled num den exponent
    let x : Binary64 :=
      if mantissa = mantissaBound then ⟨false, mantissaBound / 2, exponent + 1⟩
      else ⟨false, mantissa, exponent⟩
    if greatestExponent < x.exponent then none else some x

def ofNat (n : Nat) : Option Binary64 := ofRatio n 1

def tenTo (n : Nat) : Option Binary64 := ofNat (Nat.pow 10 n)

def mul (x y : Binary64) : Option Binary64 :=
  let (a, b) := x.ratio
  let (c, d) := y.ratio
  ofRatio (a * c) (b * d)

def div (x y : Binary64) : Option Binary64 :=
  let (a, b) := x.ratio
  let (c, d) := y.ratio
  ofRatio (a * d) (b * c)

def withSign (negative : Bool) (x : Binary64) : Binary64 := { x with negative := negative }

end Binary64

end Highlighting
