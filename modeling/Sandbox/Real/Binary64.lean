-- SUMMARY: Non-negative binary floating-point numbers of 53 bits, with exact rounding.

/-!
# Binary floating point

The non-negative finite numbers of the 64-bit binary format, each a significand
below `2 ^ 53` times a power of two. Rounding goes to the nearest, a tie to the
even significand, and is computed exactly on ratios of naturals; an operation
whose result would be too large has none.
-/

namespace Sandbox.Real

/-- The number `significand * 2 ^ exponent`. -/
structure Binary64 where
  significand : Nat
  exponent : Int
  deriving DecidableEq, Repr

namespace Binary64

/-- The exponent of the numbers nearest to zero, and the greatest exponent. -/
def leastExponent : Int := -1074
def greatestExponent : Int := 971

/-- Significands stay below this power of two. -/
def significandLimit : Nat := 1 <<< 53

def zero : Binary64 := ⟨0, leastExponent⟩

def isZero (b : Binary64) : Bool := b.significand = 0

/-- The integer nearest to `num / den`, the even one of two. -/
def roundQuotient (num den : Nat) : Nat :=
  let q := num / den
  let twice := 2 * (num % den)
  if twice < den then q
  else if den < twice then q + 1
  else q + q % 2

/-- A ratio times `2 ^ e`, as a ratio. -/
def shift (num den : Nat) (e : Int) : Nat × Nat :=
  if 0 ≤ e then (num <<< e.toNat, den) else (num, den <<< (-e).toNat)

/-- The exponent at which the ratio `num / den` has 53 bits before the point, but no less
    than the least exponent. -/
def exponentOf (num den : Nat) : Int :=
  let guess : Int := num.log2 - den.log2 - 53
  let (n, d) := shift num den (-guess)
  max leastExponent (if n / d < significandLimit then guess else guess + 1)

/-- The number nearest to `num / den`. -/
def round (num den : Nat) : Option Binary64 :=
  if num = 0 then some zero
  else
    let e := exponentOf num den
    let (n, d) := shift num den (-e)
    let m := roundQuotient n d
    let b : Binary64 := if m = significandLimit then ⟨significandLimit / 2, e + 1⟩ else ⟨m, e⟩
    if b.exponent ≤ greatestExponent then some b else none

/-- The number nearest to `num / den * 2 ^ e`. -/
def roundShifted (num den : Nat) (e : Int) : Option Binary64 :=
  let (n, d) := shift num den e
  round n d

def ofNat (n : Nat) : Option Binary64 := round n 1

def mul (a b : Binary64) : Option Binary64 :=
  roundShifted (a.significand * b.significand) 1 (a.exponent + b.exponent)

def div (a b : Binary64) : Option Binary64 :=
  roundShifted a.significand b.significand (a.exponent - b.exponent)

end Binary64
end Sandbox.Real
