-- SUMMARY: The shortest decimal that reads back as a given binary floating-point number.
import Sandbox.Real.Binary64

/-!
# Shortest decimals

The reals that round to a number form an interval, whose ends belong to it when
the significand is even. Among the grids of multiples of `10 ^ k`, the coarsest
one with a point in that interval gives the shortest decimal; of two such points
the nearer one is taken, and of two equally near ones the even one.
-/

namespace Sandbox.Real.Binary64

/-- Quarters of the last place from the number down to the lower end of its interval. The
    gap below a power of two is half of the gap above it. -/
def lowerGap (b : Binary64) : Nat :=
  if b.significand = significandLimit / 2 ∧ leastExponent < b.exponent then 1 else 2

/-- Scales by which a multiple of `10 ^ k` and a number of quarters of the last place of `b`
    become integers that compare as they do. -/
def scales (b : Binary64) (k : Int) : Nat × Nat :=
  let e := b.exponent - 2
  (Nat.pow 10 k.toNat <<< (-e).toNat, Nat.pow 10 (-k).toNat <<< e.toNat)

/-- Whether `c * 10 ^ k` rounds to `b`. -/
def roundsTo (b : Binary64) (c : Nat) (k : Int) : Bool :=
  let (forPoint, forQuarters) := b.scales k
  let point := c * forPoint
  let low := (4 * b.significand - b.lowerGap) * forQuarters
  let high := (4 * b.significand + 2) * forQuarters
  if b.significand % 2 = 0 then low ≤ point && point ≤ high else low < point && point < high

/-- The multiple of `10 ^ k` that is nearest to `b` among those that round to it. -/
def gridPoint? (b : Binary64) (k : Int) : Option Nat :=
  let (forPoint, forQuarters) := b.scales k
  let value := 4 * b.significand * forQuarters
  let below := value / forPoint
  let above := below + 1
  match b.roundsTo below k, b.roundsTo above k with
  | true, true =>
    let toBelow := value - below * forPoint
    let toAbove := above * forPoint - value
    if toBelow < toAbove then some below
    else if toAbove < toBelow then some above
    else some (if below % 2 = 0 then below else above)
  | true, false => some below
  | false, true => some above
  | false, false => none

/-- The coarsest grid that is tried, and how many finer ones follow it. -/
def coarsestGrid : Int := 309
def gridCount : Nat := 700

/-- The shortest decimal `c * 10 ^ k` that rounds to `b`, as `(c, k)`, for `b` above zero. -/
def shortest (b : Binary64) : Nat × Int :=
  ((List.range gridCount).findSome? fun (i : Nat) =>
    let k := coarsestGrid - i
    (b.gridPoint? k).map fun c => (c, k)).getD (0, 0)

end Sandbox.Real.Binary64
