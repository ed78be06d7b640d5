-- SUMMARY: The canonical form of a JSON document.
import Sandbox.Json.Layout
import Sandbox.Real.Shortest

/-!
# Canonical documents

The canonical form of a document has no blanks, escapes in strings only where
they are needed, members in ascending key order with the last of repeated keys,
and numbers in one spelling: integers of up to 64 bits as they are, any other
number as the binary floating-point number it is read as.

A string without a content and a number beyond the floating-point range have no
canonical form.
-/

namespace Sandbox.Json

open Sandbox.Text
open Sandbox.Real (Binary64)

-- ---------------------------------------------------------------------------
-- Numbers
-- ---------------------------------------------------------------------------

/-- Digits onto a significand for as long as it stays below `2 ^ 64`, and the digits left. -/
def takeSignificand (significand : Nat) : List Digit → Nat × List Digit
  | [] => (significand, [])
  | d :: rest =>
    let next := significand * 10 + d.val
    if next < UInt64.size then takeSignificand next rest else (significand, d :: rest)

/-- The power of ten that an exponent writes. -/
def Exponent.value (e : Exponent) : Int :=
  match e.sign with
  | .minus => -magnitude e.digits
  | _ => magnitude e.digits

/-- The greatest power of ten among the floating-point numbers. -/
def greatestPower : Nat := 308

/-- A number divided by `10 ^ k`, in steps of the greatest power of ten. -/
def divideByPower (b : Binary64) (k : Nat) : Option Binary64 :=
  if b.isZero then some b
  else if k ≤ greatestPower then do b.div (← Binary64.ofNat (Nat.pow 10 k))
  else do divideByPower (← b.div (← Binary64.ofNat (Nat.pow 10 greatestPower))) (k - greatestPower)
termination_by k
decreasing_by
  have : 0 < greatestPower := by decide
  omega

/-- The floating-point number read for `significand * 10 ^ k`. The significand, the power of
    ten and their product or quotient are rounded one after the other. -/
def scaleByPower (significand : Nat) (k : Int) : Option Binary64 := do
  let b ← Binary64.ofNat significand
  if b.isZero then return b
  else if k < 0 then divideByPower b k.natAbs
  else if greatestPower < k then none
  else b.mul (← Binary64.ofNat (Nat.pow 10 k.toNat))

/-- The floating-point number that the digits and the exponent of a number are read as.
    Digits before the point that the significand cannot hold count as a power of ten; such
    digits after the point are left out. -/
def Number.magnitude? (n : Number) : Option Binary64 :=
  let (significand, left) := takeSignificand 0 n.whole.digits
  let fraction := (n.fraction.map Fraction.digits).getD []
  let (significand, leftOfFraction) := takeSignificand significand fraction
  let exponent := (n.exponent.map Exponent.value).getD 0
  scaleByPower significand (left.length - (fraction.length - leftOfFraction.length) + exponent)

def Whole.ofDigits (ds : List Digit) : Whole := (ofDigits? ds).getD zero

def Fraction.ofDigits? : List Digit → Option Fraction
  | [] => none
  | lead :: rest => some ⟨lead, rest⟩

def Exponent.ofInt? (e : Int) : Option Exponent :=
  match digitsOf e.natAbs with
  | [] => none
  | lead :: rest => some ⟨false, if e < 0 then .minus else .plus, lead, rest⟩

/-- A floating-point number in its shortest spelling. Numbers from `0.00001` to below
    `10 ^ 16` are written positionally, and integers among them with `.0`; in all others the
    exponent has a sign. -/
def Number.ofBinary64 (negative : Bool) (b : Binary64) : Number :=
  if b.isZero then ⟨negative, .zero, some ⟨.zero, []⟩, none⟩
  else
    let (c, k) := b.shortest
    let ds := digitsOf c
    let point := ds.length + k
    if 0 ≤ k ∧ point ≤ 16 then
      ⟨negative, .ofDigits (ds ++ List.replicate k.toNat .zero), some ⟨.zero, []⟩, none⟩
    else if 0 < point ∧ point ≤ 16 then
      ⟨negative, .ofDigits (ds.take point.toNat), Fraction.ofDigits? (ds.drop point.toNat), none⟩
    else if -5 < point ∧ point ≤ 0 then
      ⟨negative, .zero, Fraction.ofDigits? (List.replicate (-point).toNat .zero ++ ds), none⟩
    else
      ⟨negative, .ofDigits (ds.take 1), Fraction.ofDigits? (ds.drop 1), Exponent.ofInt? (point - 1)⟩

/-- Whether a number is written as an integer that fits 64 bits, signed if it is negative.
    Zero with a minus is not. -/
def Number.isWord (n : Number) : Bool :=
  match n.integer? with
  | some i => Int64.minValue.toInt ≤ i && i < UInt64.size
  | none => false

def Number.canonical? (n : Number) : Option Number :=
  if n.isWord then some n else n.magnitude?.map (Number.ofBinary64 n.negative)

-- ---------------------------------------------------------------------------
-- Documents
-- ---------------------------------------------------------------------------

mutual
def Document.canonical? : Document → Option Document
  | .null => some .null
  | .boolean b => some (.boolean b)
  | .number n => n.canonical?.map .number
  | .string ps => ps.content?.map .ofString
  | .emptyArray _ => some (.emptyArray [])
  | .array _ value _ more => do
    return .ofList ((← value.canonical?) :: (← more.canonical?))
  | .emptyObject _ => some (.emptyObject [])
  | .object _ key _ _ value _ more => do
    let members := (← key.content?, ← value.canonical?) :: (← more.canonical?)
    return .ofFields (Dict.ofList members).entries

def Items.canonical? : Items → Option (List Document)
  | .close => some []
  | .next _ value _ more => return (← value.canonical?) :: (← more.canonical?)

def Members.canonical? : Members → Option (List (String × Document))
  | .close => some []
  | .next _ key _ _ value _ more =>
    return (← key.content?, ← value.canonical?) :: (← more.canonical?)
end

end Sandbox.Json
