-- SUMMARY: Signed 64-bit integers as decimal text, with the reason a text is refused.
import Sandbox.Text.Digit

/-!
# Integers as text

A text names an integer when it is an optional sign followed by digits, leading
zeros included, and the value lies in the signed 64-bit range. The reader looks
at one character at a time, so the first fault from the left is reported.
-/

namespace Sandbox.Text

/-- Why a text is not a signed 64-bit integer. -/
inductive IntegerFault
  | empty
  | invalidDigit
  | tooLarge
  | tooSmall
  deriving DecidableEq, Repr

def IntegerFault.message : IntegerFault → String
  | .empty => "cannot parse integer from empty string"
  | .invalidDigit => "invalid digit found in string"
  | .tooLarge => "number too large to fit in target type"
  | .tooSmall => "number too small to fit in target type"

/-- Reads digits onto the value so far, which must never exceed `limit`. -/
def readMagnitude (limit : Nat) (excess : IntegerFault) : List Char → Nat → Except IntegerFault Nat
  | [], value => .ok value
  | c :: rest, value =>
    match Digit.ofChar? c with
    | none => .error .invalidDigit
    | some d =>
      let value := value * 10 + d
      if limit < value then .error excess else readMagnitude limit excess rest value

/-- The magnitudes of the least and of the greatest signed 64-bit integer. -/
def leastMagnitude : Nat := Int64.minValue.toInt.natAbs
def greatestMagnitude : Nat := Int64.maxValue.toInt.natAbs

def readNegative (digits : List Char) : Except IntegerFault Int64 := do
  let magnitude ← readMagnitude leastMagnitude .tooSmall digits 0
  return .ofInt (-magnitude)

def readPositive (digits : List Char) : Except IntegerFault Int64 := do
  let magnitude ← readMagnitude greatestMagnitude .tooLarge digits 0
  return .ofInt magnitude

/-- Reads a signed integer from the characters of a text. -/
def readInteger : List Char → Except IntegerFault Int64
  | [] => .error .empty
  | ['+'] => .error .invalidDigit
  | ['-'] => .error .invalidDigit
  | '+' :: digits => readPositive digits
  | '-' :: digits => readNegative digits
  | digits => readPositive digits

def integer (s : String) : Except IntegerFault Int64 := readInteger s.toList

end Sandbox.Text
