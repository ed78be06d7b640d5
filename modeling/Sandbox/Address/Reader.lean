-- SUMMARY: Reading the text of an address.
import Sandbox.Address
import Sandbox.Text.Digit

/-!
# Reading addresses

The dotted form has four decimal octets without leading zeros. The form with
colons has hexadecimal groups of one to four digits; the last two groups may be
written as a dotted address, and `::` stands for the groups left out, at least
one. Each reader takes as much as it can from the left and returns the rest.
-/

namespace Sandbox.Address

open Sandbox.Text (hexValue?)

-- ---------------------------------------------------------------------------
-- Numbers
-- ---------------------------------------------------------------------------

def isDecimal (c : Char) : Bool := c.isDigit

def isHexadecimal (c : Char) : Bool := (hexValue? c).isSome

/-- The number that a list of digits writes in the given base. -/
def numeral (base : Nat) (digits : List Char) : Nat :=
  digits.foldl (fun value c => value * base + (hexValue? c).getD 0) 0

/-- Reads one octet: all the decimal digits ahead, one to three of them, with no leading
    zero, and a value below 256. -/
def readOctet (s : List Char) : Option (UInt8 × List Char) :=
  let digits := s.takeWhile isDecimal
  let rest := s.dropWhile isDecimal
  if digits = [] ∨ 3 < digits.length then none
  else if digits.head? = some '0' ∧ 1 < digits.length then none
  else
    let value := numeral 10 digits
    if value < 256 then some (.ofNat value, rest) else none

/-- Reads one group: all the hexadecimal digits ahead, one to four of them. -/
def readGroup (s : List Char) : Option (UInt16 × List Char) :=
  let digits := s.takeWhile isHexadecimal
  let rest := s.dropWhile isHexadecimal
  if digits = [] ∨ 4 < digits.length then none
  else some (.ofNat (numeral 16 digits), rest)

/-- Reads a character that has to be there. -/
def expect (c : Char) : List Char → Option (List Char)
  | [] => none
  | c' :: rest => if c' = c then some rest else none

-- ---------------------------------------------------------------------------
-- Addresses
-- ---------------------------------------------------------------------------

def readOctets (s : List Char) : Option (Octets × List Char) := do
  let (first, s) ← readOctet s
  let s ← expect '.' s
  let (second, s) ← readOctet s
  let s ← expect '.' s
  let (third, s) ← readOctet s
  let s ← expect '.' s
  let (fourth, s) ← readOctet s
  return (⟨first, second, third, fourth⟩, s)

/-- What stands before a group: nothing before the first, a colon before any other. -/
def readSeparator (isFirst : Bool) (s : List Char) : Option (List Char) :=
  if isFirst then some s else expect ':' s

/-- Groups read one after the other. -/
structure Groups where
  groups : List UInt16
  /-- Whether the last two groups were written as a dotted address. -/
  dotted : Bool
  rest : List Char

/-- Reads groups for as long as there are any, up to `limit`. A dotted address needs room
    for two groups and ends the list. -/
def readGroups : (limit : Nat) → (isFirst : Bool) → List Char → Groups
  | 0, _, s => ⟨[], false, s⟩
  | limit + 1, isFirst, s =>
    match readSeparator isFirst s with
    | none => ⟨[], false, s⟩
    | some start =>
      match if 0 < limit then readOctets start else none with
      | some (octets, rest) => ⟨octets.groups, true, rest⟩
      | none =>
        match readGroup start with
        | none => ⟨[], false, s⟩
        | some (group, rest) =>
          let more := readGroups limit false rest
          ⟨group :: more.groups, more.dotted, more.rest⟩

/-- Reads the form with colons: eight groups, or fewer around one `::`, before which no
    dotted address may stand. -/
def readColonForm (s : List Char) : Option (Address × List Char) := do
  let head := readGroups 8 true s
  if head.groups.length = 8 then
    return (← ofGroups? head.groups, head.rest)
  else if head.dotted then
    none
  else
    let s ← expect ':' head.rest
    let s ← expect ':' s
    let tail := readGroups (7 - head.groups.length) true s
    let zeros := List.replicate (8 - head.groups.length - tail.groups.length) 0
    return (← ofGroups? (head.groups ++ zeros ++ tail.groups), tail.rest)

def read (s : List Char) : Option (Address × List Char) :=
  match readOctets s with
  | some (octets, rest) => some (.v4 octets, rest)
  | none => readColonForm s

/-- The address that a text writes, if the whole text is one. -/
def ofText? (s : String) : Option Address :=
  match read s.toList with
  | some (address, []) => some address
  | _ => none

end Sandbox.Address
