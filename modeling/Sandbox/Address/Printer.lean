-- SUMMARY: Writing the text of an address.
import Sandbox.Address

/-!
# Printing addresses

A version 6 address is written in lower case without leading zeros. The longest
run of at least two zero groups, the first of equals, becomes `::`. An address
that carries a version 4 address is written with a dotted tail.
-/

namespace Sandbox.Address

def octetChars (o : UInt8) : List Char := Nat.toDigits 10 o.toNat

def octetsChars (o : Octets) : List Char :=
  octetChars o.first ++ ['.'] ++ octetChars o.second ++ ['.'] ++
    octetChars o.third ++ ['.'] ++ octetChars o.fourth

def groupChars (g : UInt16) : List Char := Nat.toDigits 16 g.toNat

def groupsChars (groups : List UInt16) : List Char :=
  [':'].intercalate (groups.map groupChars)

/-- The number of zero groups at the start. -/
def zeroRun (groups : List UInt16) : Nat := (groups.takeWhile (· = 0)).length

/-- The start and the length of the longest run of zero groups, the first of equals. -/
def longestZeroRun (groups : List UInt16) : Nat × Nat :=
  (List.range groups.length).foldl
    (fun best start =>
      let length := zeroRun (groups.drop start)
      if best.2 < length then (start, length) else best)
    (0, 0)

/-- The version 4 address that a version 6 address carries behind the mark `::ffff:`. -/
def mapped? : List UInt16 → Option Octets
  | [0, 0, 0, 0, 0, 0xFFFF, high, low] => some (.ofGroups high low)
  | _ => none

def colonForm (groups : List UInt16) : List Char :=
  let (start, length) := longestZeroRun groups
  if 1 < length then
    groupsChars (groups.take start) ++ [':', ':'] ++ groupsChars (groups.drop (start + length))
  else groupsChars groups

def chars : Address → List Char
  | .v4 octets => octetsChars octets
  | .v6 groups _ =>
    match mapped? groups with
    | some octets => "::ffff:".toList ++ octetsChars octets
    | none => colonForm groups

def text (a : Address) : String := .ofList a.chars

instance : ToString Address := ⟨text⟩

end Sandbox.Address
