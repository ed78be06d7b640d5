-- SUMMARY: Internet addresses of versions 4 and 6.

/-!
# Addresses

A version 4 address is four octets, a version 6 address eight groups of 16 bits.
`Sandbox.Address.Reader` reads their text and `Sandbox.Address.Printer` writes it.
-/

namespace Sandbox

/-- The octets of a version 4 address, first to last. -/
structure Octets where
  first : UInt8
  second : UInt8
  third : UInt8
  fourth : UInt8
  deriving DecidableEq, Repr

namespace Octets

/-- The two groups that four octets fill at the end of a version 6 address. -/
def groups (o : Octets) : List UInt16 :=
  [o.first.toUInt16 <<< 8 ||| o.second.toUInt16, o.third.toUInt16 <<< 8 ||| o.fourth.toUInt16]

/-- The octets of two groups, high octet first. -/
def ofGroups (high low : UInt16) : Octets :=
  ⟨(high >>> 8).toUInt8, high.toUInt8, (low >>> 8).toUInt8, low.toUInt8⟩

end Octets

/-- An Internet address. -/
inductive Address
  | v4 (octets : Octets)
  | v6 (groups : List UInt16) (eight : groups.length = 8)
  deriving DecidableEq, Repr

namespace Address

def ofGroups? (groups : List UInt16) : Option Address :=
  if h : groups.length = 8 then some (.v6 groups h) else none

end Address
end Sandbox
