-- SUMMARY: Decoding bytes as UTF-8 into characters and ill-formed parts, and the lossy text of bytes.

/-!
# UTF-8

Decoding never fails: it yields a list of symbols, each of which is a character
or stands for one maximal ill-formed part. An ill-formed part is a byte that
starts no character, or the longest beginning of a character that its next byte
does not continue. The lossy text of bytes shows each such part as U+FFFD.
-/

namespace Sandbox.Text

/-- A character, or `none` for a maximal part of the bytes that encodes none. -/
abbrev Symbol := Option Char

/-- The symbols of a text, all of them characters. -/
def symbols (s : String) : List Symbol := s.toList.map some

namespace Utf8

/-- The bytes of a text. -/
def bytes (s : String) : List UInt8 := s.toUTF8.data.toList

/-- Where a decoder stands between bytes. -/
inductive State
  /-- Between characters. -/
  | start
  /-- Inside a character of value `value` so far: `owed + 1` bytes are missing, and the
      next one lies between `low` and `high`. -/
  | inside (owed : Nat) (low high : UInt8) (value : Nat)
  deriving DecidableEq, Repr

/-- The first byte of a character: the symbol it completes, if any, and the state after it. -/
def first (b : UInt8) : List Symbol × State :=
  let n := b.toNat
  if n < 0x80 then ([some (Char.ofNat n)], .start)
  else if n < 0xC2 then ([none], .start)
  else if n < 0xE0 then ([], .inside 0 0x80 0xBF (n - 0xC0))
  else if n < 0xF0 then
    ([], .inside 1 (if n = 0xE0 then 0xA0 else 0x80) (if n = 0xED then 0x9F else 0xBF) (n - 0xE0))
  else if n < 0xF5 then
    ([], .inside 2 (if n = 0xF0 then 0x90 else 0x80) (if n = 0xF4 then 0x8F else 0xBF) (n - 0xF0))
  else ([none], .start)

/-- One byte: the symbols it settles and the state after it. A byte that does not continue
    the character begun is taken as the first of another. -/
def step : State → UInt8 → List Symbol × State
  | .start, b => first b
  | .inside owed low high value, b =>
    if low ≤ b ∧ b ≤ high then
      let value := value * 64 + (b.toNat - 0x80)
      match owed with
      | 0 => ([some (Char.ofNat value)], .start)
      | owed + 1 => ([], .inside owed 0x80 0xBF value)
    else
      let (settled, next) := first b
      (none :: settled, next)

def decodeFrom : State → List UInt8 → List Symbol
  | .start, [] => []
  | .inside .., [] => [none]
  | state, b :: rest =>
    let (settled, next) := step state b
    settled ++ decodeFrom next rest

def decode (bytes : List UInt8) : List Symbol := decodeFrom .start bytes

/-- The text of bytes, with U+FFFD in place of each ill-formed part. -/
def lossy (bytes : List UInt8) : String :=
  .ofList ((decode bytes).map (·.getD '\uFFFD'))

end Utf8
end Sandbox.Text
