-- SUMMARY: What a JSON document means: strings, integers, items, members and fields.
import Sandbox.Json.Document
import Sandbox.Dict

/-!
# The content of documents

Readers of the values that a document may stand for. Each is `none` on a
document of another shape. They see neither blanks nor spellings: an escape
counts as the character it stands for, and only an integer written without a
point or an exponent is an integer.
-/

namespace Sandbox.Json

open Sandbox.Text

-- ---------------------------------------------------------------------------
-- Strings
-- ---------------------------------------------------------------------------

def Escape.char : Escape → Char
  | .quote => '"'
  | .backslash => '\\'
  | .slash => '/'
  | .backspace => '\x08'
  | .formFeed => '\x0c'
  | .lineFeed => '\n'
  | .carriageReturn => '\r'
  | .tab => '\t'

/-- The 16-bit unit of four hexadecimal digits. -/
def unitValue (a b c d : HexDigit) : Nat :=
  ((a.value * 16 + b.value) * 16 + c.value) * 16 + d.value

def isHighSurrogate (n : Nat) : Bool := 0xD800 ≤ n && n < 0xDC00

def isLowSurrogate (n : Nat) : Bool := 0xDC00 ≤ n && n < 0xE000

/-- The characters that the pieces of a string stand for. There are none if a part is
    ill-formed or a surrogate is not part of a high and low pair. -/
def Pieces.chars? : Pieces → Option (List Char)
  | [] => some []
  | .plain c _ :: rest => return c :: (← Pieces.chars? rest)
  | .illFormed :: _ => none
  | .escape e :: rest => return e.char :: (← Pieces.chars? rest)
  | .unit a b c d :: rest =>
    let high := unitValue a b c d
    if isHighSurrogate high then
      match rest with
      | .unit a b c d :: rest =>
        let low := unitValue a b c d
        if isLowSurrogate low then do
          let value := 0x10000 + (high - 0xD800) * 0x400 + (low - 0xDC00)
          return .ofNat value :: (← Pieces.chars? rest)
        else none
      | _ => none
    else if isLowSurrogate high then none
    else return .ofNat high :: (← Pieces.chars? rest)

def Pieces.content? (ps : Pieces) : Option String := ps.chars?.map String.ofList

def Document.string? : Document → Option String
  | .string ps => ps.content?
  | _ => none

-- ---------------------------------------------------------------------------
-- Scalars
-- ---------------------------------------------------------------------------

def Document.isNull : Document → Bool
  | .null => true
  | _ => false

def Document.boolean? : Document → Option Bool
  | .boolean b => some b
  | _ => none

/-- The number that digits write. -/
def magnitude (ds : List Digit) : Nat := ds.foldl (fun value d => value * 10 + d.val) 0

/-- The integer that a number is written as. A minus before zero makes it no integer. -/
def Number.integer? (n : Number) : Option Int :=
  if n.fraction.isSome ∨ n.exponent.isSome then none
  else
    let m := magnitude n.whole.digits
    if n.negative then if m = 0 then none else some (-m) else some m

/-- An integer as a signed 64-bit one, if it lies in range. -/
def int64? (i : Int) : Option Int64 :=
  if Int64.minValue.toInt ≤ i ∧ i ≤ Int64.maxValue.toInt then some (.ofInt i) else none

def Document.int64? : Document → Option Int64
  | .number n => n.integer? >>= Json.int64?
  | _ => none

-- ---------------------------------------------------------------------------
-- Arrays and objects
-- ---------------------------------------------------------------------------

def Items.values : Items → List Document
  | .close => []
  | .next _ value _ more => value :: more.values

def Members.pairs : Members → List (Pieces × Document)
  | .close => []
  | .next _ key _ _ value _ more => (key, value) :: more.pairs

/-- The items of an array, in order. -/
def Document.items? : Document → Option (List Document)
  | .emptyArray _ => some []
  | .array _ value _ more => some (value :: more.values)
  | _ => none

/-- The members of an object, in order and with repetitions. -/
def Document.members? : Document → Option (List (Pieces × Document))
  | .emptyObject _ => some []
  | .object _ key _ _ value _ more => some ((key, value) :: more.pairs)
  | _ => none

/-- The items of an array, each read by `f`. -/
def Document.list? {α : Type} (f : Document → Option α) (d : Document) : Option (List α) := do
  (← d.items?).mapM f

/-- The members of an object, each key read by `f` and each value by `g`. -/
def Document.pairs? {κ ν : Type} (f : Pieces → Option κ) (g : Document → Option ν)
    (d : Document) : Option (List (κ × ν)) := do
  (← d.members?).mapM fun (key, value) => return (← f key, ← g value)

/-- The members of an object as a dictionary. The last of equal keys counts, but every
    member has to be readable. -/
def Document.dict? {κ ν : Type} [Ord κ] [Std.TransOrd κ] [Std.LawfulEqOrd κ]
    (f : Pieces → Option κ) (g : Document → Option ν) (d : Document) : Option (Dict κ ν) :=
  (d.pairs? f g).map Dict.ofList

/-- The members of an object whose keys are among `names`, for objects that stand for a
    record. Such a key must not be repeated; members with other keys are left out. -/
def Document.fields? (names : List String) (d : Document) :
    Option (List (String × Document)) := do
  let known := (← d.pairs? Pieces.content? some).filter (·.1 ∈ names)
  if (known.map (·.1)).Nodup then some known else none

-- ---------------------------------------------------------------------------
-- Nesting
-- ---------------------------------------------------------------------------

mutual
/-- The greatest number of arrays and objects around any part of the document, itself
    included. -/
def Document.depth : Document → Nat
  | .emptyArray _ => 1
  | .emptyObject _ => 1
  | .array _ value _ more => max value.depth more.depth + 1
  | .object _ _ _ _ value _ more => max value.depth more.depth + 1
  | _ => 0

def Items.depth : Items → Nat
  | .close => 0
  | .next _ value _ more => max value.depth more.depth

def Members.depth : Members → Nat
  | .close => 0
  | .next _ _ _ _ value _ more => max value.depth more.depth
end

end Sandbox.Json
