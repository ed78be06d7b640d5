-- SUMMARY: JSON documents as written: blanks, escapes and number spellings included.
import Sandbox.Text.Digit
import Sandbox.Text.Utf8

/-!
# JSON documents

A `Document` is a JSON value together with everything that one text may write
differently from another: blanks, the spelling of numbers, the escapes inside
strings, the order and repetition of members. `Document.render` is its text, and
what a document means is left to `Sandbox.Json.Content`.

The text is a list of symbols, because a text that arrives as bytes may hold
ill-formed parts. The grammar admits them inside strings only.
-/

namespace Sandbox.Json

open Sandbox.Text

-- ---------------------------------------------------------------------------
-- Blanks
-- ---------------------------------------------------------------------------

inductive Blank
  | space
  | tab
  | lineFeed
  | carriageReturn
  deriving DecidableEq, Repr

def Blank.char : Blank → Char
  | .space => ' '
  | .tab => '\t'
  | .lineFeed => '\n'
  | .carriageReturn => '\r'

abbrev Blanks := List Blank

def Blanks.render (bs : Blanks) : List Symbol := bs.map (some ·.char)

-- ---------------------------------------------------------------------------
-- Numbers
-- ---------------------------------------------------------------------------

def renderDigits (ds : List Digit) : List Symbol := ds.map (some ·.char)

/-- The digits before the point: a lone zero, or digits that start with another one. -/
structure Whole where
  lead : Digit
  rest : List Digit
  noLeadingZero : lead = .zero → rest = []
  deriving DecidableEq, Repr

def Whole.digits (w : Whole) : List Digit := w.lead :: w.rest

def Whole.zero : Whole := ⟨.zero, [], fun _ => rfl⟩

/-- Digits as they may stand before a point: at least one, and no zero ahead of others. -/
def Whole.ofDigits? : List Digit → Option Whole
  | [] => none
  | lead :: rest => if h : lead = .zero → rest = [] then some ⟨lead, rest, h⟩ else none

inductive ExponentSign
  | implicit
  | plus
  | minus
  deriving DecidableEq, Repr

def ExponentSign.render : ExponentSign → List Symbol
  | .implicit => []
  | .plus => [some '+']
  | .minus => [some '-']

structure Exponent where
  upperCase : Bool
  sign : ExponentSign
  lead : Digit
  rest : List Digit
  deriving DecidableEq, Repr

def Exponent.digits (e : Exponent) : List Digit := e.lead :: e.rest

def Exponent.render (e : Exponent) : List Symbol :=
  some (if e.upperCase then 'E' else 'e') :: e.sign.render ++ renderDigits e.digits

/-- The digits after the point, at least one. -/
structure Fraction where
  lead : Digit
  rest : List Digit
  deriving DecidableEq, Repr

def Fraction.digits (f : Fraction) : List Digit := f.lead :: f.rest

def Fraction.render (f : Fraction) : List Symbol := some '.' :: renderDigits f.digits

structure Number where
  negative : Bool
  whole : Whole
  fraction : Option Fraction
  exponent : Option Exponent
  deriving DecidableEq, Repr

def Number.render (n : Number) : List Symbol :=
  (if n.negative then [some '-'] else []) ++ renderDigits n.whole.digits ++
    (n.fraction.map Fraction.render).getD [] ++ (n.exponent.map Exponent.render).getD []

-- ---------------------------------------------------------------------------
-- Strings
-- ---------------------------------------------------------------------------

/-- The escapes of a backslash and one letter or mark. -/
inductive Escape
  | quote
  | backslash
  | slash
  | backspace
  | formFeed
  | lineFeed
  | carriageReturn
  | tab
  deriving DecidableEq, Repr

/-- What follows the backslash. -/
def Escape.mark : Escape → Char
  | .quote => '"'
  | .backslash => '\\'
  | .slash => '/'
  | .backspace => 'b'
  | .formFeed => 'f'
  | .lineFeed => 'n'
  | .carriageReturn => 'r'
  | .tab => 't'

/-- Whether a character may stand for itself inside a string. -/
def isPlain (c : Char) : Bool := 0x20 ≤ c.toNat && c != '"' && c != '\\'

/-- One element of a string as written. -/
inductive Piece
  | plain (c : Char) (isPlain : isPlain c)
  | illFormed
  | escape (e : Escape)
  /-- A 16-bit unit written with four hexadecimal digits. -/
  | unit (a b c d : HexDigit)
  deriving DecidableEq, Repr

def Piece.render : Piece → List Symbol
  | .plain c _ => [some c]
  | .illFormed => [none]
  | .escape e => [some '\\', some e.mark]
  | .unit a b c d => [some '\\', some 'u', some a.val, some b.val, some c.val, some d.val]

/-- The pieces between the quotes of a string. -/
abbrev Pieces := List Piece

def Pieces.render (ps : Pieces) : List Symbol := some '"' :: ps.flatMap Piece.render ++ [some '"']

-- ---------------------------------------------------------------------------
-- Documents
-- ---------------------------------------------------------------------------

mutual
/-- A JSON value as written. -/
inductive Document
  | null
  | boolean (value : Bool)
  | number (n : Number)
  | string (ps : Pieces)
  | emptyArray (inner : Blanks)
  | array (before : Blanks) (value : Document) (after : Blanks) (more : Items)
  | emptyObject (inner : Blanks)
  | object (before : Blanks) (key : Pieces) (afterKey beforeValue : Blanks) (value : Document)
      (after : Blanks) (more : Members)

/-- What follows an item of an array: the bracket, or a comma and another item. -/
inductive Items
  | close
  | next (before : Blanks) (value : Document) (after : Blanks) (more : Items)

/-- What follows a member of an object: the bracket, or a comma and another member. -/
inductive Members
  | close
  | next (before : Blanks) (key : Pieces) (afterKey beforeValue : Blanks) (value : Document)
      (after : Blanks) (more : Members)
end

mutual
/-- The text of a document. -/
def Document.render : Document → List Symbol
  | .null => symbols "null"
  | .boolean true => symbols "true"
  | .boolean false => symbols "false"
  | .number n => n.render
  | .string ps => ps.render
  | .emptyArray inner => some '[' :: inner.render ++ [some ']']
  | .array before value after more =>
    some '[' :: before.render ++ value.render ++ after.render ++ more.render
  | .emptyObject inner => some '{' :: inner.render ++ [some '}']
  | .object before key afterKey beforeValue value after more =>
    some '{' :: before.render ++ key.render ++ afterKey.render ++ some ':' ::
      beforeValue.render ++ value.render ++ after.render ++ more.render

def Items.render : Items → List Symbol
  | .close => [some ']']
  | .next before value after more =>
    some ',' :: before.render ++ value.render ++ after.render ++ more.render

def Members.render : Members → List Symbol
  | .close => [some '}']
  | .next before key afterKey beforeValue value after more =>
    some ',' :: before.render ++ key.render ++ afterKey.render ++ some ':' ::
      beforeValue.render ++ value.render ++ after.render ++ more.render
end

mutual
/-- The text of a document and the rest after it, in one pass however deep the document is. -/
def Document.write : Document → List Symbol → List Symbol
  | .array before value after more, rest =>
    some '[' :: (before.render ++ value.write (after.render ++ more.write rest))
  | .object before key afterKey beforeValue value after more, rest =>
    some '{' :: (before.render ++ (key.render ++ (afterKey.render ++ some ':' ::
      (beforeValue.render ++ value.write (after.render ++ more.write rest)))))
  | d, rest => d.render ++ rest

def Items.write : Items → List Symbol → List Symbol
  | .close, rest => some ']' :: rest
  | .next before value after more, rest =>
    some ',' :: (before.render ++ value.write (after.render ++ more.write rest))

def Members.write : Members → List Symbol → List Symbol
  | .close, rest => some '}' :: rest
  | .next before key afterKey beforeValue value after more, rest =>
    some ',' :: (before.render ++ (key.render ++ (afterKey.render ++ some ':' ::
      (beforeValue.render ++ value.write (after.render ++ more.write rest)))))
end

mutual
theorem Document.write_eq (d : Document) (rest : List Symbol) :
    d.write rest = d.render ++ rest := by
  cases d with
  | array before value after more =>
    simp [Document.write, Document.render, Document.write_eq value, Items.write_eq more]
  | object before key afterKey beforeValue value after more =>
    simp [Document.write, Document.render, Document.write_eq value, Members.write_eq more]
  | _ => rfl

theorem Items.write_eq (is : Items) (rest : List Symbol) :
    is.write rest = is.render ++ rest := by
  cases is with
  | close => rfl
  | next before value after more =>
    simp [Items.write, Items.render, Document.write_eq value, Items.write_eq more]

theorem Members.write_eq (ms : Members) (rest : List Symbol) :
    ms.write rest = ms.render ++ rest := by
  cases ms with
  | close => rfl
  | next before key afterKey beforeValue value after more =>
    simp [Members.write, Members.render, Document.write_eq value, Members.write_eq more]
end

/-- The text of a document that holds no ill-formed part. -/
def Document.text? (d : Document) : Option String :=
  ((d.write []).mapM id).map String.ofList

theorem Document.text?_eq (d : Document) : d.text? = (d.render.mapM id).map String.ofList := by
  simp [text?, write_eq]

end Sandbox.Json
