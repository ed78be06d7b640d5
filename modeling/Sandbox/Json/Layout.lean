-- SUMMARY: Writing values as JSON documents, compactly and with indentation.
import Sandbox.Json.Content

/-!
# Laying documents out

Documents for texts, integers, lists and records, written without blanks, and
`Document.indented`, which lays a document out anew over lines.

In a string only the quote, the backslash and the ASCII controls are escaped,
the latter by their short escapes where they have one and else by number.
-/

namespace Sandbox.Json

open Sandbox.Text

-- ---------------------------------------------------------------------------
-- Strings
-- ---------------------------------------------------------------------------

/-- A value below 16 as a hexadecimal digit in lower case. -/
def hexDigit (n : Fin 16) : HexDigit :=
  ⟨Nat.digitChar n, by revert n; decide⟩

/-- A character below U+0020 written by number. -/
def controlPiece (c : Char) : Piece :=
  .unit (hexDigit 0) (hexDigit 0) (hexDigit (.ofNat 16 (c.toNat / 16)))
    (hexDigit (.ofNat 16 c.toNat))

/-- The piece that writes a character. -/
def pieceOfChar (c : Char) : Piece :=
  if h : isPlain c then .plain c h
  else
    match c with
    | '"' => .escape .quote
    | '\\' => .escape .backslash
    | '\x08' => .escape .backspace
    | '\x0c' => .escape .formFeed
    | '\n' => .escape .lineFeed
    | '\r' => .escape .carriageReturn
    | '\t' => .escape .tab
    | c => controlPiece c

def Pieces.ofString (s : String) : Pieces := s.toList.map pieceOfChar

def Document.ofString (s : String) : Document := .string (.ofString s)

-- ---------------------------------------------------------------------------
-- Integers
-- ---------------------------------------------------------------------------

/-- The digits of a number, the first of them zero only if it stands alone. -/
def digitsOf (n : Nat) : List Digit := (Nat.toDigits 10 n).filterMap Digit.ofChar?

def Whole.ofNat (n : Nat) : Whole := (ofDigits? (digitsOf n)).getD zero

def Number.ofInt (i : Int) : Number := ⟨i < 0, .ofNat i.natAbs, none, none⟩

def Document.ofInt (i : Int) : Document := .number (.ofInt i)

-- ---------------------------------------------------------------------------
-- Arrays and objects
-- ---------------------------------------------------------------------------

def Items.ofList : List Document → Items
  | [] => .close
  | d :: rest => .next [] d [] (.ofList rest)

def Document.ofList : List Document → Document
  | [] => .emptyArray []
  | d :: rest => .array [] d [] (.ofList rest)

def Members.ofList : List (String × Document) → Members
  | [] => .close
  | (key, d) :: rest => .next [] (.ofString key) [] [] d [] (.ofList rest)

/-- The object with the given members, in order. -/
def Document.ofFields : List (String × Document) → Document
  | [] => .emptyObject []
  | (key, d) :: rest => .object [] (.ofString key) [] [] d [] (.ofList rest)

-- ---------------------------------------------------------------------------
-- Text
-- ---------------------------------------------------------------------------

/-- The text of a document that has one. Documents that this library lays out always do. -/
def Document.text (d : Document) : String := .ofList ((d.write []).filterMap id)

theorem Document.text_eq (d : Document) : d.text = .ofList (d.render.filterMap id) := by
  simp [text, write_eq]

/-- A line break, and two spaces for each level. -/
def lineBreak (level : Nat) : Blanks := .lineFeed :: List.replicate (2 * level) .space

mutual
/-- The document laid out over lines: each item and each member on its own, a space after
    each colon, and nothing between the brackets of an empty array or object. -/
def Document.indented (level : Nat) : Document → Document
  | .emptyArray _ => .emptyArray []
  | .array _ value _ more =>
    .array (lineBreak (level + 1)) (value.indented (level + 1)) (more.gap level)
      (more.indented level)
  | .emptyObject _ => .emptyObject []
  | .object _ key _ _ value _ more =>
    .object (lineBreak (level + 1)) key [] [.space] (value.indented (level + 1))
      (more.gap level) (more.indented level)
  | d => d

/-- The blanks after an item: a line break before the bracket, nothing before a comma. -/
def Items.gap (level : Nat) : Items → Blanks
  | .close => lineBreak level
  | .next .. => []

def Items.indented (level : Nat) : Items → Items
  | .close => .close
  | .next _ value _ more =>
    .next (lineBreak (level + 1)) (value.indented (level + 1)) (more.gap level)
      (more.indented level)

def Members.gap (level : Nat) : Members → Blanks
  | .close => lineBreak level
  | .next .. => []

def Members.indented (level : Nat) : Members → Members
  | .close => .close
  | .next _ key _ _ value _ more =>
    .next (lineBreak (level + 1)) key [] [.space] (value.indented (level + 1))
      (more.gap level) (more.indented level)
end

end Sandbox.Json
