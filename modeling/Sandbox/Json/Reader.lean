-- SUMMARY: Reading JSON documents; the reader keeps everything that is written.
import Sandbox.Json.Document

/-!
# Reading JSON documents

The reader follows the grammar alone: what a string, a number or a repeated
member means is not its concern. Every reader takes its part from the left and
returns the rest. `read` wants one document between blanks and nothing else.

A document read from a text renders to exactly that text, so reading loses
nothing; nesting has no limit here.
-/

namespace Sandbox.Json

open Sandbox.Text

-- ---------------------------------------------------------------------------
-- Blanks and digits
-- ---------------------------------------------------------------------------

def Blank.ofChar? : Char → Option Blank
  | ' ' => some .space
  | '\t' => some .tab
  | '\n' => some .lineFeed
  | '\r' => some .carriageReturn
  | _ => none

/-- The blanks ahead, and the rest. -/
def readBlanks : List Symbol → Blanks × List Symbol
  | some c :: rest =>
    match Blank.ofChar? c with
    | some b =>
      let (bs, rest) := readBlanks rest
      (b :: bs, rest)
    | none => ([], some c :: rest)
  | s => ([], s)

/-- The digits ahead, and the rest. -/
def readDigits : List Symbol → List Digit × List Symbol
  | some c :: rest =>
    match Digit.ofChar? c with
    | some d =>
      let (ds, rest) := readDigits rest
      (d :: ds, rest)
    | none => ([], some c :: rest)
  | s => ([], s)

/-- A digit, the digits after it, and the rest. -/
def readSomeDigits : List Symbol → Option (Digit × List Digit × List Symbol)
  | some c :: rest => do
    let d ← Digit.ofChar? c
    let (ds, rest) := readDigits rest
    return (d, ds, rest)
  | _ => none

-- ---------------------------------------------------------------------------
-- Numbers
-- ---------------------------------------------------------------------------

/-- The digits before the point. A leading zero must not be followed by a digit. -/
def readWhole (s : List Symbol) : Option (Whole × List Symbol) := do
  let (lead, more, rest) ← readSomeDigits s
  return (← Whole.ofDigits? (lead :: more), rest)

def readFraction : List Symbol → Option (Option Fraction × List Symbol)
  | some '.' :: rest => do
    let (lead, more, rest) ← readSomeDigits rest
    return (some ⟨lead, more⟩, rest)
  | s => some (none, s)

def readExponentSign : List Symbol → ExponentSign × List Symbol
  | some '+' :: rest => (.plus, rest)
  | some '-' :: rest => (.minus, rest)
  | s => (.implicit, s)

def readExponentAfter (upperCase : Bool) (s : List Symbol) :
    Option (Option Exponent × List Symbol) := do
  let (sign, s) := readExponentSign s
  let (lead, more, rest) ← readSomeDigits s
  return (some ⟨upperCase, sign, lead, more⟩, rest)

def readExponent : List Symbol → Option (Option Exponent × List Symbol)
  | some 'e' :: rest => readExponentAfter false rest
  | some 'E' :: rest => readExponentAfter true rest
  | s => some (none, s)

def readSign : List Symbol → Bool × List Symbol
  | some '-' :: rest => (true, rest)
  | s => (false, s)

def readNumber (s : List Symbol) : Option (Number × List Symbol) := do
  let (negative, s) := readSign s
  let (whole, s) ← readWhole s
  let (fraction, s) ← readFraction s
  let (exponent, s) ← readExponent s
  return (⟨negative, whole, fraction, exponent⟩, s)

-- ---------------------------------------------------------------------------
-- Strings
-- ---------------------------------------------------------------------------

def Escape.ofMark? : Char → Option Escape
  | '"' => some .quote
  | '\\' => some .backslash
  | '/' => some .slash
  | 'b' => some .backspace
  | 'f' => some .formFeed
  | 'n' => some .lineFeed
  | 'r' => some .carriageReturn
  | 't' => some .tab
  | _ => none

/-- The pieces of a string after its opening quote, and what follows its closing quote. -/
def readPieces : List Symbol → Option (Pieces × List Symbol)
  | [] => none
  | none :: rest => do
    let (ps, rest) ← readPieces rest
    return (.illFormed :: ps, rest)
  | some '"' :: rest => some ([], rest)
  | some '\\' :: some 'u' :: some a :: some b :: some c :: some d :: rest => do
    let a ← HexDigit.ofChar? a
    let b ← HexDigit.ofChar? b
    let c ← HexDigit.ofChar? c
    let d ← HexDigit.ofChar? d
    let (ps, rest) ← readPieces rest
    return (.unit a b c d :: ps, rest)
  | some '\\' :: some mark :: rest => do
    let e ← Escape.ofMark? mark
    let (ps, rest) ← readPieces rest
    return (.escape e :: ps, rest)
  | some c :: rest =>
    if h : isPlain c then do
      let (ps, rest) ← readPieces rest
      return (.plain c h :: ps, rest)
    else none

/-- A string with its quotes. -/
def readString : List Symbol → Option (Pieces × List Symbol)
  | some '"' :: rest => readPieces rest
  | _ => none

-- ---------------------------------------------------------------------------
-- Documents
-- ---------------------------------------------------------------------------

/-- Reads one character that has to be there. -/
def expect (c : Char) : List Symbol → Option (List Symbol)
  | some c' :: rest => if c' = c then some rest else none
  | _ => none

mutual
/-- Reads a document. The number bounds how many documents and separators may follow each
    other inwards; the length of the text is always enough. -/
def readDocument : Nat → List Symbol → Option (Document × List Symbol)
  | 0, _ => none
  | fuel + 1, s =>
    match s with
    | some 'n' :: some 'u' :: some 'l' :: some 'l' :: rest => some (.null, rest)
    | some 't' :: some 'r' :: some 'u' :: some 'e' :: rest => some (.boolean true, rest)
    | some 'f' :: some 'a' :: some 'l' :: some 's' :: some 'e' :: rest =>
      some (.boolean false, rest)
    | some '"' :: rest => do
      let (ps, rest) ← readPieces rest
      return (.string ps, rest)
    | some '[' :: rest =>
      let (before, rest) := readBlanks rest
      match expect ']' rest with
      | some rest => some (.emptyArray before, rest)
      | none => do
        let (value, rest) ← readDocument fuel rest
        let (after, rest) := readBlanks rest
        let (more, rest) ← readItems fuel rest
        return (.array before value after more, rest)
    | some '{' :: rest =>
      let (before, rest) := readBlanks rest
      match expect '}' rest with
      | some rest => some (.emptyObject before, rest)
      | none => do
        let (key, rest) ← readString rest
        let (afterKey, rest) := readBlanks rest
        let rest ← expect ':' rest
        let (beforeValue, rest) := readBlanks rest
        let (value, rest) ← readDocument fuel rest
        let (after, rest) := readBlanks rest
        let (more, rest) ← readMembers fuel rest
        return (.object before key afterKey beforeValue value after more, rest)
    | s => do
      let (n, rest) ← readNumber s
      return (.number n, rest)

def readItems : Nat → List Symbol → Option (Items × List Symbol)
  | 0, _ => none
  | fuel + 1, s =>
    match expect ']' s with
    | some rest => some (.close, rest)
    | none => do
      let rest ← expect ',' s
      let (before, rest) := readBlanks rest
      let (value, rest) ← readDocument fuel rest
      let (after, rest) := readBlanks rest
      let (more, rest) ← readItems fuel rest
      return (.next before value after more, rest)

def readMembers : Nat → List Symbol → Option (Members × List Symbol)
  | 0, _ => none
  | fuel + 1, s =>
    match expect '}' s with
    | some rest => some (.close, rest)
    | none => do
      let rest ← expect ',' s
      let (before, rest) := readBlanks rest
      let (key, rest) ← readString rest
      let (afterKey, rest) := readBlanks rest
      let rest ← expect ':' rest
      let (beforeValue, rest) := readBlanks rest
      let (value, rest) ← readDocument fuel rest
      let (after, rest) := readBlanks rest
      let (more, rest) ← readMembers fuel rest
      return (.next before key afterKey beforeValue value after more, rest)
end

/-- The document that a text writes, if the whole text is one between blanks. -/
def readSymbols (s : List Symbol) : Option Document := do
  let (d, rest) ← readDocument s.length (readBlanks s).2
  if (readBlanks rest).2 = [] then some d else none

def read (text : String) : Option Document := readSymbols (symbols text)

def readBytes (bytes : List UInt8) : Option Document := readSymbols (Utf8.decode bytes)

end Sandbox.Json
