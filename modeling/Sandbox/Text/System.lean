-- SUMMARY: Texts as the system keeps them, which need not be Unicode.
import Sandbox.Text.Utf8

/-!
# Texts of the system

Paths, the words of a command line and the values of environment variables are
sequences of bytes. Most of them encode Unicode texts, but none of them has to.
-/

namespace Sandbox

/-- A text as the system keeps it. -/
structure SystemText where
  bytes : List UInt8
  deriving DecidableEq, Repr

namespace SystemText

/-- A Unicode text as the system keeps it. -/
def ofString (s : String) : SystemText := ⟨Text.Utf8.bytes s⟩

instance : Coe String SystemText := ⟨ofString⟩

/-- The Unicode text that the bytes encode, if they encode one. -/
def text? (t : SystemText) : Option String := String.fromUTF8? ⟨t.bytes.toArray⟩

def isEmpty (t : SystemText) : Bool := t.bytes.isEmpty

@[simp] theorem isEmpty_iff {t : SystemText} : t.isEmpty = true ↔ t = "" := by
  show t.bytes.isEmpty = true ↔ t = ⟨[]⟩
  rw [List.isEmpty_iff, SystemText.mk.injEq]

def length (t : SystemText) : Nat := t.bytes.length

/-- Whether the system would take the text to end early. -/
def hasNul (t : SystemText) : Bool := t.bytes.contains 0

/-- The byte between the components of a path. -/
def separator : UInt8 := 0x2F

def hasSeparator (t : SystemText) : Bool := t.bytes.contains separator

/-- Whether a path begins at the root. -/
def isAbsolute (t : SystemText) : Bool := t.bytes.head? = some separator

/-- The components of a path. -/
def components (t : SystemText) : List SystemText := (t.bytes.splitOn separator).map .mk

end SystemText
end Sandbox
