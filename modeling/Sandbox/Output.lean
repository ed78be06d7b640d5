-- SUMMARY: The tool's outputs: named values kept as the JSON text they were reported in.
import Sandbox.Json.Canonical
import Sandbox.Json.Embedded

/-!
# Outputs

The tool reports its outputs as an object of entries by name. The value of an
entry is kept as the text it was written in, without blanks around it; its type
is kept in canonical form, with embedded documents expanded.
-/

namespace Sandbox

open Sandbox.Json

/-- One output of the tool. -/
structure Output where
  sensitive : Bool
  /-- The type that the tool reports, in canonical form. -/
  type : Document
  /-- The text of the value. -/
  value : String

/-- Outputs by name. -/
abbrev Outputs := Dict String Output

namespace Output

/-- An output of unknown type with the value that a JSON text writes. -/
def ofValue? (raw : String) : Option Output := do
  let d ← Json.read raw
  return ⟨false, .null, ← d.text?⟩

/-- The entry of an output as JSON text. -/
def text (o : Output) : String :=
  let sensitive := (Document.boolean o.sensitive).text
  .singleton '{' ++ r#""sensitive":"# ++ sensitive ++ r#","type":"# ++ o.type.text ++
    r#","value":"# ++ o.value ++ .singleton '}'

/-- The type that a document writes. It lies two levels deep, in an entry and in the object of
    all entries. -/
def typeOf? (d : Document) : Option Document :=
  if d.depth + 2 ≤ nestingLimit then d.expand? >>= Document.canonical? else none

def ofParts? (sensitive type : Option Document) (value : Document) : Option Output := do
  let sensitive ← match sensitive with
    | none => some false
    | some d => d.boolean?
  let type ← match type with
    | none => some .null
    | some d => typeOf? d
  return ⟨sensitive, type, ← value.text?⟩

/-- Reads an entry from an object, in which only the value is required, or from an array of
    sensitivity, type and value. -/
def ofJson? (d : Document) : Option Output := do
  match d.items? with
  | some [sensitive, type, value] => ofParts? (some sensitive) (some type) value
  | some _ => none
  | none =>
    let fields ← d.fields? ["sensitive", "type", "value"]
    ofParts? (fields.lookup "sensitive") (fields.lookup "type") (← fields.lookup "value")

end Output

namespace Outputs

def ofJson? (d : Document) : Option Outputs := d.dict? Pieces.content? Output.ofJson?

def ofText? (raw : String) : Option Outputs := Json.read raw >>= ofJson?

def ofBytes? (bytes : List UInt8) : Option Outputs := Json.readBytes bytes >>= ofJson?

end Outputs
end Sandbox
