-- SUMMARY: Build IDs: positive 64-bit integers, in numeric order, with their JSON forms.
import Sandbox.Json.Layout
import Sandbox.Text.Integer

/-!
# Build IDs

A build ID names the build whose binaries populate a sandbox instance.
-/

namespace Sandbox

/-- The least build ID. -/
def BuildId.minimum : Int64 := 1

/-- A positive signed 64-bit integer. -/
structure BuildId where
  value : Int64
  positive : BuildId.minimum ≤ value
  deriving DecidableEq

namespace BuildId

def ofInt64? (id : Int64) : Option BuildId :=
  if h : minimum ≤ id then some ⟨id, h⟩ else none

instance : ToString BuildId := ⟨fun id => toString id.value⟩

-- ---------------------------------------------------------------------------
-- Order
-- ---------------------------------------------------------------------------

instance : Ord BuildId := ⟨fun a b => compare a.value b.value⟩

instance : Std.TransOrd BuildId where
  eq_swap {a b} := by
    show compare a.value b.value = (compare b.value a.value).swap
    exact Std.OrientedCmp.eq_swap
  isLE_trans {a b c} := by
    show (compare a.value b.value).isLE → (compare b.value c.value).isLE →
      (compare a.value c.value).isLE
    exact Std.TransCmp.isLE_trans

instance : Std.LawfulEqOrd BuildId where
  compare_self {a} := by
    show compare a.value a.value = .eq
    exact Std.ReflCmp.compare_self
  eq_of_compare {a b} h := by
    have hvalue : a.value = b.value :=
      Std.LawfulEqCmp.eq_of_compare (show compare a.value b.value = .eq from h)
    cases a; cases b; cases hvalue; rfl

-- ---------------------------------------------------------------------------
-- JSON
-- ---------------------------------------------------------------------------

open Sandbox.Json

def toJson (id : BuildId) : Document := .ofInt id.value.toInt

def ofJson? (d : Document) : Option BuildId := d.int64? >>= ofInt64?

/-- The key under which an object holds what belongs to a build. -/
def key (id : BuildId) : String := toString id

/-- The characters of a string that is written without any escape. -/
def unescaped? (ps : Pieces) : Option (List Char) :=
  ps.mapM fun
    | .plain c _ => some c
    | _ => none

/-- Reads a key, which must be written just as `key` writes it. -/
def ofKey? (ps : Pieces) : Option BuildId := do
  let cs ← unescaped? ps
  let id ← (Text.readInteger cs).toOption >>= ofInt64?
  if id.key.toList = cs then some id else none

end BuildId
end Sandbox
