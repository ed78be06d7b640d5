-- SUMMARY: Documents embedded in a document as the text of a string.
import Sandbox.Json.Content
import Sandbox.Json.Reader

/-!
# Embedded documents

A document may hold another one as text: an object whose only member has the key
`embeddingKey` stands for the document that the member's string writes, and that
document may embed others in turn. `Document.expand?` puts every embedded
document in the place of the object that stands for it.

The first key of an object decides. After `embeddingKey` nothing but a string
that writes a document is accepted, and no other member; as a later key it is
like any other.
-/

namespace Sandbox.Json

/-- The key of the member that holds an embedded document. -/
def embeddingKey : String := "$serde_json::private::RawValue"

/-- The number of arrays and objects that may be open at once within one text. -/
def nestingLimit : Nat := 127

mutual
/-- Replaces the objects that stand for embedded documents, which `embedded` finds from
    their texts. -/
def Document.expandWith? (embedded : String → Option Document) : Document → Option Document
  | .array before value after more => do
    return .array before (← value.expandWith? embedded) after (← more.expandWith? embedded)
  | .object before key afterKey beforeValue value after more =>
    if key.content? = some embeddingKey then
      match more with
      | .close => value.string? >>= embedded
      | .next .. => none
    else do
      return .object before key afterKey beforeValue (← value.expandWith? embedded) after
        (← more.expandWith? embedded)
  | d => some d

def Items.expandWith? (embedded : String → Option Document) : Items → Option Items
  | .close => some .close
  | .next before value after more => do
    return .next before (← value.expandWith? embedded) after (← more.expandWith? embedded)

def Members.expandWith? (embedded : String → Option Document) : Members → Option Members
  | .close => some .close
  | .next before key afterKey beforeValue value after more => do
    return .next before key afterKey beforeValue (← value.expandWith? embedded) after
      (← more.expandWith? embedded)
end

/-- Expands a document whose embedded documents lie at most `levels` deep in each other.
    Each of them is a text of its own and may nest up to the limit. -/
def Document.expandWithin? : Nat → Document → Option Document
  | 0, d => d.expandWith? fun _ => none
  | levels + 1, d => d.expandWith? fun text => do
    let inner ← read text
    if inner.depth ≤ nestingLimit then inner.expandWithin? levels else none

/-- The document with every embedded document in its place. A text is shorter than the one
    that embeds it, so there are no more levels than symbols. -/
def Document.expand? (d : Document) : Option Document := d.expandWithin? (d.write []).length

end Sandbox.Json
