-- SUMMARY: Indenting a JSON document changes neither what it means nor that its text writes it.
import Sandbox.Proofs.Json.Layout

/-!
# Indented documents

An indented document has the items and members of the document it was made of,
each of them indented one level further. Readers that look at nothing else read
the same from both, and so do the readers of lists, dictionaries and records
that are built from such readers.
-/

namespace Sandbox.Json

/-! ## Texts -/

theorem Blanks.none_not_mem_render (bs : Blanks) : none ∉ bs.render := by
  simp [Blanks.render]

mutual
theorem Document.none_not_mem_indented (d : Document) (level : Nat) (h : none ∉ d.render) :
    none ∉ (d.indented level).render := by
  cases d with
  | array before value after more =>
    simp only [Document.render, List.mem_append, not_or] at h
    have hvalue := value.none_not_mem_indented (level + 1) h.1.1.2
    have hmore := more.none_not_mem_indented level h.2
    simp [Document.indented, Document.render, Blanks.none_not_mem_render, hvalue, hmore]
  | object before key afterKey beforeValue value after more =>
    simp only [Document.render, List.mem_append, not_or] at h
    have hkey : none ∉ key.render := h.1.1.1.1.1.2
    have hvalue := value.none_not_mem_indented (level + 1) h.1.1.2
    have hmore := more.none_not_mem_indented level h.2
    simp [Document.indented, Document.render, Blanks.none_not_mem_render, hkey, hvalue, hmore]
  | emptyArray inner => simp [Document.indented, Document.render, Blanks.render]
  | emptyObject inner => simp [Document.indented, Document.render, Blanks.render]
  | _ => exact h

theorem Items.none_not_mem_indented (is : Items) (level : Nat) (h : none ∉ is.render) :
    none ∉ (is.indented level).render := by
  cases is with
  | close => exact h
  | next before value after more =>
    simp only [Items.render, List.mem_append, not_or] at h
    have hvalue := value.none_not_mem_indented (level + 1) h.1.1.2
    have hmore := more.none_not_mem_indented level h.2
    simp [Items.indented, Items.render, Blanks.none_not_mem_render, hvalue, hmore]

theorem Members.none_not_mem_indented (ms : Members) (level : Nat) (h : none ∉ ms.render) :
    none ∉ (ms.indented level).render := by
  cases ms with
  | close => exact h
  | next before key afterKey beforeValue value after more =>
    simp only [Members.render, List.mem_append, not_or] at h
    have hkey : none ∉ key.render := h.1.1.1.1.1.2
    have hvalue := value.none_not_mem_indented (level + 1) h.1.1.2
    have hmore := more.none_not_mem_indented level h.2
    simp [Members.indented, Members.render, Blanks.none_not_mem_render, hkey, hvalue, hmore]
end

/-- A line break behind a text leaves it the text of the same document. -/
theorem Document.WrittenAs.append_newline {d : Document} {raw : String} (h : d.WrittenAs raw) :
    d.WrittenAs (raw ++ "\n") := by
  rcases h with ⟨before, after, hraw⟩
  refine ⟨before, after ++ [.lineFeed], ?_⟩
  have hsymbols : Text.symbols (raw ++ "\n") = Text.symbols raw ++ [some '\n'] := by
    simp [Text.symbols]
  rw [hsymbols, hraw]
  simp [Blanks.render, Blank.char]

/-! ## Items and members -/

theorem Items.values_indented (is : Items) (level : Nat) :
    (is.indented level).values = is.values.map (·.indented (level + 1)) := by
  cases is with
  | close => rfl
  | next before value after more =>
    simp only [Items.indented, Items.values, Items.values_indented more, List.map_cons]

theorem Members.pairs_indented (ms : Members) (level : Nat) :
    (ms.indented level).pairs = ms.pairs.map fun (key, d) => (key, d.indented (level + 1)) := by
  cases ms with
  | close => rfl
  | next before key afterKey beforeValue value after more =>
    simp only [Members.indented, Members.pairs, Members.pairs_indented more, List.map_cons]

theorem items?_indented (d : Document) (level : Nat) :
    (d.indented level).items? = d.items?.map (List.map (·.indented (level + 1))) := by
  cases d with
  | array before value after more =>
    simp [Document.indented, Document.items?, Items.values_indented]
  | _ => rfl

theorem members?_indented (d : Document) (level : Nat) :
    (d.indented level).members? =
      d.members?.map (List.map fun (key, d) => (key, d.indented (level + 1))) := by
  cases d with
  | object before key afterKey beforeValue value after more =>
    simp [Document.indented, Document.members?, Members.pairs_indented]
  | _ => rfl

/-- A reader of values that follows the indentation makes the reader of members follow it. -/
theorem pairs?_indented {κ ν : Type} (f : Pieces → Option κ) {g : Document → Option ν} {k : ν → ν}
    {level : Nat} (hg : ∀ d : Document, g (d.indented (level + 1)) = (g d).map k) (d : Document) :
    (d.indented level).pairs? f g =
      (d.pairs? f g).map (List.map fun pair => (pair.1, k pair.2)) := by
  simp only [Document.pairs?, members?_indented]
  cases d.members? with
  | none => rfl
  | some members =>
    simp only [Option.map_some, Option.bind_eq_bind, Option.bind_some, List.mapM_map,
      ← Checks.mapM_option_map]
    refine congrArg (members.mapM ·) (funext fun member => ?_)
    simp only [Function.comp_apply, hg member.2]
    cases f member.1 <;> cases g member.2 <;> rfl

/-! ## Readers -/

/-- A reader finds in every indented document what it finds in the document itself. -/
def IgnoresIndent {α : Type} (f : Document → Option α) : Prop :=
  ∀ d level, f (d.indented level) = f d

namespace IgnoresIndent

variable {α κ ν : Type}

theorem string? : IgnoresIndent Document.string? := by
  intro d level
  cases d <;> rfl

theorem list? {f : Document → Option α} (hf : IgnoresIndent f) : IgnoresIndent (·.list? f) := by
  intro d level
  simp only [Document.list?, items?_indented]
  cases d.items? with
  | none => rfl
  | some ds =>
    show (ds.map _).mapM f = ds.mapM f
    rw [List.mapM_map]
    exact congrArg (ds.mapM ·) (funext fun d => hf d (level + 1))

theorem pairs? {f : Pieces → Option κ} {g : Document → Option ν} (hg : IgnoresIndent g) :
    IgnoresIndent (·.pairs? f g) := by
  intro d level
  have hvalue : ∀ d : Document, g (d.indented (level + 1)) = (g d).map id := by
    intro d
    rw [hg d (level + 1), Option.map_id, id]
  simpa using pairs?_indented f hvalue d

theorem dict? [Ord κ] [Std.TransOrd κ] [Std.LawfulEqOrd κ] {f : Pieces → Option κ}
    {g : Document → Option ν} (hg : IgnoresIndent g) : IgnoresIndent (·.dict? f g) := by
  intro d level
  simp only [Document.dict?, pairs? hg d level]

end IgnoresIndent

theorem isNull_indented (d : Document) (level : Nat) : (d.indented level).isNull = d.isNull := by
  cases d <;> rfl

/-- The fields of an indented record are those of the record, under the same names. -/
theorem fields?_indented (names : List String) (d : Document) (level : Nat) :
    (d.indented level).fields? names =
      (d.fields? names).map (List.map fun (name, d) => (name, d.indented (level + 1))) := by
  have hpairs := pairs?_indented Pieces.content? (g := some)
    (k := fun d => d.indented (level + 1)) (fun d => rfl) d
  simp only [Document.fields?, hpairs]
  cases d.pairs? Pieces.content? some with
  | none => rfl
  | some pairs =>
    simp [List.filter_map, Function.comp_def]

theorem lookup_indented (name : String) (fields : List (String × Document)) (level : Nat) :
    (fields.map fun (name, d) => (name, d.indented level)).lookup name =
      (fields.lookup name).map (·.indented level) := by
  induction fields with
  | nil => rfl
  | cons field fields ih =>
    obtain ⟨name', d⟩ := field
    simp only [List.map_cons, List.lookup_cons, ih]
    cases name == name' <;> rfl

end Sandbox.Json
