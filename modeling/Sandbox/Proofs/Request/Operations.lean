-- SUMMARY: Sequences of operations on a request: what was stored last is what the request shows.
import Sandbox.Proofs.Json.Compact
import Sandbox.Proofs.Request.Faults

/-!
# Operations on requests

A request is built up by operations, some of which store a list. Whatever came
before, the request shows the list stored last, valid or not, and it is read
back from its JSON text. Operations that fail leave it as it is.
-/

namespace Sandbox

open Sandbox.Json

theorem Topology.ofKey?_name (t : Topology) : ofKey? (.ofString t.name) = some t := by
  rw [ofKey?, content?_ofString]
  exact t.ofName?_name

namespace Request

variable {raw : String} {pairs : List (Topology × List Int64)} {r : Request} {t : Topology}
  {content : Option (List Int64)}

/-! ## JSON -/

/-- A text writes an object with these members: topologies by name, each with a list of integers.
    Members may be repeated. -/
def WrittenBy (raw : String) (pairs : List (Topology × List Int64)) : Prop :=
  ∃ d : Document, d.WrittenAs raw ∧
    d.pairs? Topology.ofKey? (·.list? Document.int64?) = some pairs

theorem read_eq_some_iff : Json.read raw >>= ofJson? = some r ↔
    ∃ pairs, WrittenBy raw pairs ∧ ofList pairs = r := by
  simp only [Option.bind_eq_bind, Option.bind_eq_some_iff, Json.read_eq_some_iff, ofJson?,
    Document.dict?, Option.map_map, Option.map_eq_some_iff, WrittenBy]
  constructor
  · rintro ⟨d, hraw, pairs, hpairs, rfl⟩
    exact ⟨pairs, ⟨d, hraw, hpairs⟩, rfl⟩
  · rintro ⟨pairs, ⟨d, hraw, hpairs⟩, rfl⟩
    exact ⟨d, hraw, pairs, hpairs, rfl⟩

theorem writtenBy_text (r : Request) : WrittenBy r.toJson.text r.entries := by
  refine ⟨r.toJson, Document.writtenAs_text ?_, ?_⟩
  · refine none_not_mem_ofFields (List.forall_mem_map.2 fun entry _ => ?_)
    exact none_not_mem_ofList (List.forall_mem_map.2 fun id _ => none_not_mem_ofInt id)
  · exact pairs?_ofFields Topology.ofKey?_name (list?_ofList int64?_ofInt) r.entries

/-- Every request is read back from its text. -/
theorem read_text (r : Request) : Json.read r.toJson.text >>= ofJson? = some r := by
  refine read_eq_some_iff.2 ⟨r.entries, writtenBy_text r, ?_⟩
  exact congrArg Request.mk (Dict.ofList_entries r.lists)

/-! ## What a request shows -/

/-- The text of a list of integers. -/
def listText (ids : List Int64) : String := "[" ++ ",".intercalate (ids.map toString) ++ "]"

/-- The text of a request for a list of builds, or for none. -/
def contentText (content : Option (List Int64)) : String :=
  let member (ids : List Int64) := "\"default_sandbox_x64_build_ids\":" ++ listText ids
  .singleton '{' ++ (content.map member).getD "" ++ .singleton '}'

/-- All that can be seen of a request is a list of builds in its order, or that there is none. -/
structure Shows (r : Request) (content : Option (List Int64)) : Prop where
  entries : r.entries = (content.map fun ids => (Topology.defaultX64, ids)).toList
  size : r.size = content.toList.length
  isEmpty : r.isEmpty = content.isNone
  text : r.toJson.text = contentText content

theorem text_ofList_ofInt (ids : List Int64) :
    (Document.ofList (ids.map fun id => .ofInt id.toInt)).text = listText ids := by
  rw [text_ofList, List.map_map, listText]
  congr 3
  exact List.map_congr_left fun id _ => text_ofInt id

theorem text_ofString_name :
    (Document.ofString Topology.defaultX64.name).text = "\"default_sandbox_x64_build_ids\"" := rfl

theorem text_toJson (h : r.lists.get? .defaultX64 = content) :
    r.toJson.text = contentText content := by
  rw [toJson, entries_eq, h, text_ofFields]
  cases content with
  | none => rfl
  | some ids =>
    have hkey : "\"default_sandbox_x64_build_ids\":" =
        "\"default_sandbox_x64_build_ids\"" ++ ":" := rfl
    simp only [Option.map_some, Option.toList_some, List.map_cons, List.map_nil, objectText,
      text_ofString_name, text_ofList_ofInt, String.intercalate_singleton, contentText, hkey,
      Option.getD_some]

theorem shows_of_get? (h : r.lists.get? .defaultX64 = content) : r.Shows content := by
  have hentries := r.entries_eq
  rw [h] at hentries
  refine ⟨hentries, ?_, ?_, text_toJson h⟩
  · show r.entries.length = _
    rw [hentries]
    cases content <;> rfl
  · show r.entries.isEmpty = _
    rw [hentries]
    cases content <;> rfl

/-! ## Operations -/

inductive Operation
  /-- Starts anew. -/
  | clear
  | insert (topology : Topology) (ids : List Int64)
  /-- Takes the request of a list of pairs. -/
  | collect (pairs : List (Topology × List Int64))
  /-- Takes the request that a JSON text writes. -/
  | read (raw : String)
  /-- Asks for the texts of the assignments. -/
  | render

inductive Answer
  | done
  /-- The text is not the JSON of a request. -/
  | unreadable
  | rendered (texts : List String)
  | refused (fault : RequestFault)

def perform (r : Request) : Operation → Request × Answer
  | .clear => (empty, .done)
  | .insert t ids => (r.insert t ids, .done)
  | .collect pairs => (ofList pairs, .done)
  | .read raw =>
    match Json.read raw >>= ofJson? with
    | some r' => (r', .done)
    | none => (r, .unreadable)
  | .render =>
    match r.assignments with
    | .ok vs => (r, .rendered (vs.map Assignment.text))
    | .error fault => (r, .refused fault)

/-- The request after some operations, from an empty one on. -/
def run (ops : List Operation) : Request := ops.foldl (fun r op => (r.perform op).1) empty

theorem run_concat (ops : List Operation) (op : Operation) :
    run (ops ++ [op]) = ((run ops).perform op).1 := by
  rw [run, List.foldl_append]
  rfl

/-! ## The list stored last -/

/-- The last list for a topology among pairs. -/
def lastFor (pairs : List (Topology × List Int64)) (t : Topology) : Option (List Int64) :=
  (pairs.filter (·.1 = t)).getLast?.map (·.2)

theorem get?_ofList (pairs : List (Topology × List Int64)) (t : Topology) :
    (ofList pairs).lists.get? t = lastFor pairs t := by
  rw [ofList, Dict.get?_ofList, Dict.lookup_reverse, lastFor]

/-- An operation decides what is stored for a topology: a list, or that there is none. -/
inductive Operation.Stores (t : Topology) : Operation → Option (List Int64) → Prop
  | clear : Stores t .clear none
  | insert (ids : List Int64) : Stores t (.insert t ids) (some ids)
  | collect (pairs : List (Topology × List Int64)) : Stores t (.collect pairs) (lastFor pairs t)
  | read {raw : String} {pairs : List (Topology × List Int64)} (hraw : WrittenBy raw pairs) :
      Stores t (.read raw) (lastFor pairs t)

/-- What the last of some operations that store anything for a topology stores; at first there is
    no list. -/
def StoredLast (t : Topology) (ops : List Operation) (content : Option (List Int64)) : Prop :=
  (∃ before op after, ops = before ++ op :: after ∧ op.Stores t content ∧
    ∀ op' ∈ after, ∀ content', ¬ op'.Stores t content') ∨
  (∀ op ∈ ops, ∀ content', ¬ op.Stores t content') ∧ content = none

theorem get?_perform_of_stores {op : Operation} (h : op.Stores t content) (r : Request) :
    (r.perform op).1.lists.get? t = content := by
  cases h with
  | clear => rfl
  | insert ids =>
    show (r.lists.insert t ids).get? t = some ids
    rw [Dict.get?_insert, if_pos rfl]
  | collect pairs => exact get?_ofList pairs t
  | read hraw =>
    have hread := read_eq_some_iff.2 ⟨_, hraw, rfl⟩
    rw [perform, hread]
    exact get?_ofList _ t

theorem get?_perform_of_not_stores {op : Operation} (h : ∀ content, ¬ op.Stores t content)
    (r : Request) : (r.perform op).1.lists.get? t = r.lists.get? t := by
  cases op with
  | clear => exact absurd .clear (h _)
  | insert t' ids =>
    have hne : t ≠ t' := by
      rintro rfl
      exact h _ (.insert ids)
    show (r.lists.insert t' ids).get? t = _
    rw [Dict.get?_insert, if_neg hne]
  | collect pairs => exact absurd (.collect pairs) (h _)
  | read raw =>
    have hread : Json.read raw >>= ofJson? = none := by
      refine Option.eq_none_iff_forall_ne_some.2 fun r' hr' => ?_
      obtain ⟨pairs, hraw, -⟩ := read_eq_some_iff.1 hr'
      exact h _ (.read hraw)
    rw [perform, hread]
  | render =>
    rw [perform]
    cases r.assignments <;> rfl

theorem storedLast_concat {ops : List Operation} {op : Operation} :
    StoredLast t (ops ++ [op]) content ↔
      op.Stores t content ∨ (∀ content', ¬ op.Stores t content') ∧ StoredLast t ops content := by
  constructor
  · rintro (⟨before, op', after, hsplit, hstores, hafter⟩ | ⟨hnone, rfl⟩)
    · -- The operation that stores last is the one added, or it stands among those before.
      obtain rfl | ⟨after', last, rfl⟩ := List.eq_nil_or_concat after
      · obtain ⟨rfl, hop⟩ := List.append_inj' hsplit rfl
        cases hop
        exact .inl hstores
      · rw [List.concat_eq_append] at hsplit hafter
        rw [← List.cons_append, ← List.append_assoc] at hsplit
        obtain ⟨rfl, hop⟩ := List.append_inj' hsplit rfl
        cases hop
        refine .inr ⟨hafter _ (by simp), .inl ⟨before, op', after', rfl, hstores, ?_⟩⟩
        exact fun op hop => hafter op (List.mem_append_left _ hop)
    · refine .inr ⟨hnone _ (by simp), .inr ⟨?_, rfl⟩⟩
      exact fun op hop => hnone op (List.mem_append_left _ hop)
  · rintro (hstores | ⟨hnone, ⟨before, op', after, rfl, hstores, hafter⟩ | ⟨hnever, rfl⟩⟩)
    · exact .inl ⟨ops, op, [], rfl, hstores, by simp⟩
    · refine .inl ⟨before, op', after ++ [op], by simp, hstores, ?_⟩
      exact List.forall_mem_append.2 ⟨hafter, List.forall_mem_singleton.2 hnone⟩
    · exact .inr ⟨List.forall_mem_append.2 ⟨hnever, List.forall_mem_singleton.2 hnone⟩, rfl⟩

/-- What was stored last is what the request has in the end. -/
theorem storedLast_iff (ops : List Operation) :
    StoredLast t ops content ↔ (run ops).lists.get? t = content := by
  induction ops using List.reverseRecOn generalizing content with
  | nil =>
    have hempty : (run []).lists.get? t = none := rfl
    rw [hempty]
    simp [StoredLast, eq_comm]
  | append_singleton ops op ih =>
    rw [storedLast_concat, run_concat, ih]
    by_cases hstores : ∃ content', op.Stores t content'
    · obtain ⟨content', hcontent'⟩ := hstores
      rw [get?_perform_of_stores hcontent']
      constructor
      · rintro (hcontent | ⟨hnone, -⟩)
        · rw [← get?_perform_of_stores hcontent' (run ops), get?_perform_of_stores hcontent]
        · exact absurd hcontent' (hnone _)
      · rintro rfl
        exact .inl hcontent'
    · have hnone := not_exists.1 hstores
      rw [get?_perform_of_not_stores hnone, or_iff_right (hnone content), and_iff_right hnone]

/-! ## Every state reached -/

/-- An operation that fails. -/
def Answer.Fails : Answer → Prop
  | .done => False
  | .rendered _ => False
  | .unreadable => True
  | .refused _ => True

theorem perform_read_unreadable_iff :
    (r.perform (.read raw)).2 = .unreadable ↔ ¬ ∃ pairs, WrittenBy raw pairs := by
  have hread : (∃ r', Json.read raw >>= ofJson? = some r') ↔ ∃ pairs, WrittenBy raw pairs := by
    simp only [read_eq_some_iff]
    rw [exists_comm]
    simp
  rw [← hread, perform]
  cases Json.read raw >>= ofJson? <;> simp

theorem perform_render_refused_iff {fault : RequestFault} :
    (r.perform .render).2 = .refused fault ↔ r.Refused fault := by
  rw [← assignments_eq_error_iff, perform]
  cases r.assignments <;> simp

theorem perform_of_fails {op : Operation} (h : (r.perform op).2.Fails) : (r.perform op).1 = r := by
  cases op with
  | read raw =>
    rw [perform] at h ⊢
    cases hread : Json.read raw >>= ofJson? with
    | none => rfl
    | some r' =>
      rw [hread] at h
      cases h
  | render =>
    rw [perform]
    cases r.assignments <;> rfl
  | _ => cases h

/-- Whatever the operations, the request shows the list that was stored last and is read back from
    its JSON text. An operation that fails leaves it as it is: reading fails on the texts that
    write no request, and rendering on a request that breaks a rule. -/
theorem shows_list_stored_last (ops : List Operation) :
    ∃ content, (∀ content', StoredLast .defaultX64 ops content' ↔ content' = content) ∧
      (run ops).Shows content ∧
      (Json.read (run ops).toJson.text >>= ofJson?) = some (run ops) ∧
      (∀ op, ((run ops).perform op).2.Fails → ((run ops).perform op).1 = run ops) ∧
      (∀ raw, ((run ops).perform (.read raw)).2 = .unreadable ↔
        ¬ ∃ pairs, WrittenBy raw pairs) ∧
      ∀ fault, ((run ops).perform .render).2 = .refused fault ↔ (run ops).Refused fault :=
  ⟨_, fun _ => (storedLast_iff ops).trans eq_comm, shows_of_get? rfl, read_text _,
    fun _ h => perform_of_fails h, fun _ => perform_read_unreadable_iff,
    fun _ => perform_render_refused_iff⟩

example : (run [.insert .defaultX64 [3, 3, -1], .read "[]", .render]).entries =
    [(.defaultX64, [3, 3, -1])] := rfl

end Request

end Sandbox
