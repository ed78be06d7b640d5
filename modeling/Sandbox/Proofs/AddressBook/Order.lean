-- SUMMARY: Which addresses of a document a decoded book keeps, and in which order.
import Mathlib.Data.List.Flatten
import Sandbox.Proofs.AddressBook
import Sandbox.Proofs.Json.Verbatim

/-!
# Kept addresses

Decoding takes the members of an object in ascending order of their keys, and
of members with the same key only the last. So a book lists all that a document
lists, in the order of the document, unless a key is repeated or the keys of one
build do not ascend.
-/

namespace Sandbox.AddressBook

open Checks Sandbox.Json

variable {raw : String} {book : AddressBook} {lists : Dict String (List String)}
  {members : List (String × List String)} {id : BuildId}

/-! ## Texts listed for a build -/

/-- The texts that members list for a build, one member after the other. -/
def textsFor (members : List (String × List String)) (id : BuildId) : List String :=
  members.flatMap fun member => if Text.integer member.1 = .ok id.value then member.2 else []

/-- A book lists for a build the addresses that some texts write, in their order. -/
def Lists (book : AddressBook) (id : BuildId) (texts : List String) : Prop :=
  texts.map Address.ofText? = (book.addresses id).map some

instance (book : AddressBook) (id : BuildId) (texts : List String) :
    Decidable (book.Lists id texts) :=
  inferInstanceAs (Decidable (texts.map Address.ofText? = (book.addresses id).map some))

theorem Lists.length_eq {texts : List String} (h : book.Lists id texts) :
    texts.length = (book.addresses id).length := by
  simpa using congrArg List.length h

theorem length_textsFor_of_perm {members' : List (String × List String)}
    (h : members.Perm members') (id : BuildId) :
    (textsFor members id).length = (textsFor members' id).length :=
  (h.flatMap_right _).length_eq

theorem length_textsFor (members : List (String × List String)) (id : BuildId) :
    (textsFor members id).length =
      (textsFor (Dict.latest members) id).length +
        (textsFor (Dict.overwritten members) id).length := by
  rw [length_textsFor_of_perm (Dict.perm_latest_append_overwritten members) id, textsFor,
    List.flatMap_append, List.length_append]
  rfl

/-- The latest members list all texts exactly if the overwritten ones list none. -/
theorem textsFor_latest_eq_iff :
    textsFor (Dict.latest members) id = textsFor members id ↔
      textsFor (Dict.overwritten members) id = [] := by
  have hsub : (textsFor (Dict.latest members) id).Sublist (textsFor members id) :=
    (Dict.latest_sublist members).flatMap _
  have hlength := length_textsFor members id
  rw [← hsub.length_eq, ← List.length_eq_zero_iff]
  omega

/-! ## What a book lists -/

theorem addresses_appendAll (book : AddressBook) (found : List (BuildId × List Address))
    (id : BuildId) :
    (book.appendAll found).addresses id = book.addresses id ++ listedFor id found := by
  induction found generalizing book with
  | nil => exact (List.append_nil _).symm
  | cons member found ih =>
    show ((book.append member.1 member.2).appendAll found).addresses id = _
    rw [ih, addresses_append, List.append_assoc]
    rfl

theorem Denotes.map_ofText? {key : String} {values : List String} {id : BuildId}
    {as : List Address} (h : Denotes key values id as) :
    values.map Address.ofText? = as.map some := by
  rw [← List.forall₂_eq_eq_eq, List.forall₂_map_left_iff, List.forall₂_map_right_iff]
  exact h.2.2

/-- What a member lists for a build, as texts and as addresses. -/
theorem Denotes.map_textsFor {key : String} {values : List String} {id' : BuildId}
    {as : List Address} (h : Denotes key values id' as) (id : BuildId) :
    (if Text.integer key = .ok id.value then values else []).map Address.ofText? =
      (if id' = id then as else []).map some := by
  by_cases hid : id' = id
  · subst hid
    rw [if_pos h.1, if_pos rfl]
    exact h.map_ofText?
  · rw [if_neg hid, if_neg fun hkey => hid ?_]
    · rfl
    · exact BuildId.value_injective (Except.ok.inj (h.1.symm.trans hkey))

/-- A book lists what the entries of the decoded object list, in the order of their keys. -/
theorem lists_of_ofLists (h : ofLists lists = .ok book) (id : BuildId) :
    book.Lists id (textsFor lists.entries id) := by
  rw [ofLists_eq, map_eq_ok] at h
  obtain ⟨found, hfound, rfl⟩ := h
  have hshares : found.map (fun member => (if member.1 = id then member.2 else []).map some) =
      lists.entries.map fun entry =>
        (if Text.integer entry.1 = .ok id.value then entry.2 else []).map Address.ofText? :=
    map_eq_map_of_mapM_eq_ok
      (fun _ _ _ hentry => ((entryOf_eq_ok.1 hentry).map_textsFor id).symm) hfound
  rw [Lists, addresses_appendAll, textsFor, List.map_flatMap, List.flatMap_def, ← hshares,
    ← List.flatMap_def, ← List.map_flatMap]
  rfl

theorem exists_denotes_of_ofLists (h : ofLists (Dict.ofList members) = .ok book)
    {member : String × List String} (hmember : member ∈ members) :
    ∃ id : BuildId, Text.integer member.1 = .ok id.value := by
  obtain ⟨values, hvalues⟩ := Dict.exists_get?_ofList_iff.2 ⟨member.2, hmember⟩
  obtain ⟨id, as, hdenotes⟩ := exists_ofLists_iff.1 ⟨book, h⟩ _ _ hvalues
  exact ⟨id, hdenotes.1⟩

/-! ## How many addresses a book lists -/

/-- The number of addresses in a book. -/
def count (book : AddressBook) : Nat := (book.entries.flatMap (·.2)).length

/-- The number of texts that members list. -/
def textCount (members : List (String × List String)) : Nat := (members.flatMap (·.2)).length

theorem textCount_of_perm {members' : List (String × List String)} (h : members.Perm members') :
    textCount members = textCount members' :=
  (h.flatMap_right _).length_eq

theorem textCount_eq_zero_iff : textCount members = 0 ↔ ∀ member ∈ members, member.2 = [] := by
  rw [textCount, List.length_eq_zero_iff, List.flatMap_eq_nil_iff]

theorem count_append (book : AddressBook) (id : BuildId) (more : List Address) :
    (book.append id more).count = book.count + more.length := by
  have hlength := Dict.length_flatMap_insert (·.2) book id (book.addresses id ++ more)
  have hold : ((book.get? id).map fun as => as).getD [] = book.addresses id := by
    rw [Option.map_id']
    rfl
  simp only [hold, List.length_append] at hlength
  unfold count append
  omega

theorem count_appendAll (book : AddressBook) (found : List (BuildId × List Address)) :
    (book.appendAll found).count = book.count + (found.flatMap (·.2)).length := by
  induction found generalizing book with
  | nil => rfl
  | cons member found ih =>
    show ((book.append member.1 member.2).appendAll found).count = _
    rw [ih, count_append, List.flatMap_cons, List.length_append, Nat.add_assoc]

theorem count_of_ofLists (h : ofLists lists = .ok book) : book.count = textCount lists.entries := by
  rw [ofLists_eq, map_eq_ok] at h
  obtain ⟨found, hfound, rfl⟩ := h
  have hshares : found.map (fun member => member.2.map some) =
      lists.entries.map fun entry => entry.2.map Address.ofText? :=
    map_eq_map_of_mapM_eq_ok (fun _ _ _ hentry => (entryOf_eq_ok.1 hentry).map_ofText?.symm) hfound
  have hall := congrArg (List.length ∘ List.flatten) hshares
  simp only [Function.comp_apply, ← List.flatMap_def, ← List.map_flatMap, List.length_map] at hall
  rw [count_appendAll, hall]
  exact Nat.zero_add _

/-! ## Documents -/

theorem writes_iff :
    Writes raw members ↔
      (Json.read raw).bind (·.pairs? Pieces.content? (·.list? Document.string?)) =
        some members := by
  simp only [Option.bind_eq_some_iff, read_eq_some_iff]
  rfl

theorem exists_writes_of_lists (h : Json.read raw >>= listsOf? = some lists) :
    ∃ members, Writes raw members ∧ Dict.ofList members = lists := by
  obtain ⟨d, hread, hd⟩ := Option.bind_eq_some_iff.1 h
  obtain ⟨members, hmembers, hlists⟩ := Option.map_eq_some_iff.1 hd
  exact ⟨members, writes_iff.2 (Option.bind_eq_some_iff.2 ⟨d, hread, hmembers⟩), hlists⟩

theorem exists_writes_of_decode (h : decode raw = .ok book) :
    ∃ members, Writes raw members ∧ ofLists (Dict.ofList members) = .ok book := by
  unfold decode at h
  split at h
  · next lists hlists =>
    obtain ⟨members, hwrites, rfl⟩ := exists_writes_of_lists hlists
    exact ⟨members, hwrites, h⟩
  · cases h

theorem lists_latest_iff (h : ofLists (Dict.ofList members) = .ok book) :
    (∀ id, book.Lists id (textsFor members id)) ↔
      (∀ member ∈ Dict.overwritten members, member.2 = []) ∧
        ∀ id, book.Lists id (textsFor (Dict.latest members) id) := by
  have hperm := Dict.entries_ofList_perm members
  constructor
  · intro hlists
    have hnone : ∀ id, textsFor (Dict.overwritten members) id = [] := by
      intro id
      have hdocument := (hlists id).length_eq
      have hbook := (lists_of_ofLists h id).length_eq
      have hlatest := length_textsFor_of_perm hperm id
      have hall := length_textsFor members id
      exact List.length_eq_zero_iff.1 (by omega)
    constructor
    · intro member hmember
      have hmem : member ∈ members :=
        (Dict.perm_latest_append_overwritten members).mem_iff.2 (List.mem_append_right _ hmember)
      obtain ⟨id, hid⟩ := exists_denotes_of_ofLists h hmem
      have hshare := List.flatMap_eq_nil_iff.1 (hnone id) member hmember
      rwa [if_pos hid] at hshare
    · intro id
      rw [textsFor_latest_eq_iff.2 (hnone id)]
      exact hlists id
  · rintro ⟨hempty, hlists⟩ id
    have hnone : textsFor (Dict.overwritten members) id = [] := by
      refine List.flatMap_eq_nil_iff.2 fun member hmember => ?_
      rw [hempty member hmember, ite_self]
    rw [← textsFor_latest_eq_iff.2 hnone]
    exact hlists id

theorem count_eq_iff (h : ofLists (Dict.ofList members) = .ok book) :
    book.count = textCount members ↔ ∀ member ∈ Dict.overwritten members, member.2 = [] := by
  have hlatest := textCount_of_perm (Dict.entries_ofList_perm members)
  have hall := textCount_of_perm (Dict.perm_latest_append_overwritten members)
  have happend : textCount (Dict.latest members ++ Dict.overwritten members) =
      textCount (Dict.latest members) + textCount (Dict.overwritten members) := by
    simp [textCount]
  rw [count_of_ofLists h, ← textCount_eq_zero_iff]
  omega

/-- A book lists for each build what the latest member of each key lists for it, in ascending
    order of the keys. This is what the whole document lists, in its order, exactly if overwritten
    members are empty and the latest ones list the same in the order of the document. The book has
    as many addresses as the document exactly if overwritten members are empty. -/
theorem keeps_listing_iff (h : decode raw = .ok book) :
    ∃ members, Writes raw members ∧
      (∀ id, book.Lists id (textsFor (Dict.ofList members).entries id)) ∧
      ((∀ id, book.Lists id (textsFor members id)) ↔
        (∀ member ∈ Dict.overwritten members, member.2 = []) ∧
          ∀ id, book.Lists id (textsFor (Dict.latest members) id)) ∧
      (book.count = textCount members ↔ ∀ member ∈ Dict.overwritten members, member.2 = []) := by
  obtain ⟨members, hwrites, hbook⟩ := exists_writes_of_decode h
  exact ⟨members, hwrites, lists_of_ofLists hbook, lists_latest_iff hbook, count_eq_iff hbook⟩

/-- Two keys for the first build, not in ascending order. -/
def descendingText : String := r#"{"1": ["10.0.0.1"], "01": ["10.0.0.2"]}"#

def descendingBook : AddressBook :=
  Dict.empty.insert ⟨1, by decide⟩ [.v4 ⟨10, 0, 0, 2⟩, .v4 ⟨10, 0, 0, 1⟩]

theorem keeps_listing_descending :
    decode descendingText = .ok descendingBook ∧
      ∃ members, Writes descendingText members ∧
        (∀ id, descendingBook.Lists id (textsFor (Dict.ofList members).entries id)) ∧
        ((∀ id, descendingBook.Lists id (textsFor members id)) ↔
          (∀ member ∈ Dict.overwritten members, member.2 = []) ∧
            ∀ id, descendingBook.Lists id (textsFor (Dict.latest members) id)) ∧
        (descendingBook.count = textCount members ↔
          ∀ member ∈ Dict.overwritten members, member.2 = []) :=
  ⟨rfl, keeps_listing_iff rfl⟩

example : ¬ descendingBook.Lists ⟨1, by decide⟩ ["10.0.0.1", "10.0.0.2"] := by decide

/-- One key twice. -/
def repeatedText : String := r#"{"1": ["10.0.0.1"], "1": ["10.0.0.2"]}"#

def repeatedMembers : List (String × List String) := [("1", ["10.0.0.1"]), ("1", ["10.0.0.2"])]

def repeatedBook : AddressBook := Dict.empty.insert ⟨1, by decide⟩ [.v4 ⟨10, 0, 0, 2⟩]

/-- A book does not always list for a build what all members list for it, nor have as many
    addresses as the document. -/
theorem loses_repeated :
    decode repeatedText = .ok repeatedBook ∧ Writes repeatedText repeatedMembers ∧
      ¬ repeatedBook.Lists ⟨1, by decide⟩ (textsFor repeatedMembers ⟨1, by decide⟩) ∧
      repeatedBook.count ≠ textCount repeatedMembers := by
  refine ⟨rfl, writes_iff.2 rfl, ?_, ?_⟩
  · decide
  · decide

end Sandbox.AddressBook
