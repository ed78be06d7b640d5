-- SUMMARY: Which texts are decoded as address books, and the book that each of them gives.
import Sandbox.Proofs.AddressBook.Order
import Sandbox.Proofs.Utf8.Order

/-!
# Accepted texts

A text is accepted if it writes an object of lists of strings and the latest
member of every key is sound. Its book then has the builds that the keys spell,
and lists for each of them what the sound members list, key by key in the order
of the bytes. No other book is meant by these members.
-/

namespace Sandbox.AddressBook

open Checks Sandbox.Json Sandbox.Text.Utf8

variable {raw : String} {book book' : AddressBook} {lists : Dict String (List String)}
  {members : List (String × List String)} {id : BuildId} {as : List Address}

/-! ## Sound members -/

/-- A key that spells a positive integer, with addresses, at least one. -/
structure Sound (key : String) (values : List String) : Prop where
  key : ∃ id, Text.integer key = .ok id ∧ 1 ≤ id
  values_ne_nil : values ≠ []
  addresses : ∀ value ∈ values, ∃ a, Address.ofText? value = some a

theorem sound_iff {key : String} {values : List String} :
    Sound key values ↔ ∃ id as, Denotes key values id as := by
  constructor
  · rintro ⟨⟨value, hkey, hpositive⟩, hne, hvalues⟩
    obtain ⟨as, has⟩ := exists_forall₂_iff.2 hvalues
    exact ⟨⟨value, hpositive⟩, as, hkey, hne, has⟩
  · rintro ⟨id, as, hkey, hne, has⟩
    exact ⟨⟨id.value, hkey, id.positive⟩, hne, exists_forall₂_iff.1 ⟨as, has⟩⟩

theorem sound_iff_entryOf {key : String} {values : List String} :
    Sound key values ↔ ∃ member, entryOf key values = .ok member := by
  simp only [sound_iff, entryOf_eq_ok, Prod.exists]

theorem Denotes.as_ne_nil {key : String} {values : List String} (h : Denotes key values id as) :
    as ≠ [] := by
  rintro rfl
  exact h.2.1 (List.forall₂_nil_right_iff.1 h.2.2)

/-- The object of the latest members is decoded exactly if these are sound. -/
theorem exists_ofLists_iff_sound :
    (∃ book, ofLists (Dict.ofList members) = .ok book) ↔
      ∀ member ∈ Dict.latest members, Sound member.1 member.2 := by
  simp only [exists_ofLists_iff, ← sound_iff, Dict.get?_eq_some_iff,
    (Dict.entries_ofList_perm members).mem_iff, Prod.forall]

/-! ## What members give -/

/-- Members in which the bytes of the keys ascend. -/
def KeysAscend (members : List (String × List String)) : Prop :=
  members.Pairwise fun a b => bytes a.1 < bytes b.1

theorem keysAscend_entries (lists : Dict String (List String)) : KeysAscend lists.entries :=
  lists.ascending.imp compare_eq_lt_iff.1

theorem KeysAscend.eq_of_perm {members' : List (String × List String)} (h : KeysAscend members)
    (h' : KeysAscend members') (hperm : members.Perm members') : members = members' := by
  refine hperm.eq_of_pairwise (fun a b _ _ hab hba => ?_) h h'
  exact absurd hba (List.lt_asymm hab)

/-- A book has the builds that the keys of some members spell, none of them without addresses.
    For each it lists what the latest member of each key lists for it, in the order of the keys'
    bytes. -/
structure Collects (book : AddressBook) (members : List (String × List String)) : Prop where
  mem_keys_iff : ∀ id, id ∈ book.keys ↔ ∃ member ∈ members, Text.integer member.1 = .ok id.value
  lists : ∃ sorted, sorted.Perm (Dict.latest members) ∧ KeysAscend sorted ∧
    ∀ id, book.Lists id (textsFor sorted id)
  ne_nil : ∀ id as, book.get? id = some as → 1 ≤ id.value ∧ as ≠ []

theorem Lists.unique {texts : List String} (h : book.Lists id texts) (h' : book'.Lists id texts) :
    book.addresses id = book'.addresses id :=
  List.map_injective_iff.2 (fun _ _ => Option.some.inj) (h.symm.trans h')

/-- A book has for a build the addresses it lists, or nothing where it does not have the build. -/
theorem get?_eq_of_addresses_eq (haddresses : book.addresses id = book'.addresses id)
    (hkeys : id ∈ book.keys ↔ id ∈ book'.keys) : book.get? id = book'.get? id := by
  rw [Dict.mem_keys_iff, Dict.mem_keys_iff] at hkeys
  unfold addresses at haddresses
  cases hget : book.get? id with
  | none =>
    cases hget' : book'.get? id with
    | none => rfl
    | some as => simp [hget, hget'] at hkeys
  | some as =>
    obtain ⟨as', hget'⟩ := hkeys.1 ⟨as, hget⟩
    rw [hget, hget'] at haddresses
    rw [hget', show as = as' from haddresses]

/-- Members leave no choice of the book. -/
theorem Collects.unique (h : book.Collects members) (h' : book'.Collects members) :
    book = book' := by
  obtain ⟨sorted, hperm, hsorted, hlists⟩ := h.lists
  obtain ⟨sorted', hperm', hsorted', hlists'⟩ := h'.lists
  obtain rfl := hsorted.eq_of_perm hsorted' (hperm.trans hperm'.symm)
  refine Dict.ext_get? fun id => get?_eq_of_addresses_eq ((hlists id).unique (hlists' id)) ?_
  exact (h.mem_keys_iff id).trans (h'.mem_keys_iff id).symm

theorem get?_appendAll_empty (found : List (BuildId × List Address)) (id : BuildId) :
    (appendAll Dict.empty found).get? id =
      if id ∈ found.map (·.1) then some (listedFor id found) else none := by
  rw [get?_appendAll]
  rfl

theorem mem_keys_of_ofLists (h : ofLists lists = .ok book) :
    id ∈ book.keys ↔ ∃ entry ∈ lists.entries, Text.integer entry.1 = .ok id.value := by
  rw [ofLists_eq, map_eq_ok] at h
  obtain ⟨found, hfound, rfl⟩ := h
  have hkeys : id ∈ (appendAll Dict.empty found).keys ↔ id ∈ found.map (·.1) := by
    rw [Dict.mem_keys_iff, get?_appendAll_empty]
    split <;> simp [*]
  rw [hkeys, List.mem_map]
  constructor
  · rintro ⟨member, hmember, rfl⟩
    obtain ⟨entry, hentry, hread⟩ := exists_of_mem_of_mapM_eq_ok hfound hmember
    exact ⟨entry, hentry, (entryOf_eq_ok.1 hread).1⟩
  · rintro ⟨entry, hentry, hid⟩
    obtain ⟨member, hmember, hread⟩ := exists_mem_of_mapM_eq_ok hfound hentry
    have hvalue := Except.ok.inj ((entryOf_eq_ok.1 hread).1.symm.trans hid)
    exact ⟨member, hmember, BuildId.value_injective hvalue⟩

theorem ne_nil_of_ofLists (h : ofLists lists = .ok book) (hget : book.get? id = some as) :
    as ≠ [] := by
  rw [ofLists_eq, map_eq_ok] at h
  obtain ⟨found, hfound, rfl⟩ := h
  rw [get?_appendAll_empty] at hget
  split at hget
  · next hmem =>
    obtain ⟨member, hmember, rfl⟩ := List.mem_map.1 hmem
    obtain ⟨entry, -, hread⟩ := exists_of_mem_of_mapM_eq_ok hfound hmember
    cases hget
    intro hnil
    have hshare := List.flatMap_eq_nil_iff.1 hnil member hmember
    rw [if_pos rfl] at hshare
    exact (entryOf_eq_ok.1 hread).as_ne_nil hshare
  · cases hget

theorem collects_of_ofLists (h : ofLists (Dict.ofList members) = .ok book) :
    book.Collects members := by
  refine ⟨fun id => ?_, ?_, fun id as hget => ⟨id.positive, ne_nil_of_ofLists h hget⟩⟩
  · -- A key has a latest member exactly if it has a member.
    have hkeys : ∀ key, (∃ values, (key, values) ∈ (Dict.ofList members).entries) ↔
        ∃ values, (key, values) ∈ members := by
      intro key
      simp only [← Dict.get?_eq_some_iff, Dict.exists_get?_ofList_iff]
    simp only [mem_keys_of_ofLists h, Prod.exists, exists_and_right, hkeys]
  · exact ⟨_, Dict.entries_ofList_perm members, keysAscend_entries _, lists_of_ofLists h⟩

/-! ## Texts -/

theorem Writes.unique {members' : List (String × List String)} (h : Writes raw members)
    (h' : Writes raw members') : members = members' :=
  Option.some.inj ((writes_iff.1 h).symm.trans (writes_iff.1 h'))

/-- A text is decoded exactly if it writes an object of lists of strings in which the latest member
    of every key is sound, and as the book that these members give. -/
theorem decode_iff_sound (raw : String) :
    ((∃ book, decode raw = .ok book) ↔
      ∃ members, Writes raw members ∧ ∀ member ∈ Dict.latest members, Sound member.1 member.2) ∧
    ∀ book, decode raw = .ok book ↔
      ∃ members, Writes raw members ∧
        (∀ member ∈ Dict.latest members, Sound member.1 member.2) ∧ book.Collects members := by
  have hsome : ∀ members, Writes raw members →
      ((∃ book, decode raw = .ok book) ↔
        ∀ member ∈ Dict.latest members, Sound member.1 member.2) := by
    intro members hwrites
    rw [decode_of_writes hwrites, exists_ofLists_iff_sound]
  refine ⟨⟨?_, ?_⟩, fun book => ⟨?_, ?_⟩⟩
  · rintro ⟨book, h⟩
    obtain ⟨members, hwrites, -⟩ := exists_writes_of_decode h
    exact ⟨members, hwrites, (hsome members hwrites).1 ⟨book, h⟩⟩
  · rintro ⟨members, hwrites, hsound⟩
    exact (hsome members hwrites).2 hsound
  · intro h
    obtain ⟨members, hwrites, hbook⟩ := exists_writes_of_decode h
    exact ⟨members, hwrites, (hsome members hwrites).1 ⟨book, h⟩, collects_of_ofLists hbook⟩
  · rintro ⟨members, hwrites, hsound, hcollects⟩
    obtain ⟨book', hbook'⟩ := exists_ofLists_iff_sound.2 hsound
    rw [decode_of_writes hwrites, hbook', (collects_of_ofLists hbook').unique hcollects]

example :
    decode r#"{"7": ["10.0.0.3"], "007": ["10.0.0.2"], "+7": ["10.0.0.1"]}"# =
      .ok (Dict.empty.insert ⟨7, by decide⟩
        [.v4 ⟨10, 0, 0, 1⟩, .v4 ⟨10, 0, 0, 2⟩, .v4 ⟨10, 0, 0, 3⟩]) := rfl

end Sandbox.AddressBook
