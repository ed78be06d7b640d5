-- SUMMARY: What a decoded address book lists, and decoding the text of an object of lists.
import Sandbox.AddressBook
import Sandbox.Proofs.Address
import Sandbox.Proofs.Checks
import Sandbox.Proofs.Dict
import Sandbox.Proofs.Integer
import Sandbox.Proofs.Json.Layout
import Sandbox.Proofs.Request

/-!
# Decoded address books

A member of the decoded object denotes a build and its addresses. A book lists
for each build what the members that denote it list, one after the other.
-/

namespace Sandbox.AddressBook

open Checks Sandbox.Json

-- ---------------------------------------------------------------------------
-- Members
-- ---------------------------------------------------------------------------

/-- A member of an object lists addresses, at least one, for a build. -/
def Denotes (key : String) (values : List String) (id : BuildId) (as : List Address) : Prop :=
  Text.integer key = .ok id.value ∧ values ≠ [] ∧
    List.Forall₂ (fun value a => Address.ofText? value = some a) values as

theorem addressOf_eq_ok {id : Int64} {value : String} {a : Address} :
    addressOf id value = .ok a ↔ Address.ofText? value = some a := by
  rw [addressOf]
  cases Address.ofText? value <;> simp

theorem entryOf_eq_ok {key : String} {values : List String} {member : BuildId × List Address} :
    entryOf key values = .ok member ↔ Denotes key values member.1 member.2 := by
  obtain ⟨id, as⟩ := member
  simp only [entryOf, Denotes, bind_eq_ok, mapError_eq_ok]
  constructor
  · rintro ⟨value, hkey, h⟩
    cases hbuild : BuildId.ofInt64? value with
    | none =>
      simp only [hbuild] at h
      cases h
    | some build =>
      obtain rfl := BuildId.ofInt64?_eq_some_iff.1 hbuild
      simp only [hbuild] at h
      split at h
      · cases h
      · next hne =>
        obtain ⟨as', has, heq⟩ := bind_eq_ok.1 h
        obtain ⟨rfl, rfl⟩ := Prod.mk.inj (Except.ok.inj heq)
        exact ⟨hkey, by simpa using hne, (mapM_eq_ok.1 has).imp fun _ _ => addressOf_eq_ok.1⟩
  · rintro ⟨hkey, hne, has⟩
    have hlist : values.mapM (addressOf id.value) = .ok as :=
      mapM_eq_ok.2 (has.imp fun _ _ => addressOf_eq_ok.2)
    refine ⟨id.value, hkey, ?_⟩
    simp only [BuildId.ofInt64?_value]
    rw [if_neg (by simpa using hne), hlist]
    rfl

/-- A build's decimal text with its addresses' texts denotes the build and the addresses. -/
theorem denotes_text (id : BuildId) {as : List Address} (h : as ≠ []) :
    Denotes (toString id) (as.map Address.text) id as := by
  refine ⟨Text.integer_toString id.value, by simpa using h, ?_⟩
  exact List.forall₂_map_left_iff.2 (List.forall₂_same.2 fun a _ => Address.ofText?_text a)

-- ---------------------------------------------------------------------------
-- Books
-- ---------------------------------------------------------------------------

/-- Adds what members denote, one after the other. -/
def appendAll (book : AddressBook) (found : List (BuildId × List Address)) : AddressBook :=
  found.foldl (fun book member => book.append member.1 member.2) book

/-- What the members found list for a build, in order. -/
def listedFor (id : BuildId) (found : List (BuildId × List Address)) : List Address :=
  found.flatMap fun member => if member.1 = id then member.2 else []

theorem listedFor_eq_nil {id : BuildId} {found : List (BuildId × List Address)}
    (h : id ∉ found.map (·.1)) : listedFor id found = [] := by
  refine List.flatMap_eq_nil_iff.2 fun member hmember => if_neg ?_
  rintro rfl
  exact h (List.mem_map_of_mem hmember)

theorem get?_append (book : AddressBook) (id id' : BuildId) (more : List Address) :
    (book.append id more).get? id' =
      if id' = id then some (book.addresses id' ++ more) else book.get? id' := by
  rw [append, Dict.get?_insert]
  split
  · next h => rw [h]
  · rfl

theorem addresses_append (book : AddressBook) (id id' : BuildId) (more : List Address) :
    (book.append id more).addresses id' =
      book.addresses id' ++ if id = id' then more else [] := by
  rw [addresses, get?_append]
  by_cases h : id' = id
  · simp [h]
  · simp [h, Ne.symm h, addresses]

/-- A book to which members were added lists, for the builds they denote, what it listed before
    and then what they list. -/
theorem get?_appendAll (book : AddressBook) (found : List (BuildId × List Address)) (id : BuildId) :
    (book.appendAll found).get? id =
      if id ∈ found.map (·.1) then some (book.addresses id ++ listedFor id found)
      else book.get? id := by
  induction found generalizing book with
  | nil => rfl
  | cons member found ih =>
    show ((book.append member.1 member.2).appendAll found).get? id = _
    have hlisted : listedFor id (member :: found) =
        (if member.1 = id then member.2 else []) ++ listedFor id found := rfl
    rw [ih, addresses_append, get?_append, List.map_cons, hlisted, List.append_assoc]
    by_cases hrest : id ∈ found.map (·.1)
    · rw [if_pos hrest, if_pos (List.mem_cons_of_mem _ hrest)]
    · rw [if_neg hrest, listedFor_eq_nil hrest, List.append_nil]
      by_cases hhead : id = member.1
      · rw [if_pos hhead, if_pos (hhead ▸ List.mem_cons_self), if_pos hhead.symm]
      · rw [if_neg hhead, if_neg fun hmem => (List.mem_cons.1 hmem).elim hhead hrest]

theorem append_entryOf (book : AddressBook) (key : String) (values : List String) :
    (do let (id, more) ← entryOf key values; return book.append id more) =
      (entryOf key values).map fun member => book.append member.1 member.2 := by
  cases entryOf key values <;> rfl

/-- The object of lists is decoded by reading all of its entries and adding them up. -/
theorem ofLists_eq (lists : Dict String (List String)) :
    ofLists lists =
      (lists.entries.mapM fun entry => entryOf entry.1 entry.2).map (appendAll Dict.empty) := by
  simp only [ofLists, append_entryOf]
  exact foldlM_map_eq (fun entry : String × List String => entryOf entry.1 entry.2)
    (fun (book : AddressBook) member => book.append member.1 member.2) Dict.empty lists.entries

theorem exists_ofLists_iff {lists : Dict String (List String)} :
    (∃ book, ofLists lists = .ok book) ↔
      ∀ key values, lists.get? key = some values → ∃ id as, Denotes key values id as := by
  have hentries : (∃ book, ofLists lists = .ok book) ↔
      ∀ entry ∈ lists.entries, ∃ member, entryOf entry.1 entry.2 = .ok member := by
    rw [← exists_mapM_eq_ok, ofLists_eq]
    simp [map_eq_ok]
  simp only [hentries, entryOf_eq_ok, Prod.forall, Prod.exists, Dict.get?_eq_some_iff]

/-- A build that a single entry denotes gets what that entry lists. -/
theorem get?_of_single {lists : Dict String (List String)} {book : AddressBook}
    (h : ofLists lists = .ok book) {key : String} {values : List String} {id : BuildId}
    {as : List Address} (hentry : lists.get? key = some values)
    (hdenotes : Denotes key values id as)
    (hsingle : ∀ key' values', lists.get? key' = some values' →
      Text.integer key' = .ok id.value → key' = key) : book.get? id = some as := by
  rw [ofLists_eq, map_eq_ok] at h
  obtain ⟨found, hfound, rfl⟩ := h
  have hmem : (key, values) ∈ lists.entries := Dict.get?_eq_some_iff.1 hentry
  have hentryOf : entryOf key values = .ok (id, as) := entryOf_eq_ok.2 hdenotes
  have hlisted : id ∈ found.map (·.1) := by
    obtain ⟨member, hmember, heq⟩ := exists_mem_of_mapM_eq_ok hfound hmem
    obtain rfl : (id, as) = member := Except.ok.inj (hentryOf.symm.trans heq)
    exact List.mem_map_of_mem hmember
  have hshares : found.map (fun member => if member.1 = id then member.2 else []) =
      lists.entries.map fun entry => if entry.1 = key then as else [] := by
    refine map_eq_map_of_mapM_eq_ok ?_ hfound
    rintro ⟨key', values'⟩ hmem' member hmember
    have hget' := Dict.get?_eq_some_iff.2 hmem'
    by_cases hkey : key' = key
    · subst hkey
      obtain rfl : values = values' := Option.some.inj (hentry.symm.trans hget')
      obtain rfl : (id, as) = member := Except.ok.inj (hentryOf.symm.trans hmember)
      simp
    · have hne : member.1 ≠ id := fun heq =>
        hkey (hsingle key' values' hget' (heq ▸ (entryOf_eq_ok.1 hmember).1))
      simp [hkey, hne]
  rw [get?_appendAll, if_pos hlisted, listedFor, List.flatMap_def, hshares, ← List.flatMap_def,
    Dict.flatMap_entries_of_get? hentry]
  rfl

-- ---------------------------------------------------------------------------
-- Texts
-- ---------------------------------------------------------------------------

/-- A text writes an object with these members, each a list of strings: in any layout, with any
    escapes, and with repeated keys if the members repeat them. -/
def Writes (raw : String) (members : List (String × List String)) : Prop :=
  ∃ d : Document, d.WrittenAs raw ∧
    d.pairs? Pieces.content? (·.list? Document.string?) = some members

theorem decode_of_writes {raw : String} {members : List (String × List String)}
    (h : Writes raw members) : decode raw = ofLists (Dict.ofList members) := by
  obtain ⟨d, hraw, hmembers⟩ := h
  have hlists : Json.read raw >>= listsOf? = some (Dict.ofList members) := by
    rw [hraw.read]
    simp [listsOf?, Document.dict?, hmembers]
  rw [decode, hlists]

/-- The object with the given members, written without blanks. -/
def document (members : List (String × List String)) : Document :=
  .ofFields (members.map fun (key, values) => (key, .ofList (values.map .ofString)))

theorem none_not_mem_document (members : List (String × List String)) :
    none ∉ (document members).render := by
  refine none_not_mem_ofFields ?_
  simp only [List.forall_mem_map]
  intro member _
  exact none_not_mem_ofList (List.forall_mem_map.2 fun s _ => none_not_mem_ofString s)

theorem writes_text_document (members : List (String × List String)) :
    Writes (document members).text members :=
  ⟨document members, Document.writtenAs_text (none_not_mem_document members),
    pairs?_ofFields content?_ofString (list?_ofList string?_ofString) members⟩

-- ---------------------------------------------------------------------------
-- One address for each build
-- ---------------------------------------------------------------------------

/-- The members that list one address for each build, under the build's decimal text. -/
def assigned (ids : List BuildId) (address : BuildId → Address) : List (String × List String) :=
  ids.map fun id => (toString id, [(address id).text])

/-- A text writes an object that lists for each of some builds its address alone, and besides,
    in between or around, only addresses of other builds. -/
def Assigns (raw : String) (ids : List BuildId) (address : BuildId → Address) : Prop :=
  ∃ members others, Writes raw members ∧ members.Perm (assigned ids address ++ others) ∧
    ∀ key values, (key, values) ∈ others → ∃ id as, id ∉ ids ∧ Denotes key values id as

/-- Such a text is decoded, and the book lists for each of the builds its address alone. -/
theorem decode_of_assigns {raw : String} {ids : List BuildId} {address : BuildId → Address}
    (h : Assigns raw ids address) :
    ∃ book, decode raw = .ok book ∧ ∀ id ∈ ids, book.get? id = some [address id] := by
  obtain ⟨members, others, hwrites, hperm, hothers⟩ := h
  have hassigned : ∀ id, Denotes (toString id) [(address id).text] id [address id] :=
    fun id => denotes_text id (List.cons_ne_nil (address id) [])
  have hmem : ∀ {key values}, (key, values) ∈ members ↔
      (∃ id ∈ ids, toString id = key ∧ [(address id).text] = values) ∨ (key, values) ∈ others := by
    intro key values
    rw [hperm.mem_iff, List.mem_append, assigned, List.mem_map]
    simp only [Prod.mk.injEq]
  have hdenotes : ∀ key values, (key, values) ∈ members → ∃ id as, Denotes key values id as := by
    intro key values hmember
    obtain ⟨id, -, rfl, rfl⟩ | hother := hmem.1 hmember
    · exact ⟨id, _, hassigned id⟩
    · obtain ⟨id, as, -, hdenotes⟩ := hothers key values hother
      exact ⟨id, as, hdenotes⟩
  -- A member whose key reads as one of the builds is the one written for that build.
  have honly : ∀ id ∈ ids, ∀ key values, (key, values) ∈ members →
      Text.integer key = .ok id.value → toString id = key ∧ [(address id).text] = values := by
    intro id hid key values hmember hkey
    obtain ⟨id', -, rfl, rfl⟩ | hother := hmem.1 hmember
    · have hvalue := Except.ok.inj ((Text.integer_toString id'.value).symm.trans hkey)
      obtain rfl := BuildId.value_injective hvalue
      exact ⟨rfl, rfl⟩
    · obtain ⟨id', as, hnot, hkey', -⟩ := hothers key values hother
      have hvalue := Except.ok.inj (hkey'.symm.trans hkey)
      obtain rfl := BuildId.value_injective hvalue
      exact absurd hid hnot
  rw [decode_of_writes hwrites]
  obtain ⟨book, hbook⟩ := exists_ofLists_iff.2 fun key values hget =>
    hdenotes key values (Dict.mem_of_get?_ofList hget)
  refine ⟨book, hbook, fun id hid => ?_⟩
  have hentry : (Dict.ofList members).get? (toString id) = some [(address id).text] :=
    Dict.get?_ofList_of_mem (hmem.2 (.inl ⟨id, hid, rfl, rfl⟩)) fun values hmember =>
      (honly id hid _ values hmember (Text.integer_toString id.value)).2.symm
  refine get?_of_single hbook hentry (hassigned id) fun key values hget hkey => ?_
  exact (honly id hid key values (Dict.mem_of_get?_ofList hget) hkey).1.symm

end Sandbox.AddressBook
