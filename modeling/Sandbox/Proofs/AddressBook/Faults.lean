-- SUMMARY: Which fault a refused text has, and that order and layout of its members do not matter.
import Sandbox.Proofs.AddressBook.Acceptance

/-!
# Faults of address books

A text that writes no object of lists of strings is malformed, whatever else is
wrong with it. Otherwise its fault is that of the member with the least key
among the latest members with a fault. A member has one fault: that of its key
comes first, then that of the integer, then that of the list, and then that of
the first string which is no address.
-/

namespace Sandbox.AddressBook

open Checks Sandbox.Json Sandbox.Text.Utf8

variable {raw raw' key : String} {values : List String} {fault : DecodeFault}
  {members members' : List (String × List String)}

/-! ## Faults of members -/

/-- What is wrong with a member. -/
inductive Faulty (key : String) (values : List String) : DecodeFault → Prop
  | invalidKey {fault : Text.IntegerFault} (hkey : Text.integer key = .error fault) :
    Faulty key values (.invalidKey key fault)
  | nonPositiveId {id : Int64} (hkey : Text.integer key = .ok id) (hid : id < 1) :
    Faulty key values (.nonPositiveId id)
  | noAddresses {id : Int64} (hkey : Text.integer key = .ok id) (hid : 1 ≤ id)
      (hvalues : values = []) : Faulty key values (.noAddresses id)
  | invalidAddress {id : Int64} {value : String} (hkey : Text.integer key = .ok id) (hid : 1 ≤ id)
      (hvalue : First (fun value => Address.ofText? value = none) values value) :
    Faulty key values (.invalidAddress id value)

theorem addressOf_eq_error {id : Int64} {value : String} :
    addressOf id value = .error fault ↔
      Address.ofText? value = none ∧ .invalidAddress id value = fault := by
  rw [addressOf]
  cases Address.ofText? value <;> simp

theorem mapM_addressOf_eq_error {id : Int64} :
    values.mapM (addressOf id) = .error fault ↔
      ∃ value, First (fun value => Address.ofText? value = none) values value ∧
        .invalidAddress id value = fault := by
  have hfirst : ∀ value, First (fun value => ∃ fault, addressOf id value = .error fault) values
      value ↔ First (fun value => Address.ofText? value = none) values value :=
    fun value => first_congr fun value _ => by simp [addressOf_eq_error]
  simp only [mapM_eq_error, hfirst]
  constructor
  · rintro ⟨value, hvalue, hfault⟩
    exact ⟨value, hvalue, (addressOf_eq_error.1 hfault).2⟩
  · rintro ⟨value, hvalue, hfault⟩
    exact ⟨value, hvalue, addressOf_eq_error.2 ⟨hvalue.prop, hfault⟩⟩

theorem sound_or_faulty (key : String) (values : List String) :
    Sound key values ∨ ∃ fault, Faulty key values fault := by
  cases hkey : Text.integer key with
  | error fault => exact .inr ⟨_, .invalidKey hkey⟩
  | ok id =>
    by_cases hid : 1 ≤ id
    · by_cases hvalues : values = []
      · exact .inr ⟨_, .noAddresses hkey hid hvalues⟩
      · by_cases haddresses : ∃ value ∈ values, Address.ofText? value = none
        · obtain ⟨value, hvalue⟩ := exists_first_iff.2 haddresses
          exact .inr ⟨_, .invalidAddress hkey hid hvalue⟩
        · refine .inl ⟨⟨id, hkey, hid⟩, hvalues, fun value hvalue => ?_⟩
          exact Option.ne_none_iff_exists'.1 fun hnone => haddresses ⟨value, hvalue, hnone⟩
    · exact .inr ⟨_, .nonPositiveId hkey (Int64.not_le.1 hid)⟩

theorem Faulty.entryOf_eq (h : Faulty key values fault) : entryOf key values = .error fault := by
  cases h with
  | invalidKey hkey =>
    rw [entryOf, hkey]
    rfl
  | @nonPositiveId id hkey hid =>
    refine bind_eq_error.2 (.inr ⟨id, mapError_eq_ok.2 hkey, ?_⟩)
    simp only [BuildId.ofInt64?_eq_none_iff.2 hid]
    rfl
  | @noAddresses id hkey hid hvalues =>
    have hbuild : BuildId.ofInt64? id = some ⟨id, hid⟩ := BuildId.ofInt64?_value ⟨id, hid⟩
    refine bind_eq_error.2 (.inr ⟨id, mapError_eq_ok.2 hkey, ?_⟩)
    simp only [hbuild, hvalues]
    rfl
  | @invalidAddress id value hkey hid hvalue =>
    have hbuild : BuildId.ofInt64? id = some ⟨id, hid⟩ := BuildId.ofInt64?_value ⟨id, hid⟩
    have hne : values ≠ [] := List.ne_nil_of_mem hvalue.mem
    refine bind_eq_error.2 (.inr ⟨id, mapError_eq_ok.2 hkey, ?_⟩)
    simp only [hbuild]
    rw [if_neg (by simpa using hne), mapM_addressOf_eq_error.2 ⟨value, hvalue, rfl⟩]
    rfl

theorem entryOf_eq_error : entryOf key values = .error fault ↔ Faulty key values fault := by
  refine ⟨fun h => ?_, Faulty.entryOf_eq⟩
  cases sound_or_faulty key values with
  | inl hsound =>
    obtain ⟨member, hmember⟩ := sound_iff_entryOf.1 hsound
    cases h.symm.trans hmember
  | inr hfaulty =>
    obtain ⟨fault', hfaulty⟩ := hfaulty
    cases h.symm.trans hfaulty.entryOf_eq
    exact hfaulty

/-- A member is sound exactly if nothing is wrong with it. -/
theorem not_faulty_iff : (∀ fault, ¬ Faulty key values fault) ↔ Sound key values := by
  simp only [← entryOf_eq_error, ← not_exists, exists_error_iff, not_not, sound_iff_entryOf]

/-! ## Faults of texts -/

/-- Of the latest members with a fault, the one whose key has the least bytes has this fault. -/
def LeastFault (members : List (String × List String)) (fault : DecodeFault) : Prop :=
  ∃ member ∈ Dict.latest members, Faulty member.1 member.2 fault ∧
    ∀ other ∈ Dict.latest members, bytes other.1 < bytes member.1 → Sound other.1 other.2

theorem ofLists_eq_error : ofLists (Dict.ofList members) = .error fault ↔
    LeastFault members fault := by
  have hascend := keysAscend_entries (Dict.ofList members)
  simp only [ofLists_eq, map_eq_error, mapM_eq_error,
    first_iff_of_pairwise (fun _ _ => List.lt_asymm) hascend,
    (Dict.entries_ofList_perm members).mem_iff, entryOf_eq_error, not_exists, not_faulty_iff]
  constructor
  · rintro ⟨member, ⟨hmember, -, hleast⟩, hfault⟩
    exact ⟨member, hmember, hfault, hleast⟩
  · rintro ⟨member, hmember, hfault, hleast⟩
    exact ⟨member, ⟨hmember, ⟨fault, hfault⟩, hleast⟩, hfault⟩

theorem decode_of_not_writes (h : ¬ ∃ members, Writes raw members) :
    decode raw = .error .malformed := by
  unfold decode
  split
  · next lists hlists =>
    obtain ⟨members, hwrites, -⟩ := exists_writes_of_lists hlists
    exact absurd ⟨members, hwrites⟩ h
  · rfl

theorem decode_eq_error_iff :
    decode raw = .error fault ↔
      ((¬ ∃ members, Writes raw members) ∧ fault = .malformed) ∨
        ∃ members, Writes raw members ∧ LeastFault members fault := by
  by_cases hobject : ∃ members, Writes raw members
  · obtain ⟨members, hwrites⟩ := hobject
    rw [decode_of_writes hwrites, ofLists_eq_error]
    constructor
    · intro hfault
      exact .inr ⟨members, hwrites, hfault⟩
    · rintro (⟨hnone, -⟩ | ⟨members', hwrites', hfault⟩)
      · exact absurd ⟨members, hwrites⟩ hnone
      · rwa [hwrites.unique hwrites']
  · rw [decode_of_not_writes hobject]
    constructor
    · rintro ⟨⟩
      exact .inl ⟨hobject, rfl⟩
    · rintro (⟨-, rfl⟩ | ⟨members, hwrites, -⟩)
      · rfl
      · exact absurd ⟨members, hwrites⟩ hobject

theorem decode_eq_of_perm (h : Writes raw members) (h' : Writes raw' members')
    (hperm : members.Perm members') (hnodup : (members.map (·.1)).Nodup) :
    decode raw = decode raw' := by
  rw [decode_of_writes h, decode_of_writes h', Dict.ofList_eq_of_perm hperm hnodup]

/-- A text is refused as malformed if it writes no object of lists of strings, and otherwise for the
    fault of the latest member with the least key among those with a fault. Whether it is refused,
    and as what it is decoded, depends on the members alone: not on their order if their keys are
    different, nor on how they are written. -/
theorem decode_eq_error_iff_leastFault (raw : String) :
    (∀ fault, decode raw = .error fault ↔
      ((¬ ∃ members, Writes raw members) ∧ fault = .malformed) ∨
        ∃ members, Writes raw members ∧ LeastFault members fault) ∧
    ∀ raw' members members', Writes raw members → Writes raw' members' →
      members.Perm members' → (members.map (·.1)).Nodup → decode raw = decode raw' :=
  ⟨fun _ => decode_eq_error_iff, fun _ _ _ => decode_eq_of_perm⟩

-- Keys are compared as texts, and a member that is no list counts even if it is overwritten.
example : decode r#"{"9": [], "10": ["::1", ""]}"# = .error (.invalidAddress 10 "") := rfl
example : decode r#"{"0": 1, "0": []}"# = .error .malformed := rfl

end Sandbox.AddressBook
