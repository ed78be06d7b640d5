-- SUMMARY: The laws of slots: what a write changes and leaves alone, and what a sequence of writes leaves.
import Sandbox.Proofs.Instance

/-!
# Laws of slots

A write to a slot that exists changes one field of one machine, and a write to
another one does nothing. This is so in whatever state writes have left an
instance, so that the last write to a slot settles what the slot holds, and
writes to different slots can change places.
-/

namespace Sandbox

/-! ## One write -/

/-- The machines differ in one field, which has a new value in the second one. -/
inductive Machine.Updated (value : Option Address) : Field → Machine → Machine → Prop
  | address {old control : Option Address} :
      Updated value .address ⟨old, control⟩ ⟨value, control⟩
  | controlAddress {address old : Option Address} :
      Updated value .controlAddress ⟨address, old⟩ ⟨address, value⟩

theorem Machine.updated_set (m : Machine) (field : Field) (value : Option Address) :
    Updated value field m (m.set field value) := by
  cases field with
  | address => exact .address
  | controlAddress => exact .controlAddress

theorem Machine.set_comm (m : Machine) {field field' : Field} (value value' : Option Address)
    (h : field ≠ field') :
    (m.set field value).set field' value' = (m.set field' value').set field value := by
  cases field <;> cases field' <;> first | rfl | exact absurd rfl h

/-- The lists differ in the machine at one place, and this one in one field. -/
def UpdatedAt (value : Option Address) (field : Field) (index : Nat) (ms ms' : List Machine) :
    Prop :=
  ∃ before m m' after, ms = before ++ m :: after ∧ ms' = before ++ m' :: after ∧
    before.length = index ∧ Machine.Updated value field m m'

theorem updatedAt_modify {ms : List Machine} {index : Nat} (value : Option Address) (field : Field)
    (h : index < ms.length) :
    UpdatedAt value field index ms (ms.modify index (·.set field value)) := by
  refine ⟨ms.take index, ms[index], ms[index].set field value, ms.drop (index + 1), ?_, ?_, ?_,
    Machine.updated_set _ field value⟩
  · rw [← List.drop_eq_getElem_cons h, List.take_append_drop]
  · rw [List.modify_eq_take_cons_drop h]
  · rw [List.length_take, Nat.min_eq_left (Nat.le_of_lt h)]

namespace Instance

/-- The instances differ in the list of one role, and these in one field of one machine. -/
inductive Updated (value : Option Address) (field : Field) (index : Nat) :
    Role → Instance → Instance → Prop
  | loadGenerator {t : Topology} {ls ls' ss bs : List Machine} :
      UpdatedAt value field index ls ls' →
      Updated value field index .loadGenerator ⟨t, ls, ss, bs⟩ ⟨t, ls', ss, bs⟩
  | systemUnderTest {t : Topology} {ls ss ss' bs : List Machine} :
      UpdatedAt value field index ss ss' →
      Updated value field index .systemUnderTest ⟨t, ls, ss, bs⟩ ⟨t, ls, ss', bs⟩
  | backend {t : Topology} {ls ss bs bs' : List Machine} :
      UpdatedAt value field index bs bs' →
      Updated value field index .backend ⟨t, ls, ss, bs⟩ ⟨t, ls, ss, bs'⟩

variable {i : Instance} {slot : Slot}

theorem updated_set (value : Option Address) (h : slot.index < (i.machines slot.role).length) :
    Updated value slot.field slot.index slot.role i (i.set slot value) := by
  obtain ⟨t, ls, ss, bs⟩ := i
  obtain ⟨role, index, field⟩ := slot
  cases role with
  | loadGenerator => exact .loadGenerator (updatedAt_modify value field h)
  | systemUnderTest => exact .systemUnderTest (updatedAt_modify value field h)
  | backend => exact .backend (updatedAt_modify value field h)

theorem set_of_length_le (value : Option Address)
    (h : (i.machines slot.role).length ≤ slot.index) : i.set slot value = i := by
  have hmodify : (i.machines slot.role).modify slot.index (·.set slot.field value) =
    i.machines slot.role := List.modify_eq_self h
  rw [set, hmodify]
  cases slot.role <;> rfl

theorem ext_machine? {i i' : Instance} (htopology : i.topology = i'.topology)
    (h : ∀ role index, i.machine? role index = i'.machine? role index) : i = i' :=
  ext_machines htopology fun role => List.ext_getElem? (h role)

/-- Writes to different slots can change places. -/
theorem set_comm (i : Instance) {slot slot' : Slot} (value value' : Option Address)
    (h : slot ≠ slot') :
    (i.set slot value).set slot' value' = (i.set slot' value').set slot value := by
  obtain ⟨role, index, field⟩ := slot
  obtain ⟨role', index', field'⟩ := slot'
  refine ext_machine? (by simp) fun r n => ?_
  simp only [machine?_set]
  by_cases hslot : r = role ∧ n = index
  · by_cases hslot' : r = role' ∧ n = index'
    -- One machine is named twice, so the fields are different.
    · obtain ⟨rfl, rfl⟩ := hslot
      obtain ⟨rfl, rfl⟩ := hslot'
      have hfield : field ≠ field' := by
        rintro rfl
        exact h rfl
      simp only [and_self, if_true, Option.map_map]
      congr 1
      funext m
      exact m.set_comm value value' hfield
    · rw [if_neg hslot', if_pos hslot, if_pos hslot, if_neg hslot']
  · rw [if_neg hslot, if_neg hslot]

theorem get?_of_machine? {role : Role} {index : Nat} {m : Machine}
    (h : i.machine? role index = some m) (field : Field) :
    i.get? ⟨role, index, field⟩ = some (m.get field) := by
  rw [get?, h]
  rfl

theorem exists_get?_of_lt (h : slot.index < (i.machines slot.role).length) :
    ∃ old, i.get? slot = some old := by
  rw [get?, machine?, List.getElem?_eq_getElem h]
  exact ⟨_, rfl⟩

/-! ## A sequence of writes -/

theorem get?_setAll_of_not_mem {writes : List (Slot × Option Address)}
    (h : slot ∉ writes.map (·.1)) : (i.setAll writes).get? slot = i.get? slot := by
  have hlookup : writes.reverse.lookup slot = none := by
    rw [List.lookup_eq_none_iff]
    intro write hwrite
    have hne : slot ≠ write.1 := by
      rintro rfl
      exact h (List.mem_map_of_mem (List.mem_reverse.1 hwrite))
    simpa using hne
  rw [get?_setAll, hlookup]
  cases i.get? slot <;> rfl

/-- What an instance is after a sequence of writes, and what one more write does to it. -/
structure SlotLaws (i : Instance) (writes : List (Slot × Option Address)) : Prop where
  topology : (i.setAll writes).topology = i.topology
  lengths : ∀ role, ((i.setAll writes).machines role).length = (i.machines role).length
  /-- A write to a slot that exists changes one field of one machine. -/
  inRange : ∀ slot value, slot.index < (i.machines slot.role).length →
    Updated value slot.field slot.index slot.role (i.setAll writes)
      ((i.setAll writes).set slot value)
  outOfRange : ∀ slot value, (i.machines slot.role).length ≤ slot.index →
    (i.setAll writes).set slot value = i.setAll writes
  written : ∀ slot value, slot.index < (i.machines slot.role).length →
    LastWritten writes slot value → (i.setAll writes).get? slot = some value
  unwritten : ∀ slot, slot ∉ writes.map (·.1) → (i.setAll writes).get? slot = i.get? slot
  commute : ∀ slot slot' value value', slot ≠ slot' →
    ((i.setAll writes).set slot value).set slot' value' =
      ((i.setAll writes).set slot' value').set slot value
  /-- The slots of a machine hold its addresses. -/
  held : ∀ role index m, (i.setAll writes).machine? role index = some m →
    (i.setAll writes).get? ⟨role, index, .address⟩ = some m.address ∧
      (i.setAll writes).get? ⟨role, index, .controlAddress⟩ = some m.controlAddress
  /-- A machine is a placeholder if and only if both of its slots hold no address. -/
  placeholder : ∀ role index m, (i.setAll writes).machine? role index = some m →
    (m.isPlaceholder = true ↔
      (i.setAll writes).get? ⟨role, index, .address⟩ = some none ∧
        (i.setAll writes).get? ⟨role, index, .controlAddress⟩ = some none)

/-- Slots obey their laws in every instance, whatever is written to it. -/
theorem obeys_slotLaws (i : Instance) (writes : List (Slot × Option Address)) :
    SlotLaws i writes := by
  have hlengths : ∀ role, ((i.setAll writes).machines role).length = (i.machines role).length :=
    length_machines_setAll i writes
  constructor
  case topology => exact topology_setAll i writes
  case lengths => exact hlengths
  case inRange =>
    intro slot value hlt
    exact updated_set value (by rwa [hlengths])
  case outOfRange =>
    intro slot value hle
    exact set_of_length_le value (by rwa [hlengths])
  case written =>
    intro slot value hlt hlast
    obtain ⟨old, hold⟩ := exists_get?_of_lt hlt
    exact get?_setAll_of_lastWritten hlast hold
  case unwritten =>
    intro slot hunwritten
    exact get?_setAll_of_not_mem hunwritten
  case commute =>
    intro slot slot' value value' hne
    exact set_comm _ value value' hne
  case held =>
    intro role index m hm
    exact ⟨get?_of_machine? hm .address, get?_of_machine? hm .controlAddress⟩
  case placeholder =>
    intro role index m hm
    rw [get?_of_machine? hm, get?_of_machine? hm]
    simp [Machine.isPlaceholder, Machine.get]

end Instance
end Sandbox
