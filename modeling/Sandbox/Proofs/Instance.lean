-- SUMMARY: Writing slots of an instance: what one write changes, and what a sequence leaves.
import Mathlib.Data.List.Nodup
import Sandbox.Instance

/-!
# Writing slots

A write changes the slot it names, if there is such a machine, and nothing else.
After a sequence of writes a slot holds the last value written to it, or what it
held before.
-/

namespace Sandbox

namespace Machine

theorem get_set (m : Machine) (field field' : Field) (value : Option Address) :
    (m.set field value).get field' = if field' = field then value else m.get field' := by
  cases field <;> cases field' <;> rfl

theorem ext_get {m m' : Machine} (h : ∀ field, m.get field = m'.get field) : m = m' := by
  obtain ⟨a, c⟩ := m
  obtain ⟨a', c'⟩ := m'
  have ha : a = a' := h .address
  have hc : c = c' := h .controlAddress
  rw [ha, hc]

end Machine

namespace Instance

-- ---------------------------------------------------------------------------
-- One write
-- ---------------------------------------------------------------------------

theorem machines_setMachines (i : Instance) (role role' : Role) (ms : List Machine) :
    (i.setMachines role ms).machines role' = if role' = role then ms else i.machines role' := by
  cases role <;> cases role' <;> rfl

@[simp] theorem topology_set (i : Instance) (slot : Slot) (value : Option Address) :
    (i.set slot value).topology = i.topology := by
  unfold set
  cases slot.role <;> rfl

@[simp] theorem length_machines_set (i : Instance) (slot : Slot) (value : Option Address)
    (role : Role) : ((i.set slot value).machines role).length = (i.machines role).length := by
  rw [set, machines_setMachines]
  split
  · next h => rw [h, List.length_modify]
  · rfl

theorem machine?_set (i : Instance) (slot : Slot) (value : Option Address) (role : Role)
    (index : Nat) :
    (i.set slot value).machine? role index =
      if role = slot.role ∧ index = slot.index then
        (i.machine? role index).map (·.set slot.field value)
      else i.machine? role index := by
  rw [machine?, set, machines_setMachines]
  by_cases hrole : role = slot.role
  · subst hrole
    rw [if_pos rfl, List.getElem?_modify]
    by_cases hindex : slot.index = index
    · simp [hindex, machine?]
    · simp [hindex, Ne.symm hindex, machine?]
  · simp [hrole, machine?]

theorem ext_machines {i i' : Instance} (htopology : i.topology = i'.topology)
    (h : ∀ role, i.machines role = i'.machines role) : i = i' := by
  obtain ⟨t, ls, ss, bs⟩ := i
  obtain ⟨t', ls', ss', bs'⟩ := i'
  obtain rfl : t = t' := htopology
  have hls : ls = ls' := h .loadGenerator
  have hss : ss = ss' := h .systemUnderTest
  have hbs : bs = bs' := h .backend
  rw [hls, hss, hbs]

theorem get?_of_machines_eq {i : Instance} {role : Role} {m : Machine} (h : i.machines role = [m])
    (field : Field) : i.get? ⟨role, 0, field⟩ = some (m.get field) := by
  simp [get?, machine?, h]

/-- A write to a slot that exists is what the slot holds then; other slots hold what they held. -/
theorem get?_set (i : Instance) (slot slot' : Slot) (value : Option Address) :
    (i.set slot value).get? slot' =
      (i.get? slot').map fun old => if slot' = slot then value else old := by
  obtain ⟨role, index, field⟩ := slot
  obtain ⟨role', index', field'⟩ := slot'
  simp only [get?, machine?_set, Option.map_map]
  split
  · next h =>
    obtain ⟨rfl, rfl⟩ := h
    rw [Option.map_map]
    congr 1
    funext m
    simp [Machine.get_set]
  · next h =>
    congr 1
    funext m
    have hne : ¬ (role' = role ∧ index' = index ∧ field' = field) := fun hall =>
      h ⟨hall.1, hall.2.1⟩
    simp [hne]

-- ---------------------------------------------------------------------------
-- A sequence of writes
-- ---------------------------------------------------------------------------

/-- Writes one after the other. -/
def setAll (i : Instance) (writes : List (Slot × Option Address)) : Instance :=
  writes.foldl (fun i write => i.set write.1 write.2) i

@[simp] theorem topology_setAll (i : Instance) (writes : List (Slot × Option Address)) :
    (i.setAll writes).topology = i.topology := by
  induction writes generalizing i with
  | nil => rfl
  | cons write writes ih => exact (ih _).trans (topology_set i write.1 write.2)

@[simp] theorem length_machines_setAll (i : Instance) (writes : List (Slot × Option Address))
    (role : Role) : ((i.setAll writes).machines role).length = (i.machines role).length := by
  induction writes generalizing i with
  | nil => rfl
  | cons write writes ih => exact (ih _).trans (length_machines_set i write.1 write.2 role)

/-- After a sequence of writes a slot holds the last value written to it, or its old one. -/
theorem get?_setAll (i : Instance) (writes : List (Slot × Option Address)) (slot : Slot) :
    (i.setAll writes).get? slot =
      (i.get? slot).map fun old => (writes.reverse.lookup slot).getD old := by
  induction writes generalizing i with
  | nil => simp [setAll]
  | cons write writes ih =>
    obtain ⟨slot', value⟩ := write
    show ((i.set slot' value).setAll writes).get? slot = _
    rw [ih, get?_set, Option.map_map, List.reverse_cons]
    congr 1
    funext old
    rw [Function.comp_apply, List.lookup_append, List.lookup_cons]
    by_cases h : slot = slot'
    · cases writes.reverse.lookup slot <;> simp [h]
    · have hne : (slot == slot') = false := by simpa using h
      cases writes.reverse.lookup slot <;> simp [h, hne]

/-- The value was written to the slot, and nothing after it. -/
def LastWritten (writes : List (Slot × Option Address)) (slot : Slot) (value : Option Address) :
    Prop :=
  ∃ before after, writes = before ++ (slot, value) :: after ∧ slot ∉ after.map (·.1)

theorem LastWritten.lookup_reverse {writes : List (Slot × Option Address)} {slot : Slot}
    {value : Option Address} (h : LastWritten writes slot value) :
    writes.reverse.lookup slot = some value := by
  obtain ⟨before, after, rfl, hafter⟩ := h
  rw [List.lookup_eq_some_iff]
  refine ⟨after.reverse, before.reverse, by simp, fun write hwrite => ?_⟩
  have hne : slot ≠ write.1 := by
    rintro rfl
    exact hafter (List.mem_map_of_mem (List.mem_reverse.1 hwrite))
  simpa using hne

/-- Among writes to different slots each one is the last to its slot. -/
theorem lastWritten_of_mem {writes : List (Slot × Option Address)} {slot : Slot}
    {value : Option Address} (hdistinct : (writes.map (·.1)).Nodup)
    (hmem : (slot, value) ∈ writes) : LastWritten writes slot value := by
  obtain ⟨before, after, rfl⟩ := List.append_of_mem hmem
  refine ⟨before, after, rfl, ?_⟩
  rw [List.map_append, List.map_cons] at hdistinct
  exact (List.nodup_cons.1 (List.nodup_append.1 hdistinct).2.1).1

theorem get?_setAll_of_lastWritten {i : Instance} {writes : List (Slot × Option Address)}
    {slot : Slot} {value old : Option Address} (h : LastWritten writes slot value)
    (hslot : i.get? slot = some old) : (i.setAll writes).get? slot = some value := by
  rw [get?_setAll, hslot, h.lookup_reverse]
  rfl

/-- Of writes to different slots, each leaves its value, wherever in the sequence it stands. -/
theorem get?_setAll_of_mem {i : Instance} {writes : List (Slot × Option Address)} {slot : Slot}
    {value old : Option Address} (hdistinct : (writes.map (·.1)).Nodup)
    (hmem : (slot, value) ∈ writes) (hslot : i.get? slot = some old) :
    (i.setAll writes).get? slot = some value :=
  get?_setAll_of_lastWritten (lastWritten_of_mem hdistinct hmem) hslot

end Instance
end Sandbox
