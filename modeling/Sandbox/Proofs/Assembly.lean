-- SUMMARY: When outputs describe the requested instances, and what the instances are then.
import Sandbox.Assembly
import Sandbox.Proofs.Instance
import Sandbox.Proofs.Request

/-!
# Assembled instances

Assembly reads every bound output as a book before it takes the first build.
Outputs are complete for a list of builds if all bound outputs are present, all
their values are books, and every book lists every build with one address.
Assembly succeeds exactly then, and what it yields holds these addresses.
-/

namespace Sandbox

open Checks

-- ---------------------------------------------------------------------------
-- Outputs
-- ---------------------------------------------------------------------------

namespace Outputs

/-- An output is present and its value is a book as a whole. -/
def Reports (outputs : Outputs) (name : String) (book : AddressBook) : Prop :=
  ∃ output, outputs.get? name = some output ∧ AddressBook.decode output.value = .ok book

/-- An output lists one address for a build. -/
def Lists (outputs : Outputs) (name : String) (id : BuildId) (address : Address) : Prop :=
  ∃ book, outputs.Reports name book ∧ book.get? id = some [address]

/-- The outputs describe one instance of a topology for each of some builds. -/
structure Complete (outputs : Outputs) (t : Topology) (ids : List Int64) : Prop where
  nonempty : ids ≠ []
  positive : ∀ id ∈ ids, 1 ≤ id
  present : ∀ b ∈ t.bindings, ∃ output, outputs.get? b.output = some output
  decodable : ∀ b ∈ t.bindings, ∀ output, outputs.get? b.output = some output →
    ∃ book, AddressBook.decode output.value = .ok book
  single : ∀ b ∈ t.bindings, ∀ book, outputs.Reports b.output book →
    ∀ id : BuildId, id.value ∈ ids → ∃ address, book.get? id = some [address]

theorem Reports.unique {outputs : Outputs} {name : String} {book book' : AddressBook}
    (h : outputs.Reports name book) (h' : outputs.Reports name book') : book = book' := by
  obtain ⟨output, houtput, hbook⟩ := h
  obtain ⟨output', houtput', hbook'⟩ := h'
  obtain rfl : output = output' := Option.some.inj (houtput.symm.trans houtput')
  exact Except.ok.inj (hbook.symm.trans hbook')

theorem Lists.unique {outputs : Outputs} {name : String} {id : BuildId} {a a' : Address}
    (h : outputs.Lists name id a) (h' : outputs.Lists name id a') : a = a' := by
  obtain ⟨book, hbook, hget⟩ := h
  obtain ⟨book', hbook', hget'⟩ := h'
  obtain rfl := hbook.unique hbook'
  exact (List.cons.inj (Option.some.inj (hget.symm.trans hget'))).1

theorem Complete.exists_reports {outputs : Outputs} {t : Topology} {ids : List Int64}
    (h : outputs.Complete t ids) : ∀ b ∈ t.bindings, ∃ book, outputs.Reports b.output book := by
  intro b hb
  obtain ⟨output, houtput⟩ := h.present b hb
  obtain ⟨book, hbook⟩ := h.decodable b hb output houtput
  exact ⟨book, output, houtput, hbook⟩

end Outputs

-- ---------------------------------------------------------------------------
-- Bound books
-- ---------------------------------------------------------------------------

/-- The error is a fault of the outputs: one of them holds no book, or they do not describe the
    requested instances. -/
def Error.OfOutputs (e : Error) : Prop :=
  (∃ output raw fault, e = .decode output raw fault) ∨ ∃ fault, e = .assembly fault

theorem Binding.decode_eq_ok {b : Binding} {outputs : Outputs} {bound : BoundBook} :
    b.decode outputs = .ok bound ↔ bound.binding = b ∧ outputs.Reports b.output bound.book := by
  obtain ⟨b', book⟩ := bound
  rw [decode, Outputs.Reports]
  cases outputs.get? b.output with
  | none => simp [throw, throwThe, MonadExceptOf.throw]
  | some output =>
    simp only [bind_eq_ok, mapError_eq_ok, pure, Except.pure, Except.ok.injEq, BoundBook.mk.injEq,
      Option.some.injEq, exists_eq_left']
    constructor
    · rintro ⟨book', hbook, rfl, rfl⟩
      exact ⟨rfl, hbook⟩
    · rintro ⟨rfl, hbook⟩
      exact ⟨book, hbook, rfl, rfl⟩

theorem Binding.exists_decode_eq_ok {b : Binding} {outputs : Outputs} :
    (∃ bound, b.decode outputs = .ok bound) ↔ ∃ book, outputs.Reports b.output book := by
  constructor
  · rintro ⟨bound, hbound⟩
    exact ⟨bound.book, (decode_eq_ok.1 hbound).2⟩
  · rintro ⟨book, hbook⟩
    exact ⟨⟨b, book⟩, decode_eq_ok.2 ⟨rfl, hbook⟩⟩

theorem Binding.exists_decode_eq_error {b : Binding} {outputs : Outputs} :
    (∃ e, b.decode outputs = .error e) ↔ ¬ ∃ book, outputs.Reports b.output book := by
  rw [exists_error_iff, exists_decode_eq_ok]

/-- An output cannot be decoded if it is missing or its value is no book. -/
theorem Binding.decode_eq_error_iff {b : Binding} {outputs : Outputs} {e : Error} :
    b.decode outputs = .error e ↔
      (outputs.get? b.output = none ∧ e = .assembly (.missingOutput b.output)) ∨
        ∃ output fault, outputs.get? b.output = some output ∧
          AddressBook.decode output.value = .error fault ∧ e = .decode b.output output.value fault := by
  rw [decode]
  cases outputs.get? b.output with
  | none => simp [throw, throwThe, MonadExceptOf.throw, eq_comm]
  | some output =>
    simp only [bind_eq_error, mapError_eq_error, pure, Except.pure, reduceCtorEq, and_false,
      exists_false, or_false, false_and, false_or, Option.some.injEq]
    constructor
    · rintro ⟨fault, hfault, rfl⟩
      exact ⟨output, fault, rfl, hfault, rfl⟩
    · rintro ⟨_, fault, rfl, hfault, rfl⟩
      exact ⟨fault, hfault, rfl⟩

theorem Binding.decode_eq_error {b : Binding} {outputs : Outputs} {e : Error}
    (h : b.decode outputs = .error e) : e.OfOutputs := by
  obtain ⟨-, rfl⟩ | ⟨_, fault, -, -, rfl⟩ := decode_eq_error_iff.1 h
  · exact .inr ⟨_, rfl⟩
  · exact .inl ⟨_, _, fault, rfl⟩

namespace BoundBook

theorem addresses_eq_ok {b : BoundBook} {wanted : Nat} {id : BuildId} {as : List Address} :
    b.addresses wanted id = .ok as ↔ b.book.get? id = some as ∧ as.length = wanted := by
  rw [addresses]
  cases b.book.get? id with
  | none => simp
  | some as' =>
    simp only [Option.some.injEq]
    split
    · next h =>
      rw [Except.ok.injEq]
      exact ⟨fun heq => ⟨heq, heq ▸ h⟩, And.left⟩
    · next h =>
      simp only [reduceCtorEq, false_iff, not_and]
      rintro rfl
      exact h

theorem addresses_eq_error_iff {b : BoundBook} {wanted : Nat} {id : BuildId}
    {fault : AssemblyFault} :
    b.addresses wanted id = .error fault ↔
      (b.book.get? id = none ∧ fault = .missingInstance id b.binding.output b.book) ∨
        ∃ as, b.book.get? id = some as ∧ as.length ≠ wanted ∧
          fault = .wrongCount id b.binding.output wanted as := by
  rw [addresses]
  cases b.book.get? id with
  | none => simp [eq_comm]
  | some as =>
    by_cases hcount : as.length = wanted
    · simp [hcount]
    · simp [hcount, eq_comm (a := fault)]

theorem exists_addresses_eq_error {b : BoundBook} {id : BuildId} :
    (∃ fault, b.addresses 1 id = .error fault) ↔ ¬ ∃ address, b.book.get? id = some [address] := by
  rw [exists_error_iff]
  simp only [addresses_eq_ok, List.length_eq_one_iff]
  refine not_congr ⟨?_, ?_⟩
  · rintro ⟨_, hget, address, rfl⟩
    exact ⟨address, hget⟩
  · rintro ⟨address, hget⟩
    exact ⟨_, hget, address, rfl⟩

/-- What a bound book writes into the instance of a build. -/
def entry (wanted : Nat) (id : BuildId) (b : BoundBook) :
    Except AssemblyFault (Slot × Option Address) :=
  (b.addresses wanted id).map fun as => (b.binding.slot, as.head?)

/-- Where one address is wanted, a book with a single address for the build writes that one. -/
theorem entry_one_eq_ok {b : BoundBook} {id : BuildId} {write : Slot × Option Address} :
    b.entry 1 id = .ok write ↔
      ∃ address, b.book.get? id = some [address] ∧ write = (b.binding.slot, some address) := by
  simp only [entry, map_eq_ok, addresses_eq_ok, List.length_eq_one_iff]
  constructor
  · rintro ⟨_, ⟨hget, address, rfl⟩, rfl⟩
    exact ⟨address, hget, rfl⟩
  · rintro ⟨address, hget, rfl⟩
    exact ⟨_, ⟨hget, address, rfl⟩, rfl⟩

theorem slot_of_entry_eq_ok {id : BuildId} (b : BoundBook) (write : Slot × Option Address)
    (h : b.entry 1 id = .ok write) : write.1 = b.binding.slot := by
  obtain ⟨address, -, rfl⟩ := entry_one_eq_ok.1 h
  rfl

end BoundBook

namespace Topology

-- ---------------------------------------------------------------------------
-- The layout
-- ---------------------------------------------------------------------------

theorem addressesPerOutput_eq (t : Topology) : t.addressesPerOutput = 1 := by cases t; rfl

theorem nodup_slots (t : Topology) : (t.bindings.map (·.slot)).Nodup := by cases t; decide

/-- Every address of the first machine of each role is bound to an output. -/
theorem exists_binding (t : Topology) (role : Role) (field : Field) :
    ∃ b ∈ t.bindings, b.slot = ⟨role, 0, field⟩ := by
  cases t; cases role <;> cases field <;> decide

theorem get?_placeholder_of_mem (t : Topology) :
    ∀ b ∈ t.bindings, t.placeholder.get? b.slot = some none := by
  cases t; decide

theorem length_machines_placeholder (t : Topology) (role : Role) :
    (t.placeholder.machines role).length = 1 := by
  cases t; cases role <;> rfl

theorem topology_placeholder (t : Topology) : t.placeholder.topology = t := by cases t; rfl

/-- No request is turned away for its topology. -/
theorem mem_supported (t : Topology) : t ∈ supported := by cases t; decide

-- ---------------------------------------------------------------------------
-- Slots of the layout
-- ---------------------------------------------------------------------------

/-- All books are bound to slots of the topology. -/
def Binds (t : Topology) (books : List BoundBook) : Prop := ∀ b ∈ books, b.binding ∈ t.bindings

/-- The instance has as many machines of each role as an empty one of the topology. -/
def Shapes (t : Topology) (i : Instance) : Prop :=
  ∀ role, (i.machines role).length = (t.placeholder.machines role).length

/-- Every bound slot belongs to a machine. -/
theorem Shapes.exists_machine? {t : Topology} {i : Instance} {b : Binding} (hi : t.Shapes i)
    (hb : b ∈ t.bindings) : ∃ m, i.machine? b.slot.role b.slot.index = some m := by
  have hplaceholder := t.get?_placeholder_of_mem b hb
  obtain ⟨m, hm, -⟩ := Option.map_eq_some_iff.1 hplaceholder
  obtain ⟨hlt, -⟩ := List.getElem?_eq_some_iff.1 hm
  exact ⟨_, List.getElem?_eq_getElem (hi b.slot.role ▸ hlt)⟩

theorem fill_eq {t : Topology} {i : Instance} {b : BoundBook} (hi : t.Shapes i)
    (hb : b.binding ∈ t.bindings) (id : BuildId) :
    t.fill id i b = (b.entry 1 id).map fun write => i.set write.1 write.2 := by
  obtain ⟨m, hm⟩ := hi.exists_machine? hb
  rw [fill, BoundBook.entry, addressesPerOutput_eq]
  cases b.addresses 1 id with
  | error fault => rfl
  | ok as =>
    simp only [hm]
    rfl

/-- As long as the slots filled are bound ones, the machines for them are there. -/
theorem foldlM_fill {t : Topology} {books : List BoundBook} {i : Instance} (hbooks : t.Binds books)
    (hi : t.Shapes i) (id : BuildId) :
    books.foldlM (t.fill id) i = (books.mapM (BoundBook.entry 1 id)).map i.setAll := by
  have hwrites : books.foldlM (t.fill id) i =
      books.foldlM (fun i b => (b.entry 1 id).map fun write => i.set write.1 write.2) i := by
    induction books generalizing i with
    | nil => rfl
    | cons b books ih =>
      obtain ⟨hb, hrest⟩ := List.forall_mem_cons.1 hbooks
      rw [List.foldlM_cons, List.foldlM_cons, fill_eq hi hb]
      cases b.entry 1 id with
      | error fault => rfl
      | ok write =>
        exact ih hrest fun role => (Instance.length_machines_set i _ _ role).trans (hi role)
  rw [hwrites]
  exact foldlM_map_eq (BoundBook.entry 1 id) (fun i write => i.set write.1 write.2) i books

-- ---------------------------------------------------------------------------
-- One instance
-- ---------------------------------------------------------------------------

/-- An instance has one machine in each role, each address of which is the one that the output
    bound to it lists for the build. -/
structure Describes (t : Topology) (outputs : Outputs) (id : BuildId) (i : Instance) : Prop where
  topology : i.topology = t
  machine : ∀ role, ∃ m, i.machines role = [m] ∧
    ∀ field, (∃ b ∈ t.bindings, b.slot = ⟨role, 0, field⟩) ∧
      ∀ b ∈ t.bindings, b.slot = ⟨role, 0, field⟩ →
        ∃ address, outputs.Lists b.output id address ∧ m.get field = some address

theorem assembleInstance_eq {t : Topology} {books : List BoundBook} (hbooks : t.Binds books)
    (id : BuildId) :
    t.assembleInstance books id =
      (books.mapM (BoundBook.entry 1 id)).map (Instance.setAll t.placeholder) :=
  foldlM_fill hbooks (fun _ => rfl) id

theorem exists_assembleInstance_iff {t : Topology} {books : List BoundBook}
    (hbooks : t.Binds books) {id : BuildId} :
    (∃ i, t.assembleInstance books id = .ok i) ↔
      ∀ b ∈ books, ∃ address, b.book.get? id = some [address] := by
  rw [assembleInstance_eq hbooks]
  constructor
  · rintro ⟨i, hi⟩ b hb
    obtain ⟨writes, hwrites, -⟩ := map_eq_ok.1 hi
    obtain ⟨write, hwrite⟩ := exists_mapM_eq_ok.1 ⟨writes, hwrites⟩ b hb
    obtain ⟨address, hget, -⟩ := BoundBook.entry_one_eq_ok.1 hwrite
    exact ⟨address, hget⟩
  · intro h
    have hentries : ∀ b ∈ books, ∃ write, b.entry 1 id = .ok write := by
      intro b hb
      obtain ⟨address, hget⟩ := h b hb
      exact ⟨_, BoundBook.entry_one_eq_ok.2 ⟨address, hget, rfl⟩⟩
    obtain ⟨writes, hwrites⟩ := exists_mapM_eq_ok.2 hentries
    exact ⟨t.placeholder.setAll writes, map_eq_ok.2 ⟨writes, hwrites, rfl⟩⟩

theorem assembleInstance_eq_error {t : Topology} {books : List BoundBook}
    (hbooks : t.Binds books) {id : BuildId} {fault : AssemblyFault} :
    t.assembleInstance books id = .error fault ↔
      ∃ b, First (fun b => ¬ ∃ address, b.book.get? id = some [address]) books b ∧
        b.addresses 1 id = .error fault := by
  simp only [assembleInstance_eq hbooks, mapM_eq_error, BoundBook.entry, map_eq_error,
    BoundBook.exists_addresses_eq_error]

theorem decodeAll_iff {t : Topology} {outputs : Outputs} :
    (∃ books, t.bindings.mapM (·.decode outputs) = .ok books) ↔
      ∀ b ∈ t.bindings, ∃ book, outputs.Reports b.output book := by
  simp only [exists_mapM_eq_ok, Binding.exists_decode_eq_ok]

/-- The books of a topology are bound in reading order, each to what its output reports. -/
theorem decodeAll_eq_ok {t : Topology} {outputs : Outputs} {books : List BoundBook}
    (h : t.bindings.mapM (·.decode outputs) = .ok books) :
    books.map (·.binding) = t.bindings ∧
      ∀ b ∈ books, outputs.Reports b.binding.output b.book := by
  constructor
  · have hbound := map_eq_map_of_mapM_eq_ok (g := BoundBook.binding) (k := id)
      (fun _ _ _ hb => (Binding.decode_eq_ok.1 hb).1) h
    rwa [List.map_id] at hbound
  · intro b hb
    obtain ⟨binding, -, hdecode⟩ := exists_of_mem_of_mapM_eq_ok h hb
    obtain ⟨rfl, hreports⟩ := Binding.decode_eq_ok.1 hdecode
    exact hreports

theorem binds_of_decodeAll {t : Topology} {outputs : Outputs} {books : List BoundBook}
    (h : t.bindings.mapM (·.decode outputs) = .ok books) : t.Binds books := by
  intro b hb
  rw [← (decodeAll_eq_ok h).1]
  exact List.mem_map_of_mem hb

theorem decodeAll_eq_error {t : Topology} {outputs : Outputs} {e : Error} :
    t.bindings.mapM (·.decode outputs) = .error e ↔
      ∃ b, First (fun b => ¬ ∃ book, outputs.Reports b.output book) t.bindings b ∧
        b.decode outputs = .error e := by
  simp only [mapM_eq_error, Binding.exists_decode_eq_error]

theorem describes_of_assembleInstance {t : Topology} {outputs : Outputs} {books : List BoundBook}
    {id : BuildId} {i : Instance} (hbooks : t.bindings.mapM (·.decode outputs) = .ok books)
    (hi : t.assembleInstance books id = .ok i) : t.Describes outputs id i := by
  obtain ⟨hbindings, hreports⟩ := decodeAll_eq_ok hbooks
  rw [assembleInstance_eq (binds_of_decodeAll hbooks)] at hi
  obtain ⟨writes, hwrites, rfl⟩ := map_eq_ok.1 hi
  -- The slots written are those of the layout, which are different.
  have hslots : writes.map (·.1) = books.map (·.binding.slot) :=
    map_eq_map_of_mapM_eq_ok (fun b _ => b.slot_of_entry_eq_ok) hwrites
  have hdistinct : (writes.map (·.1)).Nodup := by
    have hnodup := t.nodup_slots
    rw [← hbindings, List.map_map] at hnodup
    rw [hslots]
    exact hnodup
  have hcontent : ∀ b ∈ t.bindings, ∃ address, outputs.Lists b.output id address ∧
      (t.placeholder.setAll writes).get? b.slot = some (some address) := by
    intro b hb
    obtain ⟨bound, hbound, rfl⟩ := List.mem_map.1 (hbindings ▸ hb)
    obtain ⟨write, hwrite, hentry⟩ := exists_mem_of_mapM_eq_ok hwrites hbound
    obtain ⟨address, hget, rfl⟩ := BoundBook.entry_one_eq_ok.1 hentry
    exact ⟨address, ⟨bound.book, hreports bound hbound, hget⟩,
      Instance.get?_setAll_of_mem hdistinct hwrite (t.get?_placeholder_of_mem _ hb)⟩
  refine ⟨(Instance.topology_setAll _ _).trans t.topology_placeholder, fun role => ?_⟩
  have hlength := (Instance.length_machines_setAll t.placeholder writes role).trans
    (t.length_machines_placeholder role)
  obtain ⟨m, hm⟩ := List.length_eq_one_iff.1 hlength
  refine ⟨m, hm, fun field => ⟨t.exists_binding role field, fun b hb hslot => ?_⟩⟩
  obtain ⟨address, hlists, hget⟩ := hcontent b hb
  rw [hslot, Instance.get?_of_machines_eq hm field] at hget
  exact ⟨address, hlists, Option.some.inj hget⟩

-- ---------------------------------------------------------------------------
-- All instances
-- ---------------------------------------------------------------------------

theorem assembleAll_eq (t : Topology) (books : List BoundBook) (ids : List BuildId) :
    t.assembleAll books ids =
      (ids.mapM fun id => (t.assembleInstance books id).map (id, ·)).map Dict.ofList := by
  have hstep : t.assembleAll books ids = ids.foldlM (fun found id =>
      ((t.assembleInstance books id).map (id, ·)).map fun p => found.insert p.1 p.2)
      Dict.empty := by
    rw [assembleAll]
    congr 1
    funext found id
    cases t.assembleInstance books id <;> rfl
  rw [hstep]
  exact foldlM_map_eq (fun id => (t.assembleInstance books id).map (id, ·))
    (fun found p => found.insert p.1 p.2) Dict.empty ids

theorem exists_assembleAll_iff {t : Topology} {books : List BoundBook} (hbooks : t.Binds books)
    {ids : List BuildId} :
    (∃ is, t.assembleAll books ids = .ok is) ↔
      ∀ id ∈ ids, ∀ b ∈ books, ∃ address, b.book.get? id = some [address] := by
  simp only [assembleAll_eq, map_eq_ok, ← exists_assembleInstance_iff hbooks]
  constructor
  · rintro ⟨_, pairs, hpairs, -⟩ id hid
    obtain ⟨_, hpair⟩ := exists_mapM_eq_ok.1 ⟨pairs, hpairs⟩ id hid
    obtain ⟨i, hi, -⟩ := map_eq_ok.1 hpair
    exact ⟨i, hi⟩
  · intro h
    have hpairs : ∀ id ∈ ids, ∃ pair, (t.assembleInstance books id).map (id, ·) = .ok pair := by
      intro id hid
      obtain ⟨i, hi⟩ := h id hid
      exact ⟨(id, i), map_eq_ok.2 ⟨i, hi, rfl⟩⟩
    obtain ⟨pairs, hpairs⟩ := exists_mapM_eq_ok.2 hpairs
    exact ⟨_, pairs, hpairs, rfl⟩

theorem assembleAll_eq_error {t : Topology} {books : List BoundBook} (hbooks : t.Binds books)
    {ids : List BuildId} {fault : AssemblyFault} :
    t.assembleAll books ids = .error fault ↔
      ∃ id b, First (fun (id, b) => ¬ ∃ address, b.book.get? id = some [address])
        (ids ×ˢ books) (id, b) ∧ b.addresses 1 id = .error fault := by
  have hinstance : ∀ id, (∃ fault, t.assembleInstance books id = .error fault) ↔
      ∃ b ∈ books, ¬ ∃ address, b.book.get? id = some [address] := by
    intro id
    rw [exists_error_iff, exists_assembleInstance_iff hbooks]
    simp only [not_forall, exists_prop]
  simp only [assembleAll_eq, mapM_eq_error, map_eq_error, hinstance]
  simp only [first_product, assembleInstance_eq_error hbooks]
  constructor
  · rintro ⟨id, hid, b, hb, hfault⟩
    exact ⟨id, b, ⟨hid, hb⟩, hfault⟩
  · rintro ⟨id, b, ⟨hid, hb⟩, hfault⟩
    exact ⟨id, hid, b, hb, hfault⟩

theorem assembleAll_eq_ok {t : Topology} {books : List BoundBook} {ids : List BuildId}
    {is : Instances} (h : t.assembleAll books ids = .ok is) :
    (∀ id, id ∈ is.keys ↔ id ∈ ids) ∧
      ∀ id i, is.get? id = some i → t.assembleInstance books id = .ok i := by
  rw [assembleAll_eq] at h
  obtain ⟨pairs, hpairs, rfl⟩ := map_eq_ok.1 h
  have hids : pairs.map (·.1) = ids.map id :=
    map_eq_map_of_mapM_eq_ok (fun _ _ _ hp => by obtain ⟨i, -, rfl⟩ := map_eq_ok.1 hp; rfl) hpairs
  refine ⟨fun id => ?_, fun id i hi => ?_⟩
  · rw [Dict.mem_keys_iff, Dict.exists_get?_ofList_iff, ← List.map_id ids, ← hids]
    simp
  · obtain ⟨id', -, hpair⟩ := exists_of_mem_of_mapM_eq_ok hpairs (Dict.mem_of_get?_ofList hi)
    obtain ⟨i', hi', heq⟩ := map_eq_ok.1 hpair
    obtain ⟨rfl, rfl⟩ := Prod.mk.inj heq
    exact hi'

-- ---------------------------------------------------------------------------
-- From outputs to instances
-- ---------------------------------------------------------------------------

theorem assemble_of_decodeAll_eq_ok {t : Topology} {outputs : Outputs} {books : List BoundBook}
    (h : t.bindings.mapM (·.decode outputs) = .ok books) (ids : List BuildId) :
    t.assemble ids outputs = (t.assembleAll books ids).mapError .assembly := by
  rw [assemble, h]
  rfl

theorem assemble_of_decodeAll_eq_error {t : Topology} {outputs : Outputs} {e : Error}
    (h : t.bindings.mapM (·.decode outputs) = .error e) (ids : List BuildId) :
    t.assemble ids outputs = .error e := by
  rw [assemble, h]
  rfl

theorem exists_assemble_iff {t : Topology} {ids : List BuildId} {outputs : Outputs} :
    (∃ is, t.assemble ids outputs = .ok is) ↔
      (∀ b ∈ t.bindings, ∃ book, outputs.Reports b.output book) ∧
        ∀ b ∈ t.bindings, ∀ book, outputs.Reports b.output book →
          ∀ id ∈ ids, ∃ address, book.get? id = some [address] := by
  simp only [assemble, bind_eq_ok, mapError_eq_ok]
  constructor
  · rintro ⟨is, books, hbooks, his⟩
    obtain ⟨hbindings, hreports⟩ := decodeAll_eq_ok hbooks
    have hsingle := (exists_assembleAll_iff (binds_of_decodeAll hbooks)).1 ⟨is, his⟩
    rw [← hbindings]
    simp only [List.forall_mem_map]
    refine ⟨fun b hb => ⟨b.book, hreports b hb⟩, fun b hb book hbook id hid => ?_⟩
    obtain rfl := hbook.unique (hreports b hb)
    exact hsingle id hid b hb
  · rintro ⟨hreports, hsingle⟩
    obtain ⟨books, hbooks⟩ := decodeAll_iff.2 hreports
    obtain ⟨hbindings, hbound⟩ := decodeAll_eq_ok hbooks
    have hall : ∃ is, t.assembleAll books ids = .ok is := by
      refine (exists_assembleAll_iff (binds_of_decodeAll hbooks)).2 fun id hid b hb => ?_
      exact hsingle b.binding (hbindings ▸ List.mem_map_of_mem hb) b.book (hbound b hb) id hid
    obtain ⟨is, his⟩ := hall
    exact ⟨is, books, hbooks, his⟩

theorem assemble_eq_ok {t : Topology} {ids : List BuildId} {outputs : Outputs} {is : Instances}
    (h : t.assemble ids outputs = .ok is) :
    (∀ id, id ∈ is.keys ↔ id ∈ ids) ∧
      ∀ id i, is.get? id = some i → t.Describes outputs id i := by
  simp only [assemble, bind_eq_ok, mapError_eq_ok] at h
  obtain ⟨books, hbooks, his⟩ := h
  obtain ⟨hkeys, hinstances⟩ := assembleAll_eq_ok his
  exact ⟨hkeys, fun id i hi => describes_of_assembleInstance hbooks (hinstances id i hi)⟩

end Topology

-- ---------------------------------------------------------------------------
-- From requests to instances
-- ---------------------------------------------------------------------------

namespace Request

theorem buildIds_eq_ok {t : Topology} {ids : List Int64} {builds : List BuildId} :
    buildIds t ids = .ok builds ↔ ids ≠ [] ∧ builds.map (·.value) = ids := by
  rw [buildIds]
  split
  · next h => simp [List.isEmpty_iff.1 h]
  · next h =>
    have hne : ids ≠ [] := by simpa using h
    rw [mapM_eq_ok, and_iff_right hne]
    clear h hne
    induction ids generalizing builds with
    | nil => simp
    | cons id ids ih =>
      rw [List.forall₂_cons_left_iff, List.map_eq_cons_iff]
      simp only [ih]
      constructor
      · rintro ⟨build, rest, hbuild, hrest, rfl⟩
        split at hbuild
        · next hid =>
          obtain rfl := Except.ok.inj hbuild
          exact ⟨_, rest, rfl, BuildId.ofInt64?_eq_some_iff.1 hid, hrest⟩
        · cases hbuild
      · rintro ⟨build, rest, rfl, rfl, hrest⟩
        exact ⟨build, rest, by rw [BuildId.ofInt64?_value], hrest, rfl⟩

/-- A request for a list of builds is assembled as its topology is. -/
theorem assembleBy_of_get? {r : Request} {ids : List Int64}
    (f : Topology → List BuildId → Except Error Instances)
    (h : r.lists.get? .defaultX64 = some ids) :
    r.assembleBy f = (buildIds .defaultX64 ids).mapError .assembly >>= f .defaultX64 := by
  rw [assembleBy, isEmpty_of_get? h, entries_of_get? h]
  simp only [Bool.false_eq_true, if_false, List.foldlM_cons, List.foldlM_nil,
    Topology.mem_supported, not_true]
  cases (buildIds .defaultX64 ids).mapError Error.assembly with
  | error e => rfl
  | ok builds =>
    show (f .defaultX64 builds >>= fun is => pure (Dict.empty.union is)) >>= pure =
      f .defaultX64 builds
    cases f .defaultX64 builds with
    | error e => rfl
    | ok is => exact congrArg Except.ok (Dict.empty_union is)

/-- A request for builds is assembled as its topology is, without any check failing before that. -/
theorem assembleBy_of_builds {r : Request} {builds : List BuildId} (hne : builds ≠ [])
    (h : r.lists.get? .defaultX64 = some (builds.map (·.value)))
    (f : Topology → List BuildId → Except Error Instances) :
    r.assembleBy f = f .defaultX64 builds := by
  rw [assembleBy_of_get? f h, buildIds_eq_ok.2 ⟨by simpa using hne, rfl⟩]
  rfl

theorem assemble_of_get? {r : Request} {ids : List Int64} (outputs : Outputs)
    (h : r.lists.get? .defaultX64 = some ids) :
    r.assemble outputs = (do
      let builds ← (buildIds .defaultX64 ids).mapError .assembly
      Topology.assemble .defaultX64 builds outputs) :=
  assembleBy_of_get? (fun t builds => t.assemble builds outputs) h

theorem assemble_of_builds {r : Request} {builds : List BuildId} (outputs : Outputs)
    (hne : builds ≠ []) (h : r.lists.get? .defaultX64 = some (builds.map (·.value))) :
    r.assemble outputs = Topology.assemble .defaultX64 builds outputs :=
  assembleBy_of_builds hne h fun t builds => t.assemble builds outputs

theorem assemble_of_get?_eq_none {r : Request} (outputs : Outputs)
    (h : r.lists.get? .defaultX64 = none) :
    r.assemble outputs = .error (.assembly .noTopology) := by
  rw [assemble, assembleBy, if_pos (isEmpty_iff.2 h)]
  rfl

theorem assemble_eq_ok_iff {r : Request} {outputs : Outputs} {is : Instances} :
    r.assemble outputs = .ok is ↔
      ∃ builds, builds ≠ [] ∧ r.lists.get? .defaultX64 = some (builds.map (·.value)) ∧
        Topology.assemble .defaultX64 builds outputs = .ok is := by
  cases hids : r.lists.get? .defaultX64 with
  | none => simp [assemble_of_get?_eq_none outputs hids]
  | some ids =>
    simp only [assemble_of_get? outputs hids, bind_eq_ok, mapError_eq_ok, buildIds_eq_ok,
      Option.some.injEq]
    constructor
    · rintro ⟨builds, ⟨hne, rfl⟩, his⟩
      exact ⟨builds, by simpa using hne, rfl, his⟩
    · rintro ⟨builds, hne, rfl, his⟩
      exact ⟨builds, ⟨by simpa using hne, rfl⟩, his⟩

/-- What assembly reports is never a fault of the configuration or of the tool. -/
theorem assemble_eq_error {r : Request} {outputs : Outputs} {e : Error}
    (h : r.assemble outputs = .error e) : e.OfOutputs := by
  cases hids : r.lists.get? .defaultX64 with
  | none =>
    rw [assemble_of_get?_eq_none outputs hids] at h
    exact .inr ⟨_, (Except.error.inj h).symm⟩
  | some ids =>
    rw [assemble_of_get? outputs hids, bind_eq_error, mapError_eq_error] at h
    obtain ⟨fault, -, rfl⟩ | ⟨builds, -, h⟩ := h
    · exact .inr ⟨fault, rfl⟩
    simp only [Topology.assemble, bind_eq_error, mapError_eq_error] at h
    obtain hdecode | ⟨_, -, fault, -, rfl⟩ := h
    · obtain ⟨b, -, hb⟩ := Topology.decodeAll_eq_error.1 hdecode
      exact Binding.decode_eq_error hb
    · exact .inr ⟨fault, rfl⟩

end Request

-- ---------------------------------------------------------------------------
-- Complete outputs
-- ---------------------------------------------------------------------------

theorem Outputs.complete_map_value_iff {outputs : Outputs} {t : Topology} {builds : List BuildId} :
    outputs.Complete t (builds.map (·.value)) ↔
      builds ≠ [] ∧ ∃ is, t.assemble builds outputs = .ok is := by
  rw [Topology.exists_assemble_iff]
  constructor
  · intro h
    refine ⟨by simpa using h.nonempty, h.exists_reports, fun b hb book hbook id hid => ?_⟩
    exact h.single b hb book hbook id (BuildId.value_mem_map_value.2 hid)
  · rintro ⟨hne, hreports, hsingle⟩
    refine ⟨by simpa using hne, BuildId.exists_map_value_iff.1 ⟨builds, rfl⟩, fun b hb => ?_,
      fun b hb output houtput => ?_, fun b hb book hbook id hid => ?_⟩
    · obtain ⟨book, output, houtput, -⟩ := hreports b hb
      exact ⟨output, houtput⟩
    · obtain ⟨book, output', houtput', hbook⟩ := hreports b hb
      obtain rfl : output = output' := Option.some.inj (houtput.symm.trans houtput')
      exact ⟨book, hbook⟩
    · exact hsingle b hb book hbook id (BuildId.value_mem_map_value.1 hid)

/-- Assembly succeeds exactly on complete outputs. It yields the requested builds and no other,
    and each instance holds the addresses that the outputs list for its build. -/
theorem Request.assemble_iff_complete (r : Request) (outputs : Outputs) :
    ((∃ is, r.assemble outputs = .ok is) ↔
      ∃ ids, r.lists.get? .defaultX64 = some ids ∧ outputs.Complete .defaultX64 ids) ∧
    ∀ is, r.assemble outputs = .ok is →
      (∀ id : BuildId, id ∈ is.keys ↔
        ∃ ids, r.lists.get? .defaultX64 = some ids ∧ id.value ∈ ids) ∧
      ∀ id i, is.get? id = some i → Topology.Describes .defaultX64 outputs id i := by
  constructor
  · simp only [assemble_eq_ok_iff]
    constructor
    · rintro ⟨is, builds, hne, hids, his⟩
      exact ⟨_, hids, Outputs.complete_map_value_iff.2 ⟨hne, is, his⟩⟩
    · rintro ⟨ids, hids, hcomplete⟩
      obtain ⟨builds, rfl⟩ := BuildId.exists_map_value_iff.2 hcomplete.positive
      obtain ⟨hne, is, his⟩ := Outputs.complete_map_value_iff.1 hcomplete
      exact ⟨is, builds, hne, hids, his⟩
  · intro is h
    obtain ⟨builds, -, hids, his⟩ := assemble_eq_ok_iff.1 h
    obtain ⟨hkeys, hdescribes⟩ := Topology.assemble_eq_ok his
    refine ⟨fun id => ?_, hdescribes⟩
    simp [hkeys, hids, BuildId.value_mem_map_value]

-- ---------------------------------------------------------------------------
-- Outputs with one value
-- ---------------------------------------------------------------------------

namespace Request

/-- Every bound output has the same value. -/
def uniformOutputs (raw : String) : Outputs :=
  .ofList ((Topology.bindings .defaultX64).map fun b => (b.output, ⟨false, .null, raw⟩))

theorem get?_uniformOutputs {raw : String} {b : Binding}
    (hb : b ∈ Topology.bindings .defaultX64) :
    (uniformOutputs raw).get? b.output = some ⟨false, .null, raw⟩ := by
  refine Dict.get?_ofList_of_mem (List.mem_map_of_mem hb) fun output houtput => ?_
  obtain ⟨_, -, heq⟩ := List.mem_map.1 houtput
  exact (Prod.mk.inj heq).2.symm

/-- Every output lists one address for build 12 and two for build 7. -/
def unevenOutputs : Outputs := uniformOutputs r#"{"12": ["10.0.0.1"], "7": ["::1", "::1"]}"#

end Request
end Sandbox
