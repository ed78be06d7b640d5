-- SUMMARY: What assembly looks at: the texts of bound outputs, and in them the requested builds.
import Sandbox.Proofs.Assembly
import Sandbox.Proofs.AddressBook.Acceptance

/-!
# What assembly looks at

Assembly reads the texts of the outputs that are bound to slots, and nothing
else of the outputs. Where it succeeds, the members of builds that were not
requested do not matter either: texts that differ in these only, and can still
be decoded, yield the same instances.
-/

namespace Sandbox

open Checks

/-! ## Members of a build -/

namespace AddressBook

variable {raw raw' : String} {book book' : AddressBook} {lists : Dict String (List String)}
  {members members' : List (String × List String)} {id : BuildId}

/-- The members whose keys spell a build, in whatever way. -/
def membersFor (members : List (String × List String)) (id : BuildId) :
    List (String × List String) :=
  members.filter (Text.integer ·.1 = .ok id.value)

theorem textsFor_membersFor (members : List (String × List String)) (id : BuildId) :
    textsFor (membersFor members id) id = textsFor members id := by
  unfold membersFor
  induction members with
  | nil => rfl
  | cons member members ih =>
    unfold textsFor at ih ⊢
    by_cases hid : Text.integer member.1 = .ok id.value
    · rw [List.filter_cons_of_pos (by simpa using hid), List.flatMap_cons, List.flatMap_cons, ih]
    · rw [List.filter_cons_of_neg (by simpa using hid), List.flatMap_cons, if_neg hid, ih]
      rfl

theorem membersFor_entries (members : List (String × List String)) (id : BuildId) :
    membersFor (Dict.ofList members).entries id = (Dict.ofList (membersFor members id)).entries :=
  Dict.filter_entries_ofList (fun key => Text.integer key = .ok id.value) members

theorem mem_keys_iff_membersFor (h : ofLists lists = .ok book) :
    id ∈ book.keys ↔ membersFor lists.entries id ≠ [] := by
  rw [mem_keys_of_ofLists h, membersFor, ne_eq, List.filter_eq_nil_iff]
  simp

/-- What a book has for a build is given by the members of that build. -/
theorem get?_eq_of_membersFor_eq (h : ofLists (Dict.ofList members) = .ok book)
    (h' : ofLists (Dict.ofList members') = .ok book')
    (hmembers : membersFor members id = membersFor members' id) :
    book.get? id = book'.get? id := by
  have hentries : membersFor (Dict.ofList members).entries id =
      membersFor (Dict.ofList members').entries id := by
    rw [membersFor_entries, membersFor_entries, hmembers]
  have hlists := lists_of_ofLists h id
  have hlists' := lists_of_ofLists h' id
  rw [← textsFor_membersFor] at hlists hlists'
  refine get?_eq_of_addresses_eq (hlists.unique (hentries ▸ hlists')) ?_
  rw [mem_keys_iff_membersFor h, mem_keys_iff_membersFor h', hentries]

/-- Two texts write objects of lists with the same members for some builds. Members of other builds
    may have been added, removed or changed. -/
def AgreeOn (wanted : BuildId → Prop) (raw raw' : String) : Prop :=
  ∃ members members', Writes raw members ∧ Writes raw' members' ∧
    ∀ id, wanted id → membersFor members id = membersFor members' id

theorem AgreeOn.get?_eq {wanted : BuildId → Prop} (h : AgreeOn wanted raw raw')
    (hbook : decode raw = .ok book) (hbook' : decode raw' = .ok book') (hid : wanted id) :
    book'.get? id = book.get? id := by
  obtain ⟨members, members', hwrites, hwrites', hmembers⟩ := h
  rw [decode_of_writes hwrites] at hbook
  rw [decode_of_writes hwrites'] at hbook'
  exact (get?_eq_of_membersFor_eq hbook hbook' (hmembers id hid)).symm

end AddressBook

/-! ## Outputs that agree -/

namespace Outputs

variable {t : Topology} {wanted : BuildId → Prop} {outputs outputs' : Outputs}

/-- The outputs bound to slots of a topology are the same as far as presence and texts go. -/
def SameTexts (t : Topology) (outputs outputs' : Outputs) : Prop :=
  ∀ b ∈ t.bindings, (outputs.get? b.output).map (·.value) = (outputs'.get? b.output).map (·.value)

/-- The bound outputs that hold a book still hold one, which lists for some builds what it did. -/
def SameLists (t : Topology) (wanted : BuildId → Prop) (outputs outputs' : Outputs) : Prop :=
  ∀ b ∈ t.bindings, ∀ book, outputs.Reports b.output book →
    ∃ book', outputs'.Reports b.output book' ∧ ∀ id, wanted id → book'.get? id = book.get? id

/-- The bound outputs that are present still are, and hold books whose texts have for some builds
    the members they had. -/
def SameMembers (t : Topology) (wanted : BuildId → Prop) (outputs outputs' : Outputs) : Prop :=
  ∀ b ∈ t.bindings, ∀ output, outputs.get? b.output = some output →
    ∃ output', outputs'.get? b.output = some output' ∧
      (∃ book', AddressBook.decode output'.value = .ok book') ∧
        AddressBook.AgreeOn wanted output.value output'.value

theorem SameMembers.sameLists (h : SameMembers t wanted outputs outputs') :
    SameLists t wanted outputs outputs' := by
  intro b hb book hbook
  obtain ⟨output, houtput, hdecode⟩ := hbook
  obtain ⟨output', houtput', ⟨book', hdecode'⟩, hagree⟩ := h b hb output houtput
  exact ⟨book', ⟨output', houtput', hdecode'⟩, fun id hid => hagree.get?_eq hdecode hdecode' hid⟩

theorem SameLists.lists (h : SameLists t wanted outputs outputs') {b : Binding}
    (hb : b ∈ t.bindings) {id : BuildId} (hid : wanted id) {a : Address}
    (ha : outputs.Lists b.output id a) : outputs'.Lists b.output id a := by
  obtain ⟨book, hbook, hget⟩ := ha
  obtain ⟨book', hbook', hsame⟩ := h b hb book hbook
  exact ⟨book', hbook', (hsame id hid).trans hget⟩

end Outputs

/-! ## Topologies -/

theorem Binding.decode_congr {b : Binding} {outputs outputs' : Outputs}
    (h : (outputs.get? b.output).map (·.value) = (outputs'.get? b.output).map (·.value)) :
    b.decode outputs = b.decode outputs' := by
  unfold decode
  cases houtput : outputs.get? b.output with
  | none =>
    rw [houtput] at h
    rw [Option.map_eq_none_iff.1 h.symm]
  | some output =>
    rw [houtput] at h
    obtain ⟨output', houtput', hvalue⟩ := Option.map_eq_some_iff.1 h.symm
    simp only [houtput', hvalue]

namespace Topology

variable {t : Topology} {wanted : BuildId → Prop} {outputs outputs' : Outputs} {id : BuildId}
  {i i' : Instance}

theorem assemble_congr (h : Outputs.SameTexts t outputs outputs') (ids : List BuildId) :
    t.assemble ids outputs = t.assemble ids outputs' := by
  rw [assemble, assemble, mapM_congr fun b hb => b.decode_congr (h b hb)]

/-- The outputs leave no choice of the instance. -/
theorem Describes.unique (h : t.Describes outputs id i) (h' : t.Describes outputs id i') :
    i = i' := by
  refine Instance.ext_machines (h.topology.trans h'.topology.symm) fun role => ?_
  obtain ⟨m, hm, hfields⟩ := h.machine role
  obtain ⟨m', hm', hfields'⟩ := h'.machine role
  have hmachine : m = m' := by
    refine Machine.ext_get fun field => ?_
    obtain ⟨⟨b, hb, hslot⟩, hbound⟩ := hfields field
    obtain ⟨a, hlists, ha⟩ := hbound b hb hslot
    obtain ⟨a', hlists', ha'⟩ := (hfields' field).2 b hb hslot
    rw [ha, ha', hlists.unique hlists']
  rw [hm, hm', hmachine]

theorem Describes.of_sameLists (h : t.Describes outputs id i)
    (hsame : Outputs.SameLists t wanted outputs outputs') (hid : wanted id) :
    t.Describes outputs' id i := by
  refine ⟨h.topology, fun role => ?_⟩
  obtain ⟨m, hm, hfields⟩ := h.machine role
  refine ⟨m, hm, fun field => ⟨(hfields field).1, fun b hb hslot => ?_⟩⟩
  obtain ⟨a, hlists, ha⟩ := (hfields field).2 b hb hslot
  exact ⟨a, hsame.lists hb hid hlists, ha⟩

theorem exists_assemble_of_sameLists {ids : List BuildId}
    (hsame : Outputs.SameLists t wanted outputs outputs') (hwanted : ∀ id ∈ ids, wanted id)
    (h : ∃ is, t.assemble ids outputs = .ok is) : ∃ is, t.assemble ids outputs' = .ok is := by
  obtain ⟨hreports, hsingle⟩ := exists_assemble_iff.1 h
  refine exists_assemble_iff.2 ⟨fun b hb => ?_, fun b hb book' hbook' id hid => ?_⟩
  · obtain ⟨book, hbook⟩ := hreports b hb
    obtain ⟨book', hbook', -⟩ := hsame b hb book hbook
    exact ⟨book', hbook'⟩
  · obtain ⟨book, hbook⟩ := hreports b hb
    obtain ⟨address, hget⟩ := hsingle b hb book hbook id hid
    obtain ⟨_, hlisted, hget'⟩ := hsame.lists hb (hwanted id hid) ⟨book, hbook, hget⟩
    obtain rfl := hbook'.unique hlisted
    exact ⟨address, hget'⟩

/-- Outputs that list the same for the builds assembled yield the same instances. -/
theorem assemble_of_sameLists {ids : List BuildId} {is : Instances}
    (hsame : Outputs.SameLists t wanted outputs outputs') (hwanted : ∀ id ∈ ids, wanted id)
    (h : t.assemble ids outputs = .ok is) : t.assemble ids outputs' = .ok is := by
  obtain ⟨is', his'⟩ := exists_assemble_of_sameLists hsame hwanted ⟨is, h⟩
  obtain ⟨hkeys, hdescribes⟩ := assemble_eq_ok h
  obtain ⟨hkeys', hdescribes'⟩ := assemble_eq_ok his'
  have hsub : ∀ id i, is'.get? id = some i → is.get? id = some i := by
    intro id i' hi'
    have hid := (hkeys' id).1 (Dict.mem_keys_iff.2 ⟨i', hi'⟩)
    obtain ⟨i, hi⟩ := Dict.mem_keys_iff.1 ((hkeys id).2 hid)
    have hdescribed := (hdescribes id i hi).of_sameLists hsame (hwanted id hid)
    rw [hi, hdescribed.unique (hdescribes' id i' hi')]
  have heq : is = is' := by
    refine Dict.ext_get? fun id => ?_
    cases hget' : is'.get? id with
    | some i' => exact hsub id i' hget'
    | none =>
      rw [Dict.get?_eq_none_iff, hkeys'] at hget'
      rwa [Dict.get?_eq_none_iff, hkeys]
  rw [his', heq]

end Topology

/-! ## Requests -/

namespace Request

/-- A build is among those requested. -/
def Wants (r : Request) (id : BuildId) : Prop :=
  ∃ ids, r.lists.get? .defaultX64 = some ids ∧ id.value ∈ ids

theorem assemble_congr {outputs outputs' : Outputs}
    (h : Outputs.SameTexts .defaultX64 outputs outputs') (r : Request) :
    r.assemble outputs = r.assemble outputs' := by
  show r.assembleBy (fun t builds => t.assemble builds outputs) =
    r.assembleBy fun t builds => t.assemble builds outputs'
  congr 1
  funext t builds
  cases t
  exact Topology.assemble_congr h builds

theorem assemble_of_sameLists {r : Request} {outputs outputs' : Outputs} {is : Instances}
    (hsame : Outputs.SameLists .defaultX64 r.Wants outputs outputs')
    (h : r.assemble outputs = .ok is) : r.assemble outputs' = .ok is := by
  obtain ⟨builds, hne, hids, his⟩ := assemble_eq_ok_iff.1 h
  refine assemble_eq_ok_iff.2 ⟨builds, hne, hids, Topology.assemble_of_sameLists hsame ?_ his⟩
  intro id hid
  exact ⟨_, hids, List.mem_map_of_mem hid⟩

/-- Outputs bound to slots that have the same texts are assembled alike, whatever else the outputs
    hold. Where assembly succeeds, the builds that were not requested do not matter: outputs that
    list the same for the requested builds yield the same instances, and so do outputs whose texts
    have the same members for these. -/
theorem assembles_requested_alone (r : Request) (outputs outputs' : Outputs) :
    (Outputs.SameTexts .defaultX64 outputs outputs' →
      r.assemble outputs = r.assemble outputs') ∧
    ∀ is, r.assemble outputs = .ok is →
      (Outputs.SameLists .defaultX64 r.Wants outputs outputs' → r.assemble outputs' = .ok is) ∧
      (Outputs.SameMembers .defaultX64 r.Wants outputs outputs' → r.assemble outputs' = .ok is) :=
  ⟨fun hsame => assemble_congr hsame r, fun _ h =>
    ⟨fun hsame => assemble_of_sameLists hsame h,
      fun hsame => assemble_of_sameLists hsame.sameLists h⟩⟩

/-- Besides the fifth build, two others are listed. -/
def wideText : String :=
  r#"{"5": ["10.0.0.1"], "+20": ["10.0.0.2"], "31": ["10.0.0.3"]}"#

def wideMembers : List (String × List String) :=
  [("5", ["10.0.0.1"]), ("+20", ["10.0.0.2"]), ("31", ["10.0.0.3"])]

def wideBook : AddressBook :=
  .ofList [(⟨5, by decide⟩, [.v4 ⟨10, 0, 0, 1⟩]), (⟨20, by decide⟩, [.v4 ⟨10, 0, 0, 2⟩]),
    (⟨31, by decide⟩, [.v4 ⟨10, 0, 0, 3⟩])]

theorem writes_wideText : AddressBook.Writes wideText wideMembers := AddressBook.writes_iff.2 rfl

/-- Of the other builds one is left out, and one has other addresses under another key. -/
def narrowText : String := r#"{"020": ["::2", "::3"], "5": ["10.0.0.1"]}"#

def narrowMembers : List (String × List String) := [("020", ["::2", "::3"]), ("5", ["10.0.0.1"])]

def fifth : BuildId := ⟨5, by decide⟩

def fifthBuild : Request := empty.insert .defaultX64 [fifth.value]

theorem wants_fifthBuild {id : BuildId} (h : fifthBuild.Wants id) : id = fifth := by
  obtain ⟨ids, hids, hmem⟩ := h
  obtain rfl : [fifth.value] = ids := Option.some.inj hids
  exact BuildId.value_injective (List.mem_singleton.1 hmem)

theorem sameMembers_wideText :
    Outputs.SameMembers .defaultX64 fifthBuild.Wants (uniformOutputs wideText)
      (uniformOutputs narrowText) := by
  intro b hb output houtput
  rw [get?_uniformOutputs hb] at houtput
  cases houtput
  have hnarrow : AddressBook.Writes narrowText narrowMembers := AddressBook.writes_iff.2 rfl
  have hdecode : ∃ book, AddressBook.decode narrowText = .ok book := by
    rw [AddressBook.decode_of_writes hnarrow]
    exact ⟨_, rfl⟩
  refine ⟨_, get?_uniformOutputs hb, hdecode, _, _, writes_wideText, hnarrow, fun id hid => ?_⟩
  rw [wants_fifthBuild hid]
  decide

theorem exists_assemble_wideText :
    ∃ is, fifthBuild.assemble (uniformOutputs wideText) = .ok is := by
  have hdecode : AddressBook.decode wideText = .ok wideBook := by
    rw [AddressBook.decode_of_writes writes_wideText]
    rfl
  have hreports : ∀ b ∈ Topology.bindings .defaultX64,
      (uniformOutputs wideText).Reports b.output wideBook :=
    fun b hb => ⟨_, get?_uniformOutputs hb, hdecode⟩
  have his : ∃ is, Topology.assemble .defaultX64 [fifth] (uniformOutputs wideText) = .ok is := by
    refine Topology.exists_assemble_iff.2 ⟨fun b hb => ⟨_, hreports b hb⟩, ?_⟩
    intro b hb book hbook id hid
    obtain rfl := (hreports b hb).unique hbook
    rw [List.mem_singleton.1 hid]
    exact ⟨.v4 ⟨10, 0, 0, 1⟩, rfl⟩
  obtain ⟨is, his⟩ := his
  exact ⟨is, assemble_eq_ok_iff.2 ⟨[fifth], List.cons_ne_nil _ _, rfl, his⟩⟩

theorem assembles_fifthBuild_alone :
    ∃ is, fifthBuild.assemble (uniformOutputs wideText) = .ok is ∧
      Outputs.SameMembers .defaultX64 fifthBuild.Wants (uniformOutputs wideText)
        (uniformOutputs narrowText) ∧
      fifthBuild.assemble (uniformOutputs narrowText) = .ok is := by
  obtain ⟨is, his⟩ := exists_assemble_wideText
  have hrequested := (assembles_requested_alone fifthBuild _ (uniformOutputs narrowText)).2 is his
  exact ⟨is, his, sameMembers_wideText, hrequested.2 sameMembers_wideText⟩

end Request

end Sandbox
