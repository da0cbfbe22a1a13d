import IppClient.Base.LastWrite
import IppClient.CupsPk.Device
import Mathlib.Data.List.Sort

/-!
# What `decode_devices` makes of a dictionary

Every entry whose key has an index is a write to a field of the device with that index
(`writes`). The loop leaves in each field the last of its writes (`Tabulates`), and the devices that
are returned are those with a URI, in the order of their indices.

* `Tabulates.decodeEntry`, `Tabulates.foldl_decodeEntry`: one round of the loop, and all of it.
* `decodeDevices_spec`: the devices of a dictionary, by the last writes.
* `decodeDevices_congr`: dictionaries whose writes leave the same devices decode alike.
-/

namespace Cups

open Base LastWrite

/-! ## Fields -/

/-- The fields of a device. -/
inductive Field where
  | uri
  | deviceClass
  | info
  | makeAndModel
  | deviceId
  | location
  deriving DecidableEq

namespace Field

/-- The name a key gives the field. -/
def name : Field → String
  | .uri => "device-uri"
  | .deviceClass => "device-class"
  | .info => "device-info"
  | .makeAndModel => "device-make-and-model"
  | .deviceId => "device-id"
  | .location => "device-location"

/-- Every field. -/
def all : List Field := [.uri, .deviceClass, .info, .makeAndModel, .deviceId, .location]

theorem mem_all (f : Field) : f ∈ all := by cases f <;> decide

theorem name_injective {f f' : Field} (h : f.name = f'.name) : f = f' := by
  revert h
  cases f <;> cases f' <;> decide

end Field

namespace Device

/-- The value of a field. -/
def get (d : Device) : Field → String
  | .uri => d.uri
  | .deviceClass => d.deviceClass
  | .info => d.info
  | .makeAndModel => d.makeAndModel
  | .deviceId => d.deviceId
  | .location => d.location

/-- The device with these values. -/
def ofFields (values : Field → String) : Device where
  uri := values .uri
  deviceClass := values .deviceClass
  info := values .info
  makeAndModel := values .makeAndModel
  deviceId := values .deviceId
  location := values .location

@[simp] theorem get_ofFields (values : Field → String) (f : Field) :
    (ofFields values).get f = values f := by cases f <;> rfl

@[simp] theorem get_empty (f : Field) : empty.get f = "" := by cases f <;> rfl

theorem ext_get {d d' : Device} (h : ∀ f, d.get f = d'.get f) : d = d' := by
  have hu := h .uri
  have hc := h .deviceClass
  have hi := h .info
  have hm := h .makeAndModel
  have hd := h .deviceId
  have hl := h .location
  cases d
  cases d'
  simp only [get] at hu hc hi hm hd hl
  rw [hu, hc, hi, hm, hd, hl]

/-- An assignment changes the field it names, if there is one. -/
theorem get_assign (d : Device) (field value : String) (f : Field) :
    (d.assign field value).get f = if field = f.name then value else d.get f := by
  by_cases hf : ∃ f' : Field, field = f'.name
  · obtain ⟨f', rfl⟩ := hf
    cases f' <;> cases f <;> rfl
  · have hne : ∀ f' : Field, field ≠ f'.name := fun f' h => hf ⟨f', h⟩
    have hd : d.assign field value = d := by
      have hu : field ≠ "device-uri" := hne .uri
      have hc : field ≠ "device-class" := hne .deviceClass
      have hi : field ≠ "device-info" := hne .info
      have hm : field ≠ "device-make-and-model" := hne .makeAndModel
      have hid : field ≠ "device-id" := hne .deviceId
      have hl : field ≠ "device-location" := hne .location
      rw [assign, if_neg hu, if_neg hc, if_neg hi, if_neg hm, if_neg hid, if_neg hl]
    rw [hd, if_neg (hne f)]

end Device

/-! ## Entries as writes -/

/-- What a key addresses: the index after its last colon, if that parses, and the text before it. -/
def slotOf (key : String) : Option (Nat × String) :=
  (Text.rsplitOnce key ':').bind fun (field, index) =>
    (Text.parseU32 index).map fun index => (index, field)

/-- The write an entry stands for. -/
def writeOf (entry : String × String) : Option ((Nat × String) × String) :=
  (slotOf entry.1).map fun slot => (slot, entry.2)

/-- The writes of a dictionary, in its order. -/
def writes (raw : Dictionary) : List ((Nat × String) × String) := raw.filterMap writeOf

/-- The device that writes leave at an index. -/
def deviceAt (ws : List ((Nat × String) × String)) (i : Nat) : Device :=
  .ofFields fun f => (lastWrite (i, f.name) ws).getD ""

/-- The map holds at each index the device that the writes leave there. -/
structure Tabulates (ws : List ((Nat × String) × String)) (m : List (Nat × Device)) : Prop where
  sorted : m.Pairwise fun a b => a.1 < b.1
  lookup : ∀ i, (m.lookup i).getD .empty = deviceAt ws i

theorem mem_writes {raw : Dictionary} {slot : Nat × String} {v : String} :
    (slot, v) ∈ writes raw ↔ ∃ key, (key, v) ∈ raw ∧ slotOf key = some slot := by
  simp only [writes, writeOf, List.mem_filterMap, Option.map_eq_some_iff, Prod.mk.injEq]
  constructor
  · rintro ⟨⟨key, v'⟩, he, s, hs, rfl, rfl⟩
    exact ⟨key, he, hs⟩
  · rintro ⟨key, he, hs⟩
    exact ⟨(key, v), he, slot, hs, rfl, rfl⟩

theorem writes_perm {raw raw' : Dictionary} (h : raw'.Perm raw) :
    (writes raw').Perm (writes raw) := h.filterMap _

/-! ## The loop -/

section Loop

variable {m : List (Nat × Device)} {f : Device → Device} {i j : Nat}

theorem fst_mem_updateEntry {e : Nat × Device} (h : e ∈ updateEntry f i m) :
    e.1 = i ∨ ∃ e' ∈ m, e'.1 = e.1 := by
  induction m with
  | nil =>
    rw [updateEntry, List.mem_singleton] at h
    exact .inl (by rw [h])
  | cons head rest ih =>
    obtain ⟨i', d⟩ := head
    rw [updateEntry] at h
    split at h
    · obtain rfl | h := List.mem_cons.mp h
      · exact .inl rfl
      · exact .inr ⟨e, h, rfl⟩
    · split at h
      · obtain rfl | h := List.mem_cons.mp h
        · exact .inr ⟨(i', d), List.mem_cons_self, rfl⟩
        · exact .inr ⟨e, List.mem_cons_of_mem _ h, rfl⟩
      · obtain rfl | h := List.mem_cons.mp h
        · exact .inr ⟨(i', d), List.mem_cons_self, rfl⟩
        · exact (ih h).imp id fun ⟨e', he', hfst⟩ => ⟨e', List.mem_cons_of_mem _ he', hfst⟩

/-- Before the first entry of a sorted map is before all of them. -/
theorem lt_of_mem_cons {d : Device} (hlt : i < j) (hm : ∀ e ∈ m, j < e.1) :
    ∀ e ∈ (j, d) :: m, i < e.1 := by
  intro e he
  obtain rfl | he := List.mem_cons.mp he
  · exact hlt
  · exact Nat.lt_trans hlt (hm e he)

/-- The map stays sorted. -/
theorem updateEntry_sorted (hm : m.Pairwise fun a b => a.1 < b.1) :
    (updateEntry f i m).Pairwise fun a b => a.1 < b.1 := by
  induction m with
  | nil => exact List.pairwise_singleton _ _
  | cons head rest ih =>
    obtain ⟨i', d⟩ := head
    rw [List.pairwise_cons] at hm
    rw [updateEntry]
    split
    · rename_i hlt
      exact List.pairwise_cons.mpr ⟨lt_of_mem_cons hlt hm.1, List.pairwise_cons.mpr hm⟩
    · split
      · exact List.pairwise_cons.mpr hm
      · rename_i hge hne
        refine List.pairwise_cons.mpr ⟨fun e he => ?_, ih hm.2⟩
        obtain h | ⟨e', he', h⟩ := fst_mem_updateEntry he
        · simp only [h]
          omega
        · exact h ▸ hm.1 e' he'

theorem lookup_cons_if (d : Device) :
    ((i, d) :: m).lookup j = if j = i then some d else m.lookup j := by
  rw [List.lookup_cons]
  by_cases h : j = i
  · rw [beq_iff_eq.mpr h, if_pos h]
  · rw [beq_eq_false_iff_ne.mpr h, if_neg h]

theorem lookup_eq_none_of_lt (h : ∀ e ∈ m, j < e.1) : m.lookup j = none := by
  rw [List.lookup_eq_none_iff]
  intro e he
  exact bne_iff_ne.mpr (Nat.ne_of_lt (h e he))

/-- In a sorted map, an entry is what the lookup of its index finds. -/
theorem lookup_of_mem (hm : m.Pairwise fun a b => a.1 < b.1) {e : Nat × Device} (he : e ∈ m) :
    m.lookup e.1 = some e.2 := by
  induction m with
  | nil => cases he
  | cons head rest ih =>
    obtain ⟨i, d⟩ := head
    rw [List.pairwise_cons] at hm
    obtain rfl | he := List.mem_cons.mp he
    · exact List.lookup_cons_self
    · have hlt := hm.1 e he
      rw [lookup_cons_if, if_neg (Nat.ne_of_gt hlt)]
      exact ih hm.2 he

/-- The entry of the index is updated, and no other. -/
theorem lookup_updateEntry (hm : m.Pairwise fun a b => a.1 < b.1) :
    (updateEntry f i m).lookup j =
      if j = i then some (f ((m.lookup i).getD .empty)) else m.lookup j := by
  induction m with
  | nil => rw [updateEntry, lookup_cons_if]; rfl
  | cons head rest ih =>
    obtain ⟨i', d⟩ := head
    rw [List.pairwise_cons] at hm
    rw [updateEntry]
    split
    · rename_i hlt
      have hnone : ((i', d) :: rest).lookup i = none :=
        lookup_eq_none_of_lt (lt_of_mem_cons hlt hm.1)
      rw [lookup_cons_if, hnone]
      rfl
    · split
      · rename_i hge heq
        subst heq
        rw [lookup_cons_if, lookup_cons_if, lookup_cons_if, if_pos rfl]
        by_cases hj : j = i <;> simp [hj]
      · rename_i hge hne
        rw [lookup_cons_if, lookup_cons_if, lookup_cons_if, ih hm.2, if_neg hne]
        by_cases hj : j = i
        · subst hj
          rw [if_neg hne, if_pos rfl, if_pos rfl]
        · rw [if_neg hj, if_neg hj]

theorem deviceAt_concat (ws : List ((Nat × String) × String)) (i j : Nat) (field value : String) :
    deviceAt (ws ++ [((i, field), value)]) j =
      if j = i then (deviceAt ws i).assign field value else deviceAt ws j := by
  refine Device.ext_get fun f => ?_
  by_cases hj : j = i
  · subst hj
    rw [if_pos rfl, Device.get_assign, deviceAt, deviceAt, Device.get_ofFields,
      Device.get_ofFields, lastWrite_concat]
    by_cases hf : field = f.name <;> simp [hf]
  · have hne : (i, field) ≠ (j, f.name) := fun h => hj (Prod.mk.inj h).1.symm
    rw [if_neg hj, deviceAt, deviceAt, Device.get_ofFields, Device.get_ofFields, lastWrite_concat,
      if_neg hne]

/-- One round of the loop: the entry's write is one more. -/
theorem Tabulates.decodeEntry {ws : List ((Nat × String) × String)} (h : Tabulates ws m)
    (entry : String × String) :
    Tabulates (ws ++ (writeOf entry).toList) (decodeEntry m entry) := by
  obtain ⟨key, value⟩ := entry
  unfold Cups.decodeEntry writeOf slotOf
  cases Text.rsplitOnce key ':' with
  | none => simpa using h
  | some cut =>
    obtain ⟨field, index⟩ := cut
    simp only [Option.bind_some]
    cases Text.parseU32 index with
    | none => simpa using h
    | some index =>
      refine ⟨updateEntry_sorted h.sorted, fun j => ?_⟩
      rw [lookup_updateEntry h.sorted, h.lookup, Option.map_some, Option.map_some,
        Option.toList_some, deviceAt_concat]
      by_cases hj : j = index
      · simp [hj]
      · simp only [hj, if_false]
        exact h.lookup j

theorem tabulates_nil : Tabulates [] [] where
  sorted := List.Pairwise.nil
  lookup _ := rfl

/-- The loop, from the writes so far. -/
theorem Tabulates.foldl_decodeEntry {ws : List ((Nat × String) × String)} (h : Tabulates ws m)
    (raw : Dictionary) : Tabulates (ws ++ writes raw) (raw.foldl Cups.decodeEntry m) := by
  induction raw generalizing ws m with
  | nil => simpa [writes] using h
  | cons entry raw ih =>
    have he := ih (h.decodeEntry entry)
    have hw : writes (entry :: raw) = (writeOf entry).toList ++ writes raw := by
      rw [writes, List.filterMap_cons]
      cases writeOf entry <;> rfl
    rwa [List.append_assoc, ← hw] at he

end Loop

/-- **The devices of a dictionary**: at the indices where the writes leave a URI, in their order,
the devices that the writes leave there. -/
theorem decodeDevices_spec (raw : Dictionary) :
    ∃ is : List Nat, is.Pairwise (· < ·) ∧ (∀ i, i ∈ is ↔ (deviceAt (writes raw) i).uri ≠ "") ∧
      decodeDevices raw = is.map (deviceAt (writes raw)) := by
  have ht : Tabulates (writes raw) (raw.foldl decodeEntry []) :=
    tabulates_nil.foldl_decodeEntry raw
  unfold decodeDevices
  generalize raw.foldl decodeEntry [] = m at ht
  have hmem : ∀ e ∈ m, e.2 = deviceAt (writes raw) e.1 := by
    intro e he
    rw [← ht.lookup, lookup_of_mem ht.sorted he]
    rfl
  refine ⟨(m.filter fun e => e.2.uri ≠ "").map (·.1), ?_, fun i => ?_, ?_⟩
  · rw [List.pairwise_map]
    exact ht.sorted.filter _
  · rw [List.mem_map]
    constructor
    · rintro ⟨e, he, rfl⟩
      obtain ⟨he, hu⟩ := List.mem_filter.mp he
      rw [← hmem e he]
      simpa using hu
    · intro hu
      rw [← ht.lookup] at hu
      cases hl : m.lookup i with
      | none =>
        rw [hl] at hu
        exact absurd rfl hu
      | some d =>
        rw [hl] at hu
        obtain ⟨before, after, rfl, -⟩ := List.lookup_eq_some_iff.mp hl
        exact ⟨(i, d), List.mem_filter.mpr ⟨by simp, by simpa using hu⟩, rfl⟩
  · rw [List.filter_map, List.map_map]
    exact List.map_congr_left fun e he => hmem e (List.mem_filter.mp he).1

/-- Dictionaries that leave the same devices at all indices where one of them leaves a URI. -/
theorem decodeDevices_congr {raw raw' : Dictionary}
    (h : ∀ i, deviceAt (writes raw') i = deviceAt (writes raw) i ∨
      (deviceAt (writes raw') i).uri = "" ∧ (deviceAt (writes raw) i).uri = "") :
    decodeDevices raw' = decodeDevices raw := by
  obtain ⟨is, hs, hmem, hd⟩ := decodeDevices_spec raw
  obtain ⟨is', hs', hmem', hd'⟩ := decodeDevices_spec raw'
  have heq : is' = is := by
    refine hs'.sortedLT.eq_of_mem_iff hs.sortedLT fun i => ?_
    rw [hmem, hmem']
    obtain he | ⟨he', he⟩ := h i
    · rw [he]
    · rw [he, he']
  rw [hd, hd', heq]
  refine List.map_congr_left fun i hi => (h i).resolve_right fun hu => ?_
  exact (hmem i).mp hi hu.2

end Cups
