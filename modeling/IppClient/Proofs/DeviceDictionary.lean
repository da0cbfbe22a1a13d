import IppClient.Proofs.Devices
import Mathlib.Data.List.Perm.Subperm

/-!
# The order and the keys of a device dictionary

The mechanism writes each index in decimal, and `decode_devices` reads it with a parser that also
takes leading zeros and a plus sign. So two distinct keys can address the same field of the same
device, and then the order of the hash map decides which value is kept.

* `decodeDevices_order_iff`: **exactly when the order of a dictionary does not matter.**
* `Canonical`, `isNoise`, `encode`: the dictionaries whose indices are spelled in decimal, the keys
  that address no field, and the dictionary of a list of devices.
* `lastWrite_canonical`: in a canonical dictionary, a field's last write is its only entry.
* `decodeDevices_inverts`: **`decode_devices` inverts the encoding.**
-/

namespace Cups

open Base LastWrite

/-! ## The order of the dictionary -/

/-- Two entries that address the same field of the same device say the same, or that device is
not returned. -/
def OrderFree (raw : Dictionary) : Prop :=
  ∀ (i : Nat) (f : Field) (key key' v v' : String), (key, v) ∈ raw → (key', v') ∈ raw →
    slotOf key = some (i, f.name) → slotOf key' = some (i, f.name) →
      v = v' ∨ ∀ key u, (key, u) ∈ raw → slotOf key = some (i, Field.uri.name) → u = ""

section Order

variable {raw base : Dictionary} {i : Nat} {f : Field}

theorem get_deviceAt (ws : List ((Nat × String) × String)) (i : Nat) (f : Field) :
    (deviceAt ws i).get f = (lastWrite (i, f.name) ws).getD "" := Device.get_ofFields _ _

/-- An index at which every URI is empty has no device. -/
theorem uri_deviceAt_eq (h : ∀ u, ((i, Field.uri.name), u) ∈ writes raw → u = "") :
    (deviceAt (writes raw) i).uri = "" := by
  have hg : (deviceAt (writes raw) i).uri = (lastWrite (i, Field.uri.name) (writes raw)).getD "" :=
    get_deviceAt _ i .uri
  rw [hg]
  cases hl : lastWrite (i, Field.uri.name) (writes raw) with
  | none => rfl
  | some u => exact h u (mem_of_lastWrite hl)

theorem decodeDevices_perm (h : OrderFree raw) {raw' : Dictionary} (hp : raw'.Perm raw) :
    decodeDevices raw' = decodeDevices raw := by
  have hw := writes_perm hp
  refine decodeDevices_congr fun i => ?_
  by_cases hu : ∀ u, ((i, Field.uri.name), u) ∈ writes raw → u = ""
  · exact .inr ⟨uri_deviceAt_eq fun u hm => hu u (hw.mem_iff.mp hm), uri_deviceAt_eq hu⟩
  · refine .inl (Device.ext_get fun f => ?_)
    rw [get_deviceAt, get_deviceAt, lastWrite_perm (fun v v' hv hv' => ?_) hw]
    obtain ⟨key, hk, hs⟩ := mem_writes.mp hv
    obtain ⟨key', hk', hs'⟩ := mem_writes.mp hv'
    refine (h i f key key' v v' hk hk' hs hs').resolve_right fun hall => hu fun u hm => ?_
    obtain ⟨key, hk, hs⟩ := mem_writes.mp hm
    exact hall key u hk hs

/-- Lists of one length that agree on all but one element agree on that too, if they hold nothing
twice. -/
theorem mem_of_agree_elsewhere {xs ys : List Nat} (hy : ys.Nodup)
    (h : ∀ j, j ≠ i → (j ∈ xs ↔ j ∈ ys)) (hl : xs.length = ys.length) (hi : i ∈ xs) : i ∈ ys := by
  by_contra hni
  have hsub : i :: ys ⊆ xs := by
    intro j hj
    obtain rfl | hj := List.mem_cons.mp hj
    · exact hi
    · exact (h j fun e => hni (e ▸ hj)).mpr hj
  have hle := ((List.nodup_cons.mpr ⟨hni, hy⟩).subperm hsub).length_le
  rw [List.length_cons] at hle
  omega

/-- Dictionaries that decode alike, and that leave the same devices at all indices but one, leave
the same device there too, or none. -/
theorem deviceAt_of_decode_eq {a b : Dictionary} (hd : decodeDevices a = decodeDevices b)
    (h : ∀ j, j ≠ i → deviceAt (writes a) j = deviceAt (writes b) j) :
    deviceAt (writes a) i = deviceAt (writes b) i ∨
      (deviceAt (writes a) i).uri = "" ∧ (deviceAt (writes b) i).uri = "" := by
  obtain ⟨as, hsa, hma, hda⟩ := decodeDevices_spec a
  obtain ⟨bs, hsb, hmb, hdb⟩ := decodeDevices_spec b
  rw [hda, hdb] at hd
  have hlen : as.length = bs.length := by simpa using congrArg List.length hd
  have hother : ∀ j, j ≠ i → (j ∈ as ↔ j ∈ bs) := fun j hj => by rw [hma, hmb, h j hj]
  have hna := hsa.sortedLT.nodup
  have hnb := hsb.sortedLT.nodup
  have hsame : as = bs := by
    refine hsa.sortedLT.eq_of_mem_iff hsb.sortedLT fun j => ?_
    by_cases hj : j = i
    · subst hj
      exact ⟨mem_of_agree_elsewhere hnb hother hlen,
        mem_of_agree_elsewhere hna (fun j hj => (hother j hj).symm) hlen.symm⟩
    · exact hother j hj
  subst hsame
  by_cases hi : i ∈ as
  · exact .inl (List.map_inj_left.mp hd i hi)
  · refine .inr ⟨?_, ?_⟩
    · by_contra hu
      exact hi ((hma i).mpr hu)
    · by_contra hu
      exact hi ((hmb i).mpr hu)

/-- Two different values for one field of a device that is returned show the order. -/
theorem order_matters {key key' v v' : String} (hb : base.Perm raw) (he : (key, v) ∈ base)
    (he' : (key', v') ∈ base) (hs : slotOf key = some (i, f.name))
    (hs' : slotOf key' = some (i, f.name)) (hv : v ≠ v')
    (hu : f = .uri ∨ (deviceAt (writes base) i).uri ≠ "") :
    ¬ ∀ raw' : Dictionary, raw'.Perm raw → decodeDevices raw' = decodeDevices raw := by
  intro h
  have hw : writeOf (key, v) = some ((i, f.name), v) := by rw [writeOf, hs]; rfl
  have hw' : writeOf (key', v') = some ((i, f.name), v') := by rw [writeOf, hs']; rfl
  obtain ⟨a, hpa, hva, hoa⟩ := exists_perm_lastWrite he hw
  obtain ⟨b, hpb, hvb, hob⟩ := exists_perm_lastWrite he' hw'
  have hdec : decodeDevices a = decodeDevices b := by
    rw [h a (hpa.trans hb), h b (hpb.trans hb)]
  have hne : ∀ j (g : Field), (j, g.name) ≠ (i, f.name) →
      (deviceAt (writes a) j).get g = (deviceAt (writes base) j).get g ∧
        (deviceAt (writes b) j).get g = (deviceAt (writes base) j).get g := by
    intro j g hg
    simp only [get_deviceAt]
    exact ⟨by rw [writes, hoa _ hg]; rfl, by rw [writes, hob _ hg]; rfl⟩
  have hother : ∀ j, j ≠ i → deviceAt (writes a) j = deviceAt (writes b) j := by
    intro j hj
    refine Device.ext_get fun g => ?_
    have hg := hne j g fun e => hj (Prod.mk.inj e).1
    rw [hg.1, hg.2]
  have hfa : (deviceAt (writes a) i).get f = v := by rw [get_deviceAt, writes, hva]; rfl
  have hfb : (deviceAt (writes b) i).get f = v' := by rw [get_deviceAt, writes, hvb]; rfl
  obtain hd | ⟨hua, hub⟩ := deviceAt_of_decode_eq hdec hother
  · exact hv (by rw [← hfa, ← hfb, hd])
  · by_cases hf : f = .uri
    · subst hf
      have ha : (deviceAt (writes a) i).uri = v := hfa
      have hb' : (deviceAt (writes b) i).uri = v' := hfb
      exact hv (by rw [← ha, ← hb', hua, hub])
    · have hg := hne i .uri fun e => hf (Field.name_injective (Prod.mk.inj e).2).symm
      have hbase : (deviceAt (writes a) i).uri = (deviceAt (writes base) i).uri := hg.1
      exact (hu.resolve_left hf) (hbase ▸ hua)

end Order

/-- **The order of a dictionary.** Every enumeration of it decodes to the same devices exactly when
entries that address one field of one device have one value, save where that device has no URI
in any order. -/
theorem decodeDevices_order_iff (raw : Dictionary) :
    (∀ raw' : Dictionary, raw'.Perm raw → decodeDevices raw' = decodeDevices raw) ↔
      OrderFree raw := by
  constructor
  · intro h i f key key' v v' he he' hs hs'
    by_contra hn
    simp only [not_or, not_forall] at hn
    obtain ⟨hv, keyᵤ, u, hmu, hsu, hu⟩ := hn
    by_cases hf : f = .uri
    · exact order_matters (.refl raw) he he' hs hs' hv (.inl hf) h
    · -- The URI comes last first, so that the device is returned.
      have hw : writeOf (keyᵤ, u) = some ((i, Field.uri.name), u) := by rw [writeOf, hsu]; rfl
      obtain ⟨base, hb, hlast, -⟩ := exists_perm_lastWrite hmu hw
      have hbu : (deviceAt (writes base) i).uri = u := by
        have hg : (deviceAt (writes base) i).get .uri = u := by
          rw [get_deviceAt, writes, hlast]
          rfl
        exact hg
      exact order_matters hb (hb.mem_iff.mpr he) (hb.mem_iff.mpr he') hs hs' hv
        (.inr (hbu ▸ hu)) h
  · exact fun h raw' hp => decodeDevices_perm h hp

/-- Two keys that spell the index 0. -/
def zeroTwice : Dictionary := [("device-uri:0", "ipp://a"), ("device-uri:00", "ipp://b")]

theorem zeroTwice_depends_on_order :
    ¬ ∀ raw raw' : Dictionary, (raw.map Prod.fst).Nodup → raw'.Perm raw →
      decodeDevices raw' = decodeDevices raw := by
  intro h
  have hd := h zeroTwice zeroTwice.reverse (by decide) (List.reverse_perm _)
  revert hd
  decide

/-! ## Canonical keys -/

/-- The key of a field of the device at an index, as the mechanism writes it. -/
def keyText (field : String) (i : Nat) : String := field ++ ":" ++ toString i

/-- The value of a field of the device at an index, empty if there is none. -/
def valueAt (raw : Dictionary) (f : Field) (i : Nat) : String :=
  (raw.lookup (keyText f.name i)).getD ""

/-- Every index of the dictionary is spelled in decimal. -/
def Canonical (raw : Dictionary) : Prop :=
  ∀ e ∈ raw, ∀ field index i, Text.rsplitOnce e.1 ':' = some (field, index) →
    Text.parseU32 index = some i → index = toString i

/-- The key addresses no field: it has no colon, no index that parses, or no known field. -/
def isNoise (key : String) : Bool :=
  match slotOf key with
  | none => true
  | some (_, field) => !(Field.all.map Field.name).contains field

/-- The entries of one device, without its empty fields. -/
def encodeDevice (i : Nat) (d : Device) : Dictionary :=
  Field.all.filterMap fun f =>
    if d.get f = "" then none else some (keyText f.name i, d.get f)

/-- The dictionary of a list of devices. -/
def encode (ds : List Device) : Dictionary := ds.zipIdx.flatMap fun (d, i) => encodeDevice i d

section Canonical

variable {raw : Dictionary} {i : Nat} {f : Field} {key field : String}

theorem slotOf_eq_some :
    slotOf key = some (i, field) ↔
      ∃ index, Text.rsplitOnce key ':' = some (field, index) ∧ Text.parseU32 index = some i := by
  simp only [slotOf, Option.bind_eq_some_iff, Option.map_eq_some_iff, Prod.mk.injEq]
  constructor
  · rintro ⟨⟨field', index⟩, hcut, j, hj, rfl, rfl⟩
    exact ⟨index, hcut, hj⟩
  · rintro ⟨index, hcut, hi⟩
    exact ⟨(field, index), hcut, i, hi, rfl, rfl⟩

/-- A key as the mechanism writes it addresses what it says. -/
theorem slotOf_keyText (hi : i < UInt32.size) : slotOf (keyText field i) = some (i, field) := by
  refine slotOf_eq_some.mpr ⟨toString i, Text.rsplitOnce_eq_some.mpr ⟨rfl, fun hc => ?_⟩,
    Text.parseU32_toString hi⟩
  exact absurd (Text.isDigit_of_mem_toString hc) (by decide)

/-- In a canonical dictionary, only that key does. -/
theorem Canonical.eq_keyText (hc : Canonical raw) {v : String} (he : (key, v) ∈ raw)
    (hs : slotOf key = some (i, field)) : key = keyText field i ∧ i < UInt32.size := by
  obtain ⟨index, hcut, hi⟩ := slotOf_eq_some.mp hs
  have hindex : index = toString i := hc (key, v) he field index i hcut hi
  refine ⟨?_, Text.parseU32_lt hi⟩
  rw [(Text.rsplitOnce_eq_some.mp hcut).1, hindex]
  rfl

/-- A field's last write in a canonical dictionary is its only entry. -/
theorem lastWrite_canonical (hn : (raw.map Prod.fst).Nodup) (hc : Canonical raw) (i : Nat)
    (f : Field) :
    lastWrite (i, f.name) (writes raw) =
      if i < UInt32.size then raw.lookup (keyText f.name i) else none := by
  split
  · rename_i hi
    cases hl : raw.lookup (keyText f.name i) with
    | none =>
      refine lastWrite_eq_none fun v hv => ?_
      obtain ⟨key, he, hs⟩ := mem_writes.mp hv
      have hne := List.lookup_eq_none_iff.mp hl _ he
      rw [(hc.eq_keyText he hs).1] at hne
      simp at hne
    | some v =>
      obtain ⟨before, after, hraw, -⟩ := List.lookup_eq_some_iff.mp hl
      have hmem : (keyText f.name i, v) ∈ raw := by
        rw [hraw]
        exact List.mem_append_right _ List.mem_cons_self
      refine lastWrite_of_settled (fun u u' hu hu' => ?_)
        (mem_writes.mpr ⟨_, hmem, slotOf_keyText hi⟩)
      obtain ⟨key, he, hs⟩ := mem_writes.mp hu
      obtain ⟨key', he', hs'⟩ := mem_writes.mp hu'
      have hkeys : key = key' := (hc.eq_keyText he hs).1.trans (hc.eq_keyText he' hs').1.symm
      exact (Prod.mk.inj (List.inj_on_of_nodup_map hn he he' hkeys)).2
  · rename_i hi
    refine lastWrite_eq_none fun v hv => hi ?_
    obtain ⟨key, he, hs⟩ := mem_writes.mp hv
    exact (hc.eq_keyText he hs).2

theorem decodeDevices_canonical (hn : (raw.map Prod.fst).Nodup) (hc : Canonical raw) :
    ∃ is : List Nat, is.Pairwise (· < ·) ∧
      (∀ i, i ∈ is ↔ i < UInt32.size ∧ valueAt raw .uri i ≠ "") ∧
      decodeDevices raw = is.map fun i => .ofFields fun f => valueAt raw f i := by
  obtain ⟨is, hs, hmem, hd⟩ := decodeDevices_spec raw
  have hget : ∀ i f, (deviceAt (writes raw) i).get f =
      if i < UInt32.size then valueAt raw f i else "" := by
    intro i f
    rw [get_deviceAt, lastWrite_canonical hn hc, valueAt]
    split <;> rfl
  have huri : ∀ i, (deviceAt (writes raw) i).uri =
      if i < UInt32.size then valueAt raw .uri i else "" := fun i => hget i .uri
  have hmem' : ∀ i, i ∈ is ↔ i < UInt32.size ∧ valueAt raw .uri i ≠ "" := by
    intro i
    rw [hmem, huri]
    split
    · rename_i hi
      exact ⟨fun h => ⟨hi, h⟩, fun h => h.2⟩
    · rename_i hi
      exact ⟨fun h => absurd rfl h, fun h => absurd h.1 hi⟩
  refine ⟨is, hs, hmem', ?_⟩
  rw [hd]
  refine List.map_congr_left fun i hi => Device.ext_get fun f => ?_
  rw [hget, Device.get_ofFields, if_pos ((hmem' i).mp hi).1]

/-! ## Noise -/

theorem not_isNoise_of_slotOf (hs : slotOf key = some (i, f.name)) : isNoise key = false := by
  have hf : f.name ∈ Field.all.map Field.name := List.mem_map_of_mem (Field.mem_all f)
  simp only [isNoise, hs]
  simpa using hf

/-- Keys that address no field never matter. -/
theorem decodeDevices_filter_noise (raw : Dictionary) :
    decodeDevices (raw.filter fun e => !isNoise e.1) = decodeDevices raw := by
  refine decodeDevices_congr fun i => .inl (Device.ext_get fun f => ?_)
  rw [get_deviceAt, get_deviceAt, writes, lastWrite_filter fun e he v hw => ?_]
  · rfl
  · obtain ⟨slot, hs, hv⟩ := Option.map_eq_some_iff.mp hw
    cases hv
    rw [not_isNoise_of_slotOf hs]
    rfl

/-! ## The encoding -/

theorem mem_encode {ds : List Device} {v : String} :
    (key, v) ∈ encode ds ↔
      ∃ i d, ds[i]? = some d ∧ ∃ f : Field, key = keyText f.name i ∧ v = d.get f ∧ v ≠ "" := by
  simp only [encode, encodeDevice, List.mem_flatMap, List.mem_filterMap, Prod.exists,
    List.mem_zipIdx_iff_getElem?]
  constructor
  · rintro ⟨d, i, hd, f, -, he⟩
    split at he
    · cases he
    · rename_i hne
      cases he
      exact ⟨i, d, hd, f, rfl, rfl, hne⟩
  · rintro ⟨i, d, hd, f, rfl, rfl, hne⟩
    exact ⟨d, i, hd, f, Field.mem_all f, if_neg hne⟩

/-- What an encoded list, in any order and with any noise, writes to a field. -/
theorem mem_writes_encode {ds : List Device} {noise : Dictionary} {v : String}
    (hlen : ds.length ≤ UInt32.size) (hnoise : ∀ e ∈ noise, isNoise e.1 = true)
    (hp : raw.Perm (encode ds ++ noise)) :
    ((i, f.name), v) ∈ writes raw ↔ ∃ d, ds[i]? = some d ∧ v = d.get f ∧ v ≠ "" := by
  have hlt : ∀ {j d}, ds[j]? = some d → j < UInt32.size := fun h =>
    Nat.lt_of_lt_of_le (List.getElem?_eq_some_iff.mp h).1 hlen
  rw [mem_writes]
  constructor
  · rintro ⟨key, he, hs⟩
    obtain he | he := List.mem_append.mp (hp.mem_iff.mp he)
    · obtain ⟨j, d, hd, g, rfl, rfl, hne⟩ := mem_encode.mp he
      rw [slotOf_keyText (hlt hd)] at hs
      cases Field.name_injective (Prod.mk.inj (Option.some.inj hs)).2
      cases (Prod.mk.inj (Option.some.inj hs)).1
      exact ⟨d, hd, rfl, hne⟩
    · have hn := hnoise _ he
      rw [not_isNoise_of_slotOf hs] at hn
      cases hn
  · rintro ⟨d, hd, rfl, hne⟩
    refine ⟨keyText f.name i, hp.mem_iff.mpr (List.mem_append_left _ ?_), slotOf_keyText (hlt hd)⟩
    exact mem_encode.mpr ⟨i, d, hd, f, rfl, rfl, hne⟩

/-- The writes of an encoded list leave its devices. -/
theorem deviceAt_encode {ds : List Device} {noise : Dictionary} (hlen : ds.length ≤ UInt32.size)
    (hnoise : ∀ e ∈ noise, isNoise e.1 = true) (hp : raw.Perm (encode ds ++ noise)) (i : Nat) :
    deviceAt (writes raw) i = (ds[i]?).getD .empty := by
  refine Device.ext_get fun f => ?_
  rw [get_deviceAt]
  have hw : ∀ v, ((i, f.name), v) ∈ writes raw ↔ ∃ d, ds[i]? = some d ∧ v = d.get f ∧ v ≠ "" :=
    fun v => mem_writes_encode hlen hnoise hp
  cases hi : ds[i]? with
  | none =>
    rw [lastWrite_eq_none fun v hv => ?_]
    · exact (Device.get_empty f).symm
    · obtain ⟨d, hd, -⟩ := (hw v).mp hv
      rw [hi] at hd
      cases hd
  | some d =>
    by_cases hne : d.get f = ""
    · rw [lastWrite_eq_none fun v hv => ?_]
      · exact hne.symm
      · obtain ⟨d', hd', rfl, hv'⟩ := (hw v).mp hv
        rw [hi] at hd'
        cases hd'
        exact hv' hne
    · rw [lastWrite_of_settled (fun v v' hv hv' => ?_) ((hw _).mpr ⟨d, hi, rfl, hne⟩)]
      · rfl
      · obtain ⟨d₁, hd₁, rfl, -⟩ := (hw v).mp hv
        obtain ⟨d₂, hd₂, rfl, -⟩ := (hw v').mp hv'
        rw [hd₁] at hd₂
        cases hd₂
        rfl

theorem decodeDevices_encode {ds : List Device} {noise : Dictionary}
    (hlen : ds.length ≤ UInt32.size) (huri : ∀ d ∈ ds, d.uri ≠ "")
    (hnoise : ∀ e ∈ noise, isNoise e.1 = true) (hp : raw.Perm (encode ds ++ noise)) :
    decodeDevices raw = ds := by
  obtain ⟨is, hs, hmem, hd⟩ := decodeDevices_spec raw
  have hdev := deviceAt_encode hlen hnoise hp
  have his : is = List.range ds.length := by
    refine hs.sortedLT.eq_of_mem_iff List.pairwise_lt_range.sortedLT fun i => ?_
    rw [hmem, hdev, List.mem_range]
    cases hi : ds[i]? with
    | none =>
      have := List.getElem?_eq_none_iff.mp hi
      exact iff_of_false (fun h => h rfl) (by omega)
    | some d =>
      obtain ⟨hlt, hd'⟩ := List.getElem?_eq_some_iff.mp hi
      exact iff_of_true (huri d (hd' ▸ List.getElem_mem hlt)) hlt
  rw [hd, his]
  refine List.ext_getElem (by simp) fun i h₁ h₂ => ?_
  rw [List.getElem_map, List.getElem_range, hdev, List.getElem?_eq_getElem h₂]
  rfl

end Canonical

/-- **`decode_devices` inverts the mechanism's encoding.** A dictionary whose indices are spelled in
decimal decodes, in increasing order of the indices, to one device for each index with a URI, each
field the value of its key; keys that address no field change nothing, in any dictionary; and the
dictionary of a list of devices with URIs, in any order and with any such keys added, decodes to
that list. -/
theorem decodeDevices_inverts :
    (∀ raw : Dictionary, (raw.map Prod.fst).Nodup → Canonical raw →
      ∃ is : List Nat, is.Pairwise (· < ·) ∧
        (∀ i, i ∈ is ↔ i < UInt32.size ∧ valueAt raw .uri i ≠ "") ∧
        decodeDevices raw = is.map fun i => .ofFields fun f => valueAt raw f i) ∧
      (∀ raw : Dictionary,
        decodeDevices (raw.filter fun e => !isNoise e.1) = decodeDevices raw) ∧
      ∀ (ds : List Device) (noise raw : Dictionary), ds.length ≤ UInt32.size →
        (∀ d ∈ ds, d.uri ≠ "") → (∀ e ∈ noise, isNoise e.1 = true) →
          raw.Perm (encode ds ++ noise) → decodeDevices raw = ds :=
  ⟨fun _ hn hc => decodeDevices_canonical hn hc, decodeDevices_filter_noise,
    fun _ _ _ hlen huri hnoise hp => decodeDevices_encode hlen huri hnoise hp⟩

/-- Two devices, and a key without an index. -/
theorem decodeDevices_inverts_twoDevices :
    decodeDevices (("version", "1") ::
      encode [{ Device.empty with uri := "ipp://a", info := "Laser" },
        { Device.empty with uri := "ipp://b" }]) =
      [{ Device.empty with uri := "ipp://a", info := "Laser" },
        { Device.empty with uri := "ipp://b" }] :=
  decodeDevices_inverts.2.2 _ [("version", "1")] _ (by decide) (by decide) (by decide)
    (List.perm_append_singleton _ _).symm

example : decodeDevices [("device-info:1", "Laser"), ("device:uri:0", "ghost"),
    ("device-uri:1", "ipp://b"), ("device-uri:4294967296", "far"), ("device-uri:0", "ipp://a")] =
      [{ Device.empty with uri := "ipp://a" },
        { Device.empty with uri := "ipp://b", info := "Laser" }] := by decide

end Cups
