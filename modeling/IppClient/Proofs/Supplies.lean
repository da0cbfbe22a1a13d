import IppClient.Base.Positions
import IppClient.Proofs.Acceptance

/-!
# Supplies by position

A printer reports its supplies in five parallel attributes. `Attrs::texts` and `Attrs::ints` drop
the values of an unexpected type from each, and `Supply::decode_list` then joins what is left by
index. So a dropped value moves everything after it to another supply, unless the same positions
are dropped everywhere.

* `Supply.atPosition`, `suppliesByPosition`: the supplies, each from one position of the five
  attributes.
* `Shape`: where the usable values of the five attributes stand; `Shape.Aligned`: the `k`-th usable
  ones stand together, for every `k`.
* `decodeList_aligned`: with an aligned shape, the decoder reads by position.
* `supplies_aligned_iff`: **the decoder reads every printer of a shape by position exactly when the
  shape is aligned.**
-/

namespace Ipp

open Base Positions

/-! ## Attributes by position -/

namespace Attrs

variable (a : Attrs)

/-- The values of an attribute by position: a bare value stands at position 0. -/
def valuesOf (name : String) : List IppValue :=
  match a.value name with
  | some (.array items) => items
  | some v => [v]
  | none => []

/-- The text at a position. -/
def textAt (name : String) (i : Nat) : Option String := (a.valuesOf name)[i]?.bind asText

/-- The number at a position. -/
def intAt (name : String) (i : Nat) : Option Int32 := (a.valuesOf name)[i]?.bind asInt

theorem texts_eq (name : String) : a.texts name = (a.valuesOf name).filterMap asText := by
  unfold texts valuesOf
  cases a.value name with
  | none => rfl
  | some v => cases v <;> rfl

theorem ints_eq (name : String) : a.ints name = (a.valuesOf name).filterMap asInt := by
  unfold ints valuesOf
  cases a.value name with
  | none => rfl
  | some v => cases v <;> rfl

end Attrs

/-- A level is unknown if it is negative, and a percentage up to 100 otherwise. -/
def SupplyLevel.ofInt (v : Int32) : SupplyLevel :=
  if v.toInt < 0 then .unknown else .percent (.ofNat (min v.toInt.toNat 100))

/-- The supply at a position, if a name and a level stand there. -/
def Supply.atPosition (a : Attrs) (i : Nat) : Option Supply := do
  let name ← a.textAt "marker-names" i
  let level ← a.intAt "marker-levels" i
  return {
    name
    kind := a.textAt "marker-types" i
    colour := a.textAt "marker-colors" i
    level := .ofInt level
    lowThreshold := a.intAt "marker-low-levels" i }

/-- The supplies by increasing position, each from its own position. -/
def suppliesByPosition (a : Attrs) : List Supply :=
  (List.range (a.valuesOf "marker-names").length).filterMap (Supply.atPosition a)

/-- Where the usable values of the five attributes stand. -/
structure Shape where
  names : List Nat
  levels : List Nat
  types : List Nat
  colours : List Nat
  low : List Nat

namespace Shape

/-- The shape of a group. -/
def of (a : Attrs) : Shape where
  names := positions Attrs.asText (a.valuesOf "marker-names")
  levels := positions Attrs.asInt (a.valuesOf "marker-levels")
  types := positions Attrs.asText (a.valuesOf "marker-types")
  colours := positions Attrs.asText (a.valuesOf "marker-colors")
  low := positions Attrs.asInt (a.valuesOf "marker-low-levels")

/-- The `k`-th of the positions is `i`, if `i` is one of them, and there is none otherwise. -/
def Keeps (P : List Nat) (k i : Nat) : Prop := P[k]? = if i ∈ P then some i else none

/-- For every `k` below the number of supplies, the `k`-th usable values stand together. -/
structure Aligned (s : Shape) : Prop where
  /-- The `k`-th usable level stands where the `k`-th usable name stands. -/
  levels : ∀ k i, s.names[k]? = some i → k < s.levels.length → s.levels[k]? = some i
  /-- And so do the `k`-th type, colour and threshold, where there is one. -/
  others : ∀ k i, s.names[k]? = some i → k < s.levels.length →
    ∀ P ∈ [s.types, s.colours, s.low], Keeps P k i

end Shape

/-- The supplies of every printer whose usable values stand at the same positions as in this
group are those by position. -/
def ReadsByPosition (group : IppAttributeGroup) : Prop :=
  ∀ group' p, Shape.of ⟨group'⟩ = Shape.of ⟨group⟩ → Printer.decode group' = .ok p →
    p.supplies = suppliesByPosition ⟨group'⟩

/-! ## What the decoder reads -/

theorem narrow_le_hundred : ∀ n ≤ 100, (Int32.ofNat n).toInt8.toUInt8 = UInt8.ofNat n := by decide

theorem SupplyLevel.ofInt_eq (v : Int32) :
    (if v < 0 then SupplyLevel.unknown else .percent (min v 100).toInt8.toUInt8) = .ofInt v := by
  have h0 : (0 : Int32).toInt = 0 := rfl
  have h100 : (100 : Int32).toInt = 100 := rfl
  unfold SupplyLevel.ofInt
  by_cases hneg : v.toInt < 0
  · rw [if_pos (Int32.lt_iff_toInt_lt.mpr hneg), if_pos hneg]
  · have hv : ¬ v < 0 := fun h => hneg (Int32.lt_iff_toInt_lt.mp h)
    rw [if_neg hv, if_neg hneg]
    have hmin : min v 100 = Int32.ofNat (min v.toInt.toNat 100) := by
      show (if v ≤ 100 then v else 100) = _
      by_cases hle : v.toInt ≤ 100
      · rw [if_pos (Int32.le_iff_toInt_le.mpr hle)]
        have hn : ((min v.toInt.toNat 100 : Nat) : Int) = v.toInt := by omega
        rw [← Int32.ofInt_eq_ofNat, hn, Int32.ofInt_toInt]
      · rw [if_neg fun h => hle (Int32.le_iff_toInt_le.mp h)]
        have hn : min v.toInt.toNat 100 = 100 := by omega
        rw [hn]
        rfl
    rw [hmin, narrow_le_hundred _ (Nat.min_le_right _ _)]

/-- The supplies of a decoded printer, from the five attributes as they are flattened. -/
theorem Printer.decode_supplies {group : IppAttributeGroup} {p : Printer}
    (h : Printer.decode group = .ok p) :
    p.supplies = Supply.decodeList (Attrs.texts ⟨group⟩ "marker-names")
      (Attrs.ints ⟨group⟩ "marker-levels") (Attrs.texts ⟨group⟩ "marker-types")
      (Attrs.texts ⟨group⟩ "marker-colors") (Attrs.ints ⟨group⟩ "marker-low-levels") := by
  simp only [Printer.decode, bind_eq_ok] at h
  obtain ⟨_, -, _, -, _, -, h⟩ := h
  cases h
  rfl

theorem decodeList_getElem? (names : List String) (levels : List Int32)
    (types colours : List String) (low : List Int32) (k : Nat) :
    (Supply.decodeList names levels types colours low)[k]? = names[k]?.bind fun name =>
      levels[k]?.map fun level =>
        { name, kind := types[k]?, colour := colours[k]?, level := .ofInt level,
          lowThreshold := low[k]? } := by
  rw [Supply.decodeList, List.getElem?_mapIdx, List.zip, List.getElem?_zipWith]
  cases names[k]? with
  | none => rfl
  | some name =>
    cases levels[k]? with
    | none => rfl
    | some level => simp [SupplyLevel.ofInt_eq]

section

variable (a : Attrs)

/-- The supply that the decoder makes of the `k`-th usable values, wherever they stand. -/
theorem decodeList_texts_getElem? (k : Nat) :
    (Supply.decodeList (a.texts "marker-names") (a.ints "marker-levels")
      (a.texts "marker-types") (a.texts "marker-colors") (a.ints "marker-low-levels"))[k]? =
      ((Shape.of a).names[k]?.bind (a.textAt "marker-names")).bind fun name =>
        ((Shape.of a).levels[k]?.bind (a.intAt "marker-levels")).map fun level =>
          { name
            kind := (Shape.of a).types[k]?.bind (a.textAt "marker-types")
            colour := (Shape.of a).colours[k]?.bind (a.textAt "marker-colors")
            level := .ofInt level
            lowThreshold := (Shape.of a).low[k]?.bind (a.intAt "marker-low-levels") } := by
  rw [decodeList_getElem?]
  simp only [Attrs.texts_eq, Attrs.ints_eq, getElem?_filterMap]
  rfl

theorem atPosition_isSome (i : Nat) :
    (Supply.atPosition a i).isSome = true ↔
      i ∈ (Shape.of a).names ∧ i ∈ (Shape.of a).levels := by
  simp only [Shape.of, mem_positions]
  show _ ↔ (a.textAt "marker-names" i).isSome = true ∧ (a.intAt "marker-levels" i).isSome = true
  unfold Supply.atPosition
  cases a.textAt "marker-names" i with
  | none => simp
  | some name => cases a.intAt "marker-levels" i <;> simp

/-- The `k`-th supply by position. -/
theorem suppliesByPosition_getElem? (k : Nat) :
    (suppliesByPosition a)[k]? =
      ((Shape.of a).names.filter (· ∈ (Shape.of a).levels))[k]?.bind (Supply.atPosition a) := by
  have hf : suppliesByPosition a =
      ((Shape.of a).names.filter (· ∈ (Shape.of a).levels)).filterMap (Supply.atPosition a) := by
    -- Positions without a name or without a level have no supply.
    rw [filterMap_filter_of_isSome fun i _ hi => ?_]
    · refine (filterMap_filter_of_isSome fun i _ hi => ?_).symm
      exact mem_positions.mp ((atPosition_isSome a i).mp hi).1
    · simpa using ((atPosition_isSome a i).mp hi).2
  rw [hf]
  refine getElem?_filterMap_of_isSome (fun i hi => ?_) k
  obtain ⟨hn, hl⟩ := List.mem_filter.mp hi
  exact (atPosition_isSome a i).mpr ⟨hn, by simpa using hl⟩

/-! ## Aligned shapes -/

variable {a}

/-- What a reader finds at the `k`-th usable position, if that is the one at `i` or there is
neither. -/
theorem Shape.Keeps.bind_eq {α : Type} {f : IppValue → Option α} {values : List IppValue}
    {k i : Nat} (h : Shape.Keeps (positions f values) k i) :
    ((positions f values)[k]?.bind fun j => values[j]?.bind f) = values[i]?.bind f := by
  rw [h]
  by_cases hi : i ∈ positions f values
  · rw [if_pos hi, Option.bind_some]
  · rw [if_neg hi, Option.bind_none]
    rw [mem_positions, Bool.not_eq_true, Option.isSome_eq_false_iff,
      Option.isNone_iff_eq_none] at hi
    exact hi.symm

/-- **With an aligned shape, the decoder reads by position.** -/
theorem decodeList_aligned (h : (Shape.of a).Aligned) :
    Supply.decodeList (a.texts "marker-names") (a.ints "marker-levels") (a.texts "marker-types")
      (a.texts "marker-colors") (a.ints "marker-low-levels") = suppliesByPosition a := by
  have hboth : (Shape.of a).names.filter (· ∈ (Shape.of a).levels) =
      (Shape.of a).names.take (Shape.of a).levels.length := by
    refine filter_mem_eq_take positions_sorted fun k hk hk' => ?_
    rw [List.getElem?_eq_getElem hk]
    exact (h.levels k _ (List.getElem?_eq_getElem hk) hk').symm
  refine List.ext_getElem? fun k => ?_
  rw [decodeList_texts_getElem?, suppliesByPosition_getElem?, hboth, List.getElem?_take]
  cases hn : (Shape.of a).names[k]? with
  | none => simp
  | some i =>
    by_cases hk : k < (Shape.of a).levels.length
    · have hl := h.levels k i hn hk
      have hothers := h.others k i hn hk
      have ht : (Shape.of a).types[k]?.bind (a.textAt "marker-types") = a.textAt "marker-types" i :=
        Shape.Keeps.bind_eq (hothers (Shape.of a).types (by simp))
      have hc : (Shape.of a).colours[k]?.bind (a.textAt "marker-colors") =
          a.textAt "marker-colors" i :=
        Shape.Keeps.bind_eq (hothers (Shape.of a).colours (by simp))
      have hlow : (Shape.of a).low[k]?.bind (a.intAt "marker-low-levels") =
          a.intAt "marker-low-levels" i :=
        Shape.Keeps.bind_eq (hothers (Shape.of a).low (by simp))
      rw [hl, ht, hc, hlow, if_pos hk, Option.bind_some, Option.bind_some, Option.bind_some]
      unfold Supply.atPosition
      cases a.textAt "marker-names" i with
      | none => rfl
      | some name => cases a.intAt "marker-levels" i <;> rfl
    · simp [hk]

end

/-! ## Marked groups -/

section Marked

variable {α : Type}

/-- The values with the usable one at `q` marked, and the other usable ones all alike. -/
def fill (f : IppValue → Option α) (mark : Bool → IppValue) (q : Nat) (values : List IppValue) :
    List IppValue :=
  values.mapIdx fun i v => if (f v).isSome then mark (i = q) else v

/-- A marked or unmarked text. -/
def markText (marked : Bool) : IppValue := .keyword (if marked then "this" else "other")

/-- A marked or unmarked number. -/
def markInt (marked : Bool) : IppValue := .integer (if marked then 1 else 0)

/-- A printer with the usable values where the group has them, and those at `q` marked. -/
def markedGroup (a : Attrs) (q : Nat) : IppAttributeGroup :=
  ⟨.printerAttributes,
    [⟨"printer-name", .keyword "HP"⟩, ⟨"printer-state", .enum 3⟩,
      ⟨"marker-names", .array (fill Attrs.asText markText q (a.valuesOf "marker-names"))⟩,
      ⟨"marker-levels", .array (fill Attrs.asInt markInt q (a.valuesOf "marker-levels"))⟩,
      ⟨"marker-types", .array (fill Attrs.asText markText q (a.valuesOf "marker-types"))⟩,
      ⟨"marker-colors", .array (fill Attrs.asText markText q (a.valuesOf "marker-colors"))⟩,
      ⟨"marker-low-levels", .array (fill Attrs.asInt markInt q (a.valuesOf "marker-low-levels"))⟩]⟩

variable {f : IppValue → Option α} {mark : Bool → IppValue} {val : Bool → α} {q i k : Nat}
  {values : List IppValue}

/-- What a reader finds in marked values: the mark of the position, where it found something
before. -/
theorem fill_getElem? (hf : ∀ b, f (mark b) = some (val b)) (i : Nat) :
    (fill f mark q values)[i]?.bind f = (values[i]?.bind f).map fun _ => val (i = q) := by
  rw [fill, List.getElem?_mapIdx]
  cases values[i]? with
  | none => rfl
  | some v => cases h : f v <;> simp [h, hf]

theorem positions_fill (hf : ∀ b, f (mark b) = some (val b)) :
    positions f (fill f mark q values) = positions f values := by
  have hlen : (fill f mark q values).length = values.length := by simp [fill]
  simp only [positions, hlen, fill_getElem? hf, Option.isSome_map]

theorem asText_markText (b : Bool) :
    Attrs.asText (markText b) = some (if b then "this" else "other") := rfl

theorem asInt_markInt (b : Bool) : Attrs.asInt (markInt b) = some (if b then 1 else 0) := rfl

theorem shape_markedGroup (a : Attrs) (q : Nat) : Shape.of ⟨markedGroup a q⟩ = Shape.of a := by
  show Shape.mk (positions Attrs.asText (fill Attrs.asText markText q _))
    (positions Attrs.asInt (fill Attrs.asInt markInt q _))
    (positions Attrs.asText (fill Attrs.asText markText q _))
    (positions Attrs.asText (fill Attrs.asText markText q _))
    (positions Attrs.asInt (fill Attrs.asInt markInt q _)) = _
  simp only [positions_fill asText_markText, positions_fill asInt_markInt]
  rfl

/-- The name at a position of a marked group. -/
theorem name_markedGroup {a : Attrs} {q j : Nat} (hj : j ∈ (Shape.of a).names) :
    Attrs.textAt ⟨markedGroup a q⟩ "marker-names" j = some (if j = q then "this" else "other") := by
  obtain ⟨x, hx⟩ := Option.isSome_iff_exists.mp (mem_positions.mp hj)
  have hf : Attrs.textAt ⟨markedGroup a q⟩ "marker-names" j =
      (a.textAt "marker-names" j).map fun _ => if decide (j = q) then "this" else "other" :=
    fill_getElem? asText_markText j
  rw [hf, Attrs.textAt, hx]
  simp

/-- The level at a position of a marked group. -/
theorem level_markedGroup {a : Attrs} {q j : Nat} (hj : j ∈ (Shape.of a).levels) :
    Attrs.intAt ⟨markedGroup a q⟩ "marker-levels" j = some (if j = q then 1 else 0) := by
  obtain ⟨x, hx⟩ := Option.isSome_iff_exists.mp (mem_positions.mp hj)
  have hf : Attrs.intAt ⟨markedGroup a q⟩ "marker-levels" j =
      (a.intAt "marker-levels" j).map fun _ => if decide (j = q) then 1 else 0 :=
    fill_getElem? asInt_markInt j
  rw [hf, Attrs.intAt, hx]
  simp

/-- If the `k`-th usable value is marked exactly as the one at the marked position, it is that. -/
theorem keeps_of_marked (hf : ∀ b, f (mark b) = some (val b)) (hv : val true ≠ val false)
    (h : ((positions f values)[k]?.bind fun j => (fill f mark q values)[j]?.bind f) =
      (fill f mark q values)[q]?.bind f) : Shape.Keeps (positions f values) k q := by
  rw [fill_getElem? hf] at h
  unfold Shape.Keeps
  by_cases hq : q ∈ positions f values
  · obtain ⟨x, hx⟩ := Option.isSome_iff_exists.mp (mem_positions.mp hq)
    rw [hx] at h
    rw [if_pos hq]
    cases hk : (positions f values)[k]? with
    | none =>
      rw [hk] at h
      cases h
    | some j =>
      obtain ⟨y, hy⟩ := Option.isSome_iff_exists.mp (mem_positions.mp (List.mem_of_getElem? hk))
      rw [hk, Option.bind_some, fill_getElem? hf, hy] at h
      by_cases hjq : j = q
      · rw [hjq]
      · exact absurd (by simpa [hjq] using h.symm) hv
  · have hx : values[q]?.bind f = none := by
      simpa [mem_positions] using hq
    rw [hx] at h
    rw [if_neg hq]
    cases hk : (positions f values)[k]? with
    | none => rfl
    | some j =>
      obtain ⟨y, hy⟩ := Option.isSome_iff_exists.mp (mem_positions.mp (List.mem_of_getElem? hk))
      rw [hk, Option.bind_some, fill_getElem? hf, hy] at h
      cases h

theorem atPosition_eq_some {a : Attrs} {j : Nat} {s : Supply}
    (h : Supply.atPosition a j = some s) :
    ∃ name level, a.textAt "marker-names" j = some name ∧ a.intAt "marker-levels" j = some level ∧
      s = ⟨name, a.textAt "marker-types" j, a.textAt "marker-colors" j, .ofInt level,
        a.intAt "marker-low-levels" j⟩ := by
  unfold Supply.atPosition at h
  obtain ⟨name, hname, h⟩ := Option.bind_eq_some_iff.mp h
  obtain ⟨level, hlevel, h⟩ := Option.bind_eq_some_iff.mp h
  cases h
  exact ⟨name, level, hname, hlevel, rfl⟩

/-- **What reads by position has an aligned shape.** The marks at the position of the `k`-th name
must all be in the `k`-th supply. -/
theorem aligned_of_readsByPosition {group : IppAttributeGroup} (h : ReadsByPosition group) :
    (Shape.of ⟨group⟩).Aligned := by
  have hmarked : ∀ k i, (Shape.of ⟨group⟩).names[k]? = some i →
      k < (Shape.of ⟨group⟩).levels.length →
        (Shape.of ⟨group⟩).levels[k]? = some i ∧
          ∀ P ∈ [(Shape.of ⟨group⟩).types, (Shape.of ⟨group⟩).colours, (Shape.of ⟨group⟩).low],
            Shape.Keeps P k i := by
    intro k i hn hk
    obtain ⟨j, hj⟩ : ∃ j, (Shape.of ⟨group⟩).levels[k]? = some j :=
      ⟨_, List.getElem?_eq_getElem hk⟩
    have hshape := shape_markedGroup ⟨group⟩ i
    have hacc : Printer.acceptable (markedGroup ⟨group⟩ i) = true := rfl
    obtain ⟨p, hp⟩ := Printer.acceptable_iff.mp hacc
    have hs := congrArg (·[k]?) (h _ p hshape hp)
    simp only [Printer.decode_supplies hp, decodeList_texts_getElem?, suppliesByPosition_getElem?,
      hshape, hn, hj, Option.bind_some, name_markedGroup (List.mem_of_getElem? hn),
      level_markedGroup (List.mem_of_getElem? hj), Option.map_some, if_true] at hs
    -- The `k`-th supply by position stands at some `b`, which its name says is `i`.
    obtain ⟨b, hb, hat⟩ := Option.bind_eq_some_iff.mp hs.symm
    obtain ⟨hbn, hbl⟩ := List.mem_filter.mp (List.mem_of_getElem? hb)
    obtain ⟨name, level, hname, hlevel, he⟩ := atPosition_eq_some hat
    rw [name_markedGroup hbn] at hname
    rw [level_markedGroup (by simpa using hbl)] at hlevel
    injection he with h₁ ht hc h₂ hl
    have hbi : b = i := by
      by_contra hne
      rw [if_neg hne] at hname
      rw [← h₁] at hname
      exact absurd hname (by decide)
    subst hbi
    rw [if_pos rfl] at hlevel
    cases hlevel
    have hji : j = b := by
      by_contra hne
      rw [if_neg hne] at h₂
      exact absurd h₂ (by decide)
    refine ⟨by rw [hj, hji], ?_⟩
    simp only [List.mem_cons, List.not_mem_nil, or_false, forall_eq_or_imp, forall_eq]
    exact ⟨keeps_of_marked asText_markText (by decide) ht,
      keeps_of_marked asText_markText (by decide) hc,
      keeps_of_marked asInt_markInt (by decide) hl⟩
  exact ⟨fun k i hn hk => (hmarked k i hn hk).1, fun k i hn hk => (hmarked k i hn hk).2⟩

end Marked

/-- **When supplies stay aligned.** For every printer group: the supplies of the printers whose
usable values stand where this group's do are those by position, each from one position of the five
attributes, exactly when the `k`-th usable name, level, type, colour and threshold stand together
for every `k`. -/
theorem supplies_aligned_iff (group : IppAttributeGroup) :
    ReadsByPosition group ↔ (Shape.of ⟨group⟩).Aligned := by
  refine ⟨aligned_of_readsByPosition, fun h group' p hshape hp => ?_⟩
  rw [Printer.decode_supplies hp]
  exact decodeList_aligned (hshape ▸ h)

/-- A printer with two supplies, the first without a name. -/
def unnamedSupply : IppAttributeGroup :=
  ⟨.printerAttributes,
    [⟨"printer-name", .keyword "HP"⟩, ⟨"printer-state", .enum 3⟩,
      ⟨"marker-names", .array [.noValue, .keyword "Cyan"]⟩,
      ⟨"marker-levels", .array [.integer 80, .integer 5]⟩]⟩

/-- The second supply is shown with the level of the first. -/
theorem unnamedSupply_shifts :
    ¬ ∀ (group : IppAttributeGroup) (p : Printer), Printer.decode group = .ok p →
      p.supplies = suppliesByPosition ⟨group⟩ := by
  intro h
  obtain ⟨p, hp⟩ : ∃ p, Printer.decode unnamedSupply = .ok p := ⟨_, rfl⟩
  have hs := congrArg (List.map Supply.level) (h unnamedSupply p hp)
  cases hp
  revert hs
  decide

end Ipp
