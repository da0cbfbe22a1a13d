import Mathlib.Tactic.Common
import Mathlib.Data.List.Sort

/-!
# Where the kept entries of a list stood

`l.filterMap f` drops the entries that `f` does not accept, and closes the gaps. `positions f l` are
the places in `l` of the entries it keeps, in order.

* `getElem?_filterMap`: the `k`-th entry kept is the one at the `k`-th of these positions.
* `mem_positions`, `positions_sorted`: which positions these are.
* `filter_mem_eq_take`: the elements that two increasing lists share, where they agree up to the
  length of the shorter.
* `leading_iff_column`: an optional field of a list of records can be read off a list by position
  exactly when the records that have it come first (`Leading`).
-/

namespace Base.Positions

variable {α β γ : Type}

/-- The positions of the entries that `f` accepts. -/
def positions (f : α → Option β) (l : List α) : List Nat :=
  (List.range l.length).filter fun i => (l[i]?.bind f).isSome

variable {f : α → Option β} {l : List α} {i k : Nat}

theorem mem_positions : i ∈ positions f l ↔ (l[i]?.bind f).isSome = true := by
  rw [positions, List.mem_filter, List.mem_range]
  refine ⟨fun h => h.2, fun h => ⟨?_, h⟩⟩
  by_contra hi
  rw [List.getElem?_eq_none (Nat.le_of_not_lt hi)] at h
  cases h

theorem positions_sorted : (positions f l).Pairwise (· < ·) :=
  List.pairwise_lt_range.filter _

/-- A list, read by position. -/
theorem filterMap_eq_range (f : α → Option β) (l : List α) :
    l.filterMap f = (List.range l.length).filterMap fun i => l[i]?.bind f := by
  induction l with
  | nil => rfl
  | cons a l ih =>
    have hrest : ((List.range l.length).map Nat.succ).filterMap (fun i => (a :: l)[i]?.bind f) =
        l.filterMap f := by
      rw [ih, List.filterMap_map]
      rfl
    rw [List.length_cons, List.range_succ_eq_map, List.filterMap_cons, List.filterMap_cons, hrest]
    rfl

theorem getElem?_filterMap_of_isSome {g : γ → Option β} {P : List γ}
    (h : ∀ a ∈ P, (g a).isSome = true) (k : Nat) : (P.filterMap g)[k]? = P[k]?.bind g := by
  induction P generalizing k with
  | nil => rfl
  | cons a P ih =>
    obtain ⟨b, hb⟩ := Option.isSome_iff_exists.mp (h a List.mem_cons_self)
    rw [List.filterMap_cons_some hb]
    cases k with
    | zero => simp [hb]
    | succ k => simpa using ih (fun a ha => h a (List.mem_cons_of_mem _ ha)) k

/-- Entries that `g` does not accept may be left out before. -/
theorem filterMap_filter_of_isSome {g : γ → Option β} {p : γ → Bool} {P : List γ}
    (h : ∀ a ∈ P, (g a).isSome = true → p a = true) : (P.filter p).filterMap g = P.filterMap g := by
  rw [List.filterMap_filter]
  refine List.filterMap_congr fun a ha => ?_
  cases hg : g a with
  | none => simp
  | some b => rw [if_pos (h a ha (by rw [hg]; rfl))]

/-- **The `k`-th entry kept** is the one at the `k`-th position kept. -/
theorem getElem?_filterMap (f : α → Option β) (l : List α) (k : Nat) :
    (l.filterMap f)[k]? = (positions f l)[k]?.bind fun i => l[i]?.bind f := by
  have hf : l.filterMap f = (positions f l).filterMap fun i => l[i]?.bind f := by
    rw [filterMap_eq_range, positions, filterMap_filter_of_isSome fun i _ hi => hi]
  rw [hf]
  exact getElem?_filterMap_of_isSome (fun i hi => mem_positions.mp hi) k

/-- Two increasing lists that agree up to the length of the shorter share just that part. -/
theorem filter_mem_eq_take {P Q : List Nat} (hP : P.Pairwise (· < ·))
    (h : ∀ k, k < P.length → k < Q.length → P[k]? = Q[k]?) :
    P.filter (· ∈ Q) = P.take Q.length := by
  have htake : P.take Q.length = Q.take P.length := by
    refine List.ext_getElem? fun k => ?_
    rw [List.getElem?_take, List.getElem?_take]
    by_cases hp : k < P.length <;> by_cases hq : k < Q.length
    · rw [if_pos hq, if_pos hp, h k hp hq]
    · simp [hq, hp]
    · simp [hq, hp]
    · simp [hq, hp]
  have hsplit : P.filter (· ∈ Q) =
      (P.take Q.length).filter (· ∈ Q) ++ (P.drop Q.length).filter (· ∈ Q) := by
    rw [← List.filter_append, List.take_append_drop]
  have hfirst : (P.take Q.length).filter (· ∈ Q) = P.take Q.length := by
    rw [List.filter_eq_self]
    intro a ha
    rw [htake] at ha
    simpa using List.mem_of_mem_take ha
  have hlast : (P.drop Q.length).filter (· ∈ Q) = [] := by
    rw [List.filter_eq_nil_iff]
    intro a ha
    -- There are entries past the length of `Q`, so `Q` is all in the part that agrees.
    have hlt : Q.length < P.length := by
      by_contra hge
      rw [List.drop_eq_nil_of_le (by omega)] at ha
      cases ha
    have hQ : Q = P.take Q.length := by rw [htake, List.take_of_length_le (by omega)]
    have hnd := hP.imp Nat.ne_of_lt
    rw [← List.take_append_drop Q.length P] at hnd
    simp only [decide_eq_true_eq]
    intro haQ
    rw [hQ] at haQ
    exact (List.pairwise_append.mp hnd).2.2 a haQ a ha rfl
  rw [hsplit, hfirst, hlast, List.append_nil]

/-! ## Optional fields, by position -/

/-- The entries that `f` accepts come first. -/
def Leading (f : α → Option β) (l : List α) : Prop := l.Pairwise fun a b => f a = none → f b = none

theorem leading_column {f : α → Option β} {l : List α} (h : Leading f l) {i : Nat} {a : α}
    (ha : l[i]? = some a) : (l.filterMap f)[i]? = f a := by
  induction l generalizing i with
  | nil => cases ha
  | cons b l ih =>
    obtain ⟨hb, hl⟩ := List.pairwise_cons.mp h
    cases hfb : f b with
    | some v =>
      rw [List.filterMap_cons_some hfb]
      cases i with
      | zero =>
        cases ha
        rw [hfb]
        rfl
      | succ i => exact ih hl ha
    | none =>
      -- Nothing after `b` is accepted, so the list of values is empty.
      have hrest : ∀ c ∈ b :: l, f c = none := by
        intro c hc
        rcases List.mem_cons.mp hc with rfl | hc
        · exact hfb
        · exact hb c hc hfb
      rw [List.filterMap_eq_nil_iff.mpr hrest, hrest a (List.mem_of_getElem? ha)]
      rfl

/-- Where a list has the values of a field by position, a value is missing only at the end. -/
theorem leading_iff_column {f : α → Option β} {l : List α} :
    Leading f l ↔ ∃ values : List β, ∀ (i : Nat) a, l[i]? = some a → f a = values[i]? := by
  constructor
  · exact fun h => ⟨l.filterMap f, fun i a ha => (leading_column h ha).symm⟩
  · rintro ⟨values, h⟩
    refine List.pairwise_iff_getElem.mpr fun i j hi hj hij hnone => ?_
    rw [h i _ (List.getElem?_eq_getElem hi), List.getElem?_eq_none_iff] at hnone
    rw [h j _ (List.getElem?_eq_getElem hj)]
    exact List.getElem?_eq_none (by omega)

end Base.Positions
