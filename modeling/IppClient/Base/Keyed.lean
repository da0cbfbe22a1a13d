import Mathlib.Tactic.Common
import Mathlib.Data.Set.Subsingleton
import Mathlib.Data.List.Nodup
import Mathlib.Data.List.Perm.Subperm

/-!
# Keyed lists, stores and change lists

A list of entries with a key each (`key : α → κ`) describes a store, the map from a key to its
entry. A change list turns one store into another: `Change.put a` inserts `a` or overwrites what
has its key, `Change.remove k` deletes. `diff key old new` is the change list that removes every
key `new` lacks and puts every entry of `new` that `old` does not hold as it is.

* `Holds key m l`: the store `m` holds exactly the entries of `l`.
* `holds_ofList`: inserting the entries of a list with distinct keys gives a store that holds it.
* `holds_diff`: **replay.** If `m` holds `old`, and `new` has distinct keys, then `m` after
  `diff key old new` holds `new`. The keys of `old` need not be distinct beyond what `Holds` says.
* `mem_map_gone`: the keys a diff removes are those of `old` that no entry of `new` has.
* `nodup_about_diff`, `not_mem_about_diff`: a diff is about each key once, and about none whose
  entry stays as it is.
* `eq_diff_of_sublist`: **minimality.** No proper sublist of a diff brings `old` to `new`.
* `diff_eq_nil_iff_perm`, `diff_self_eq_nil_iff`: when a diff is empty.
* `Changed key old new k`: the entries with the key `k` are not the same.
* `Noted key old new k`: one came up, or all of them are gone. `Noted.via`: what is noted on the way
  from `a` to `c` over `b` is noted up to `b` or from there. `Noted.mem_about_diff`: a diff mentions
  it. Neither needs distinct keys.
* `Changed.noted`: **a diff mentions every change** at a key that one entry of `old` has at most. Of
  two entries with one key, one can vanish and leave no trace in the diff.
-/

namespace Base.Keyed

variable {κ α : Type}

/-- A map from keys to entries. -/
abbrev Store (κ α : Type) := κ → Option α

/-- The store with no entry. -/
def empty : Store κ α := fun _ => none

/-- One change of a store. -/
inductive Change (κ α : Type) where
  | put (a : α)
  | remove (k : κ)
  deriving DecidableEq

/-- The key a change is about. -/
def Change.about (key : α → κ) : Change κ α → κ
  | .put a => key a
  | .remove k => k

section

variable [DecidableEq κ] (key : α → κ)

/-- The store with `a` at its key. -/
def put (m : Store κ α) (a : α) : Store κ α := fun k => if key a = k then some a else m k

/-- The store without the key `k`. -/
def remove (m : Store κ α) (k : κ) : Store κ α := fun k' => if k = k' then none else m k'

/-- The store after one change. -/
def apply (m : Store κ α) : Change κ α → Store κ α
  | .put a => put key m a
  | .remove k => remove m k

/-- The store that inserting the entries of `l` one after the other gives. -/
def ofList (l : List α) : Store κ α := l.foldl (put key) empty

/-- The store holds exactly the entries of `l`, each at its key. -/
def Holds (m : Store κ α) (l : List α) : Prop := ∀ k a, m k = some a ↔ a ∈ l ∧ key a = k

/-- The entries of `old` whose key `new` lacks. -/
def gone (old new : List α) : List α := old.filter fun a => !new.any fun b => key b = key a

/-- The entries of `new` that `old` does not hold as they are. -/
def fresh [DecidableEq α] (old new : List α) : List α :=
  new.filter fun b => old.find? (fun a => key a = key b) ≠ some b

/-- The changes from `old` to `new`, removals first. -/
def diff [DecidableEq α] (old new : List α) : List (Change κ α) :=
  (gone key old new).map (fun a => .remove (key a)) ++ (fresh key old new).map .put

end

section Lemmas

variable [DecidableEq κ] {key : α → κ} {m : Store κ α} {l old new : List α}

theorem foldl_put (hl : (l.map key).Nodup) (k : κ) (a : α) :
    l.foldl (put key) m k = some a ↔ (a ∈ l ∧ key a = k) ∨ (k ∉ l.map key ∧ m k = some a) := by
  induction l generalizing m with
  | nil => simp
  | cons b l ih =>
    rw [List.map_cons, List.nodup_cons] at hl
    rw [List.foldl_cons, ih hl.2]
    by_cases hb : key b = k
    · -- No later entry has the key of `b`.
      have hk : k ∉ l.map key := hb ▸ hl.1
      have ha : ∀ a ∈ l, key a ≠ k := fun a h e => hk (e ▸ List.mem_map_of_mem h)
      simp only [put, hb, if_true, Option.some.injEq, List.mem_cons, List.map_cons]
      constructor
      · rintro (⟨h, e⟩ | ⟨-, rfl⟩)
        · exact absurd e (ha _ h)
        · exact .inl ⟨.inl rfl, hb⟩
      · rintro (⟨rfl | h, e⟩ | ⟨h, -⟩)
        · exact .inr ⟨hk, rfl⟩
        · exact absurd e (ha _ h)
        · simp at h
    · have hne : ∀ h : a = b, key a ≠ k := fun h => h ▸ hb
      simp only [put, hb, if_false, List.mem_cons, List.map_cons, not_or]
      constructor
      · rintro (⟨h, e⟩ | ⟨h, e⟩)
        · exact .inl ⟨.inr h, e⟩
        · exact .inr ⟨⟨fun e' => hb e'.symm, h⟩, e⟩
      · rintro (⟨h | h, e⟩ | ⟨⟨-, h⟩, e⟩)
        · exact absurd e (hne h)
        · exact .inl ⟨h, e⟩
        · exact .inr ⟨h, e⟩

theorem foldl_apply_put (l : List α) :
    (l.map Change.put).foldl (apply key) m = l.foldl (put key) m := by
  rw [List.foldl_map]; rfl

theorem foldl_apply_remove (ks : List κ) (k : κ) :
    (ks.map Change.remove).foldl (apply key) m k = if k ∈ ks then none else m k := by
  induction ks generalizing m with
  | nil => simp
  | cons k' ks ih =>
    rw [List.map_cons, List.foldl_cons, ih]
    by_cases hk : k ∈ ks
    · simp [hk]
    · by_cases h : k' = k
      · simp [hk, h, apply, remove]
      · simp [hk, h, Ne.symm h, apply, remove]

/-- Inserting entries with distinct keys into the empty store. -/
theorem holds_ofList (hl : (l.map key).Nodup) : Holds key (ofList key l) l := by
  intro k a
  rw [ofList, foldl_put hl]
  simp [empty]

/-- A lookup by key in a held list finds the store's entry. -/
theorem Holds.find?_eq (h : Holds key m l) (k : κ) : l.find? (fun a => key a = k) = m k := by
  cases hf : l.find? (fun a => key a = k) with
  | some a =>
    have hk : key a = k := by simpa using List.find?_some hf
    exact ((h k a).mpr ⟨List.mem_of_find?_eq_some hf, hk⟩).symm
  | none =>
    cases hm : m k with
    | none => rfl
    | some a =>
      obtain ⟨ha, hk⟩ := (h k a).mp hm
      have := List.find?_eq_none.mp hf a ha
      simp [hk] at this

/-- The keys that are gone are those of `old` that no entry of `new` has. -/
theorem mem_map_gone {k : κ} :
    k ∈ (gone key old new).map key ↔ k ∈ old.map key ∧ k ∉ new.map key := by
  simp only [gone, List.mem_map, List.mem_filter, Bool.not_eq_eq_eq_not, Bool.not_true,
    List.any_eq_false, decide_eq_true_eq, not_exists, not_and]
  constructor
  · rintro ⟨a, ⟨ha, hn⟩, rfl⟩
    exact ⟨⟨a, ha, rfl⟩, hn⟩
  · rintro ⟨⟨a, ha, rfl⟩, hn⟩
    exact ⟨a, ⟨ha, hn⟩, rfl⟩

/-- A filter and a map in one pass. -/
theorem map_filter_eq_filterMap {β : Type} (p : α → Bool) (f : α → β) (l : List α) :
    (l.filter p).map f = l.filterMap fun a => if p a then some (f a) else none := by
  induction l with
  | nil => rfl
  | cons a l ih => by_cases h : p a <;> simp [h, ih]

variable [DecidableEq α]

theorem mem_fresh (hm : Holds key m old) {b : α} :
    b ∈ fresh key old new ↔ b ∈ new ∧ m (key b) ≠ some b := by
  simp only [fresh, List.mem_filter, decide_eq_true_eq, hm.find?_eq]

/-- The store after a diff, at one key. -/
theorem foldl_diff (hn : (new.map key).Nodup) (k : κ) (a : α) :
    (diff key old new).foldl (apply key) m k = some a ↔
      (a ∈ fresh key old new ∧ key a = k) ∨
        (k ∉ (fresh key old new).map key ∧ k ∉ (gone key old new).map key ∧ m k = some a) := by
  have hf : ((fresh key old new).map key).Nodup := (List.filter_sublist.map key).nodup hn
  have e : diff key old new = ((gone key old new).map key).map .remove ++
      (fresh key old new).map .put := by
    rw [diff, List.map_map]
    rfl
  rw [e, List.foldl_append, foldl_apply_put, foldl_put hf, foldl_apply_remove]
  by_cases h : k ∈ (gone key old new).map key <;> simp [h]

/-- **Replay of a diff.** -/
theorem holds_diff (hm : Holds key m old) (hn : (new.map key).Nodup) :
    Holds key ((diff key old new).foldl (apply key) m) new := by
  intro k a
  rw [foldl_diff hn, mem_fresh hm]
  constructor
  · rintro (⟨⟨ha, -⟩, rfl⟩ | ⟨hf, hg, hk⟩)
    · exact ⟨ha, rfl⟩
    · -- An untouched entry: `new` has its key, in an entry that `old` holds as it is.
      obtain ⟨ha, rfl⟩ := (hm k a).mp hk
      have hkn : key a ∈ new.map key := by
        by_contra hkn
        exact hg (mem_map_gone.mpr ⟨List.mem_map_of_mem ha, hkn⟩)
      obtain ⟨b, hb, e⟩ := List.mem_map.mp hkn
      have hbm : m (key b) = some b := by
        by_contra hne
        exact hf (e ▸ List.mem_map_of_mem ((mem_fresh hm).mpr ⟨hb, hne⟩))
      rw [e, hk] at hbm
      exact ⟨Option.some.inj hbm ▸ hb, rfl⟩
  · rintro ⟨ha, rfl⟩
    by_cases hk : m (key a) = some a
    · refine .inr ⟨?_, ?_, hk⟩
      · intro hf
        obtain ⟨b, hb, e⟩ := List.mem_map.mp hf
        obtain ⟨hbn, hbm⟩ := (mem_fresh hm).mp hb
        have : b = a := List.inj_on_of_nodup_map hn hbn ha e
        exact hbm (this ▸ hk)
      · exact fun hg => (mem_map_gone.mp hg).2 (List.mem_map_of_mem ha)
    · exact .inl ⟨⟨ha, hk⟩, rfl⟩

/-! ## What a diff is about -/

/-- Entries that each give at most one, and a name to it. -/
theorem flatMap_eq_map_filterMap {ε β γ : Type} {f : ε → List γ} {g : ε → Option β} {h : β → γ}
    {es : List ε} (hf : ∀ e ∈ es, f e = ((g e).map h).toList) :
    es.flatMap f = (es.filterMap g).map h := by
  induction es with
  | nil => rfl
  | cons e es ih =>
    rw [List.flatMap_cons, hf e List.mem_cons_self,
      ih fun e' he' => hf e' (List.mem_cons_of_mem _ he')]
    cases hg : g e with
    | none => rw [List.filterMap_cons_none hg]; rfl
    | some b => rw [List.filterMap_cons_some hg]; rfl

omit [DecidableEq α] in
/-- Changes that are not about a key leave it as it is. -/
theorem foldl_apply_of_not_mem {cs : List (Change κ α)} {k : κ}
    (h : k ∉ cs.map (Change.about key)) : cs.foldl (apply key) m k = m k := by
  induction cs generalizing m with
  | nil => rfl
  | cons c cs ih =>
    rw [List.map_cons, List.mem_cons, not_or] at h
    have hc : apply key m c k = m k := by
      cases c with
      | put a => exact if_neg fun e => h.1 e.symm
      | remove k' => exact if_neg fun e => h.1 e.symm
    rw [List.foldl_cons, ih h.2, hc]

/-- The keys a diff is about. -/
theorem map_about_diff :
    (diff key old new).map (Change.about key) =
      (gone key old new).map key ++ (fresh key old new).map key := by
  rw [diff, List.map_append, List.map_map, List.map_map]
  rfl

/-- A diff of lists with distinct keys is about each key at most once. -/
theorem nodup_about_diff (ho : (old.map key).Nodup) (hn : (new.map key).Nodup) :
    ((diff key old new).map (Change.about key)).Nodup := by
  rw [map_about_diff, List.nodup_append]
  refine ⟨(List.filter_sublist.map key).nodup ho, (List.filter_sublist.map key).nodup hn, ?_⟩
  rintro k hg _ hf rfl
  exact (mem_map_gone.mp hg).2 ((List.filter_sublist.map key).subset hf)

omit [DecidableEq α] in
/-- In a list with distinct keys, a lookup by the key of an entry finds it. -/
theorem find?_key (hl : (l.map key).Nodup) {a : α} (ha : a ∈ l) :
    l.find? (fun b => key b = key a) = some a := by
  rw [(holds_ofList hl).find?_eq]
  exact (holds_ofList hl _ _).mpr ⟨ha, rfl⟩

/-- A diff is not about an entry that stays as it is. -/
theorem not_mem_about_diff (ho : (old.map key).Nodup) (hn : (new.map key).Nodup) {a : α}
    (ha : a ∈ old) (ha' : a ∈ new) : key a ∉ (diff key old new).map (Change.about key) := by
  rw [map_about_diff, List.mem_append, not_or]
  constructor
  · exact fun hg => (mem_map_gone.mp hg).2 (List.mem_map_of_mem ha')
  · intro hf
    obtain ⟨b, hb, e⟩ := List.mem_map.mp hf
    obtain ⟨hbn, hne⟩ := List.mem_filter.mp hb
    have : b = a := List.inj_on_of_nodup_map hn hbn ha' e
    rw [this, decide_eq_true_eq] at hne
    exact hne (find?_key ho ha)

/-! ## Minimality -/

/-- A change of a diff cannot be left out: without a change about its key, the store does not
become one that holds `new`. -/
theorem not_holds_without (hm : Holds key m old) {c : Change κ α} (hc : c ∈ diff key old new)
    {cs : List (Change κ α)} (h : c.about key ∉ cs.map (Change.about key)) :
    ¬ Holds key (cs.foldl (apply key) m) new := by
  intro hh
  have hk : cs.foldl (apply key) m (c.about key) = m (c.about key) := foldl_apply_of_not_mem h
  rw [diff, List.mem_append, List.mem_map, List.mem_map] at hc
  obtain ⟨a, ha, rfl⟩ | ⟨b, hb, rfl⟩ := hc
  · -- The removed key still has its old entry.
    obtain ⟨ho, hn⟩ := mem_map_gone.mp (List.mem_map_of_mem (f := key) ha)
    have hma : m (key a) = some a := (hm _ _).mpr ⟨(List.mem_filter.mp ha).1, rfl⟩
    obtain ⟨han, -⟩ := (hh (key a) a).mp (hk.trans hma)
    exact hn (List.mem_map_of_mem han)
  · -- The key of the new entry still has what it had.
    obtain ⟨hbn, hne⟩ := (mem_fresh hm).mp hb
    exact hne (hk.symm.trans ((hh (key b) b).mpr ⟨hbn, rfl⟩))

/-- **Minimality of a diff.** A sublist of it that brings `old` to `new` is all of it. -/
theorem eq_diff_of_sublist (hm : Holds key m old) (ho : (old.map key).Nodup)
    (hn : (new.map key).Nodup) {cs : List (Change κ α)} (hs : cs.Sublist (diff key old new))
    (h : Holds key (cs.foldl (apply key) m) new) : cs = diff key old new := by
  have hnd := nodup_about_diff ho hn
  have hsub : diff key old new ⊆ cs := by
    intro c hc
    by_contra hcs
    refine not_holds_without hm hc (fun hk => ?_) h
    -- A change in `cs` about the key of `c` is one of the diff, so it is `c`.
    obtain ⟨c', hc', e⟩ := List.mem_map.mp hk
    exact hcs (List.inj_on_of_nodup_map hnd (hs.subset hc') hc e ▸ hc')
  exact hs.eq_of_length_le ((hnd.of_map _).subperm hsub).length_le

/-! ## Empty diffs -/

theorem diff_eq_nil_iff :
    diff key old new = [] ↔
      (∀ a ∈ old, key a ∈ new.map key) ∧
        ∀ b ∈ new, old.find? (fun a => key a = key b) = some b := by
  simp only [diff, List.append_eq_nil_iff, List.map_eq_nil_iff, gone, fresh,
    List.filter_eq_nil_iff, Bool.not_eq_eq_eq_not, Bool.not_true, List.any_eq_false,
    decide_eq_true_eq, not_forall, not_not, exists_prop, List.mem_map]

/-- Between lists with distinct keys, the diff is empty exactly when they have the same
entries. -/
theorem diff_eq_nil_iff_perm (ho : (old.map key).Nodup) (hn : (new.map key).Nodup) :
    diff key old new = [] ↔ old.Perm new := by
  rw [diff_eq_nil_iff, List.perm_ext_iff_of_nodup (ho.of_map _) (hn.of_map _)]
  constructor
  · rintro ⟨hg, hf⟩ a
    have hold : ∀ b ∈ new, b ∈ old := fun b hb => List.mem_of_find?_eq_some (hf b hb)
    refine ⟨fun ha => ?_, hold a⟩
    obtain ⟨b, hb, e⟩ := List.mem_map.mp (hg a ha)
    exact List.inj_on_of_nodup_map ho (hold b hb) ha e ▸ hb
  · intro h
    exact ⟨fun a ha => List.mem_map_of_mem ((h a).mp ha),
      fun b hb => find?_key ho ((h b).mpr hb)⟩

/-- A list differs from itself exactly when two different entries of it have the same key. -/
theorem diff_self_eq_nil_iff :
    diff key l l = [] ↔ ∀ a ∈ l, ∀ b ∈ l, key a = key b → a = b := by
  rw [diff_eq_nil_iff]
  constructor
  · rintro ⟨-, hf⟩ a ha b hb e
    have hfa := hf a ha
    rw [e, hf b hb] at hfa
    exact (Option.some.inj hfa).symm
  · intro h
    refine ⟨fun a ha => List.mem_map_of_mem ha, fun b hb => ?_⟩
    have hsome : (l.find? fun a => key a = key b).isSome := by
      rw [List.find?_isSome]
      exact ⟨b, hb, decide_eq_true rfl⟩
    obtain ⟨a, ha⟩ := Option.isSome_iff_exists.mp hsome
    have hk : key a = key b := by simpa using List.find?_some ha
    rw [ha, h a (List.mem_of_find?_eq_some ha) b hb hk]

/-! ## What changed -/

/-- The entries with the key. -/
def entriesAt (key : α → κ) (l : List α) (k : κ) : Set α := {a | a ∈ l ∧ key a = k}

/-- The entries with the key are not the same. -/
def Changed (key : α → κ) (old new : List α) (k : κ) : Prop :=
  entriesAt key old k ≠ entriesAt key new k

/-- `new` has an entry with the key that `old` has not, or it has none while `old` has one. -/
def Noted (key : α → κ) (old new : List α) (k : κ) : Prop :=
  (∃ a ∈ new, key a = k ∧ a ∉ old) ∨ (k ∈ old.map key ∧ k ∉ new.map key)

section

variable {k : κ}

omit [DecidableEq κ] [DecidableEq α] in
/-- A change is noted if `old` has one entry with the key at most: an entry that is not there any
more has given way to another one, or it was the last. -/
theorem Changed.noted (h : Changed key old new k) (ho : (entriesAt key old k).Subsingleton) :
    Noted key old new k := by
  by_cases hup : ∃ a ∈ new, key a = k ∧ a ∉ old
  · exact .inl hup
  · have hsub : entriesAt key new k ⊆ entriesAt key old k := by
      rintro a ⟨ha, hk⟩
      by_contra hold
      exact hup ⟨a, ha, hk, fun h' => hold ⟨h', hk⟩⟩
    have hlost : ∃ a ∈ entriesAt key old k, a ∉ entriesAt key new k := by
      by_contra hall
      push Not at hall
      exact h (Set.Subset.antisymm hall hsub)
    obtain ⟨a, ⟨ha, rfl⟩, hnew⟩ := hlost
    refine .inr ⟨List.mem_map_of_mem ha, fun hmem => ?_⟩
    obtain ⟨b, hb, hk⟩ := List.mem_map.mp hmem
    have hba : b = a := ho (hsub ⟨hb, hk⟩) ⟨ha, rfl⟩
    exact hnew ⟨hba ▸ hb, rfl⟩

namespace Noted

omit [DecidableEq κ] in
/-- What is noted over an intermediate list is noted on the first half or on the second. -/
theorem via [DecidableEq κ] {mid : List α} (h : Noted key old new k) :
    Noted key old mid k ∨ Noted key mid new k := by
  obtain ⟨a, ha, rfl, hold⟩ | ⟨hold, hnew⟩ := h
  · by_cases hmid : a ∈ mid
    · exact .inl (.inl ⟨a, hmid, rfl, hold⟩)
    · exact .inr (.inl ⟨a, ha, rfl, hmid⟩)
  · by_cases hmid : k ∈ mid.map key
    · exact .inr (.inr ⟨hmid, hnew⟩)
    · exact .inl (.inr ⟨hold, hmid⟩)

/-- **Nothing that is noted is left out.** A diff mentions its key. -/
theorem mem_about_diff (h : Noted key old new k) :
    k ∈ (diff key old new).map (Change.about key) := by
  rw [diff, List.map_append, List.mem_append]
  obtain ⟨a, ha, rfl, hold⟩ | hgone := h
  · refine .inr (List.mem_map.mpr ⟨.put a, List.mem_map_of_mem (List.mem_filter.mpr ⟨ha, ?_⟩), rfl⟩)
    exact decide_eq_true fun hf => hold (List.mem_of_find?_eq_some hf)
  · obtain ⟨a, ha, rfl⟩ := List.mem_map.mp (mem_map_gone.mpr hgone)
    exact .inl (List.mem_map.mpr ⟨.remove (key a), List.mem_map_of_mem ha, rfl⟩)

end Noted

end

end Lemmas

end Base.Keyed
