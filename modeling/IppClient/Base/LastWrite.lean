import Mathlib.Tactic.Common
import Mathlib.Data.List.Induction
import Mathlib.Data.List.Perm.Basic

/-!
# The last write wins

A list of writes, each a key and a value, leaves at every key the value of the last write to it.
Which one that is depends on the order of the list, unless all writes to the key have one value
(`Settled`).

* `lastWrite_of_settled`: then it is that value.
* `lastWrite_perm`: then it is the same in every order of the list.
* `lastWrite_filter`: what does not write to the key may be left out.
* `exists_perm_lastWrite`: otherwise every value written to a key is the last in some order, and
  that order need not change what is last at the other keys.
-/

namespace Base.LastWrite

variable {κ α ε : Type}

/-- All writes to the key have one value. -/
def Settled (k : κ) (ws : List (κ × α)) : Prop := ∀ v v', (k, v) ∈ ws → (k, v') ∈ ws → v = v'

variable [DecidableEq κ]

/-- The value of the last write to the key. -/
def lastWrite (k : κ) (ws : List (κ × α)) : Option α :=
  ws.foldl (fun found w => if w.1 = k then some w.2 else found) none

variable {k : κ} {v : α} {ws ws' : List (κ × α)}

@[simp] theorem lastWrite_nil : lastWrite k ([] : List (κ × α)) = none := rfl

@[simp] theorem lastWrite_concat (ws : List (κ × α)) (w : κ × α) :
    lastWrite k (ws ++ [w]) = if w.1 = k then some w.2 else lastWrite k ws := by
  rw [lastWrite, List.foldl_append]
  rfl

theorem lastWrite_append : lastWrite k (ws ++ ws') = (lastWrite k ws').or (lastWrite k ws) := by
  induction ws' using List.reverseRecOn with
  | nil => simp
  | append_singleton ws' w ih =>
    rw [← List.append_assoc, lastWrite_concat, lastWrite_concat, ih]
    split <;> simp

theorem mem_of_lastWrite (h : lastWrite k ws = some v) : (k, v) ∈ ws := by
  induction ws using List.reverseRecOn with
  | nil => cases h
  | append_singleton ws w ih =>
    rw [lastWrite_concat] at h
    split at h
    · rename_i hk
      cases h
      rw [← hk]
      exact List.mem_append_right _ (List.mem_singleton.mpr rfl)
    · exact List.mem_append_left _ (ih h)

/-- A key that is written to holds something. -/
theorem exists_lastWrite (h : (k, v) ∈ ws) : ∃ v', lastWrite k ws = some v' := by
  induction ws using List.reverseRecOn with
  | nil => cases h
  | append_singleton ws w ih =>
    rw [lastWrite_concat]
    split
    · exact ⟨_, rfl⟩
    · rename_i hk
      refine ih ((List.mem_append.mp h).resolve_right fun hw => hk ?_)
      rw [← List.mem_singleton.mp hw]

theorem lastWrite_eq_none (h : ∀ v, (k, v) ∉ ws) : lastWrite k ws = none := by
  cases hl : lastWrite k ws with
  | none => rfl
  | some v => exact absurd (mem_of_lastWrite hl) (h v)

/-- A key to which all writes have one value holds it. -/
theorem lastWrite_of_settled (hs : Settled k ws) (h : (k, v) ∈ ws) : lastWrite k ws = some v := by
  obtain ⟨v', hv'⟩ := exists_lastWrite h
  rw [hv', hs v' v (mem_of_lastWrite hv') h]

/-- The order does not matter at a key to which all writes have one value. -/
theorem lastWrite_perm (hs : Settled k ws) (hp : ws'.Perm ws) :
    lastWrite k ws' = lastWrite k ws := by
  have hs' : Settled k ws' := fun v v' h h' => hs v v' (hp.mem_iff.mp h) (hp.mem_iff.mp h')
  cases hl : lastWrite k ws with
  | none =>
    refine lastWrite_eq_none fun v hv => ?_
    obtain ⟨v', hv'⟩ := exists_lastWrite (hp.mem_iff.mp hv)
    rw [hl] at hv'
    cases hv'
  | some v => exact lastWrite_of_settled hs' (hp.mem_iff.mpr (mem_of_lastWrite hl))

/-- Entries that do not write to a key may be left out. -/
theorem lastWrite_filter {write : ε → Option (κ × α)} {p : ε → Bool} {l : List ε}
    (h : ∀ e ∈ l, ∀ v, write e = some (k, v) → p e = true) :
    lastWrite k ((l.filter p).filterMap write) = lastWrite k (l.filterMap write) := by
  induction l using List.reverseRecOn with
  | nil => rfl
  | append_singleton l e ih =>
    have ih' := ih fun e' he' => h e' (List.mem_append_left _ he')
    rw [List.filter_append, List.filterMap_append, List.filterMap_append, lastWrite_append,
      lastWrite_append, ih']
    by_cases hp : p e = true
    · rw [List.filter_cons_of_pos hp, List.filter_nil]
    · rw [List.filter_cons_of_neg hp, List.filter_nil]
      have hnone : lastWrite k ([e].filterMap write) = none := by
        refine lastWrite_eq_none fun v hv => hp ?_
        obtain ⟨e', he', hw⟩ := List.mem_filterMap.mp hv
        rw [List.mem_singleton] at he'
        rw [he'] at hw
        exact h e (List.mem_append_right _ (List.mem_singleton.mpr rfl)) v hw
      rw [hnone]
      rfl

/-- **Any value can be the last.** Of entries that stand for writes, or for none, one that writes
`v` to `k` can be moved to the end; nothing changes at the other keys. -/
theorem exists_perm_lastWrite {write : ε → Option (κ × α)} {l : List ε} {e : ε} (he : e ∈ l)
    (hw : write e = some (k, v)) :
    ∃ l' : List ε, l'.Perm l ∧ lastWrite k (l'.filterMap write) = some v ∧
      ∀ k', k' ≠ k → lastWrite k' (l'.filterMap write) = lastWrite k' (l.filterMap write) := by
  obtain ⟨before, after, rfl⟩ := List.append_of_mem he
  have hend : ((before ++ after) ++ [e]).filterMap write =
      (before ++ after).filterMap write ++ [(k, v)] := by
    rw [List.filterMap_append (l := before ++ after)]
    simp [hw]
  refine ⟨(before ++ after) ++ [e], ?_, ?_, fun k' hk' => ?_⟩
  · rw [List.append_assoc]
    exact List.perm_append_comm.append_left before
  · rw [hend, lastWrite_concat, if_pos rfl]
  · rw [hend, lastWrite_concat, if_neg (Ne.symm hk'), List.filterMap_append,
      List.filterMap_append, List.filterMap_cons_some hw, lastWrite_append, lastWrite_append,
      ← List.singleton_append, lastWrite_append]
    have hone : lastWrite k' [(k, v)] = none := if_neg (Ne.symm hk')
    rw [hone, Option.or_none]

end Base.LastWrite
