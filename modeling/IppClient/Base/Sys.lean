import Mathlib.Tactic.Common
import Mathlib.Data.List.Infix

/-!
# Labelled systems, runs and conditional invariants

A system is a partial step function: a label says which step is taken (by whom, and how the
environment answers), and `none` that it cannot be taken. A run is a list of labels.

* `exec`: the state a run ends in. `Throughout P s ls`: `P` holds of every state of the run `ls`
  from `s`, its first and last state included.
* `Meets G s ls`: every step of the run meets `G`, a condition on the state before the step and
  the label.
* `throughout_of_meets`: an invariant that every step meeting `G` keeps holds throughout a run
  whose steps all meet `G`.
* `throughout_iff_meets`: if moreover every step that misses `G` leaves `P`, then `P` holds
  throughout a run exactly when all its steps meet `G`.
* `tally G s ls`: how many steps of the run meet `G`. `exec_le_tally`: a quantity that only these
  steps raise, by one at most, is raised by no more than their number.
-/

namespace Base

/-- A system with states `σ` and step labels `ℓ`. -/
structure Sys (σ ℓ : Type) where
  step : σ → ℓ → Option σ

namespace Sys

variable {σ ℓ : Type} (S : Sys σ ℓ)

/-- The state after the steps `ls` from `s`, if they can all be taken. -/
def exec : σ → List ℓ → Option σ
  | s, [] => some s
  | s, l :: ls => (S.step s l).bind fun s' => exec s' ls

/-- Every step of the run meets `G`. -/
def Meets (G : σ → ℓ → Prop) : σ → List ℓ → Prop
  | _, [] => True
  | s, l :: ls => G s l ∧ ∀ s', S.step s l = some s' → Meets G s' ls

/-- Every state of the run satisfies `P`. -/
def Throughout (P : σ → Prop) (s : σ) (ls : List ℓ) : Prop :=
  ∀ pre, pre <+: ls → ∀ s', S.exec s pre = some s' → P s'

variable {S}

theorem exec_cons {s s' : σ} {l : ℓ} {ls : List ℓ} (h : S.step s l = some s') :
    S.exec s (l :: ls) = S.exec s' ls := by
  simp [exec, h]

theorem meets_cons {G : σ → ℓ → Prop} {s s' : σ} {l : ℓ} {ls : List ℓ} (hG : G s l)
    (h : S.step s l = some s') (hm : S.Meets G s' ls) : S.Meets G s (l :: ls) := by
  refine ⟨hG, fun u hu => ?_⟩
  rw [h] at hu
  cases hu
  exact hm

theorem Throughout.start {P : σ → Prop} {s : σ} {ls : List ℓ} (h : S.Throughout P s ls) : P s :=
  h [] List.nil_prefix s rfl

theorem throughout_cons {P : σ → Prop} {s : σ} {l : ℓ} {ls : List ℓ} :
    S.Throughout P s (l :: ls) ↔
      P s ∧ ∀ s', S.step s l = some s' → S.Throughout P s' ls := by
  constructor
  · refine fun h => ⟨h.start, fun s' hs pre hp u hu => ?_⟩
    exact h (l :: pre) (List.cons_prefix_cons.mpr ⟨rfl, hp⟩) u (by rw [exec_cons hs]; exact hu)
  · rintro ⟨hP, hl⟩ pre hp u hu
    cases pre with
    | nil =>
      cases hu
      exact hP
    | cons l' pre =>
      obtain ⟨rfl, hp'⟩ := List.cons_prefix_cons.mp hp
      cases hs : S.step s l' with
      | none => simp [exec, hs] at hu
      | some s' =>
        rw [exec_cons hs] at hu
        exact hl s' hs pre hp' u hu

variable {G : σ → ℓ → Prop} {I P : σ → Prop}

/-- The induction on a run: an invariant that steps meeting `G` keep. -/
theorem throughout_of_meets (hI : ∀ s l s', I s → G s l → S.step s l = some s' → I s')
    {s : σ} {ls : List ℓ} (h0 : I s) (hm : S.Meets G s ls) : S.Throughout I s ls := by
  induction ls generalizing s with
  | nil =>
    intro pre hp u hu
    obtain rfl := List.prefix_nil.mp hp
    cases hu
    exact h0
  | cons l ls ih =>
    rw [throughout_cons]
    exact ⟨h0, fun s' hs => ih (hI s l s' h0 hm.1 hs) (hm.2 s' hs)⟩

/-- A condition on the steps of a run alone. -/
theorem meets_of_mem {s : σ} {ls : List ℓ} (h : ∀ l ∈ ls, ∀ s, G s l) : S.Meets G s ls := by
  induction ls generalizing s with
  | nil => trivial
  | cons l ls ih =>
    exact ⟨h l List.mem_cons_self s, fun _ _ => ih fun l' hl' => h l' (List.mem_cons_of_mem l hl')⟩

theorem Throughout.imp {Q : σ → Prop} {s : σ} {ls : List ℓ} (hPQ : ∀ s, P s → Q s)
    (h : S.Throughout P s ls) : S.Throughout Q s ls :=
  fun pre hp u hu => hPQ u (h pre hp u hu)

/-- **An exact condition.** `P` holds throughout a run exactly when every step meets `G`, if
steps meeting `G` keep an invariant that implies `P`, and a step that misses `G` leaves `P`. -/
theorem throughout_iff_meets (hI : ∀ s l s', I s → G s l → S.step s l = some s' → I s')
    (hP : ∀ s, I s → P s)
    (hbad : ∀ s l, I s → ¬ G s l → ∃ s', S.step s l = some s' ∧ ¬ P s')
    {s : σ} {ls : List ℓ} (h0 : I s) : S.Throughout P s ls ↔ S.Meets G s ls := by
  refine ⟨fun h => ?_, fun hm => (throughout_of_meets hI h0 hm).imp hP⟩
  induction ls generalizing s with
  | nil => trivial
  | cons l ls ih =>
    have hl := (throughout_cons.mp h).2
    by_cases hG : G s l
    · exact ⟨hG, fun s' hs => ih (hI s l s' h0 hG hs) (hl s' hs)⟩
    · obtain ⟨s', hs, hn⟩ := hbad s l h0 hG
      exact absurd (hl s' hs).start hn

/-! ## Counting steps -/

section Tally

variable (S) (G) [∀ s l, Decidable (G s l)]

/-- How many steps of the run meet `G`. -/
def tally : σ → List ℓ → Nat
  | _, [] => 0
  | s, l :: ls =>
    (if G s l then 1 else 0) + match S.step s l with
      | some s' => tally s' ls
      | none => 0

variable {S} {G}

theorem tally_cons {s s' : σ} {l : ℓ} {ls : List ℓ} (h : S.step s l = some s') :
    S.tally G s (l :: ls) = (if G s l then 1 else 0) + S.tally G s' ls := by
  rw [tally, h]

/-- **The potential method.** What each step raises by at most one, and only if it meets `G`. -/
theorem exec_le_tally {f : σ → Nat} {s s' : σ} {ls : List ℓ}
    (hf : ∀ l ∈ ls, ∀ u u', S.step u l = some u' → f u' ≤ f u + if G u l then 1 else 0)
    (h : S.exec s ls = some s') : f s' ≤ f s + S.tally G s ls := by
  induction ls generalizing s with
  | nil =>
    cases h
    exact Nat.le_refl _
  | cons l ls ih =>
    obtain ⟨u, hu, hrest⟩ := Option.bind_eq_some_iff.mp h
    have hstep := hf l List.mem_cons_self s u hu
    have htail := ih (fun l' hl' => hf l' (List.mem_cons_of_mem l hl')) hrest
    rw [tally_cons hu]
    omega

end Tally

end Sys
end Base
