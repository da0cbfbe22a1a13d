import Mathlib.Tactic.Common

/-!
# Computations in `Except`

Inversions of `.ok`: what a bind, an error map or a traversal did if it succeeded. `Fails P x` is
about the other side: every failure of `x` satisfies `P`; it composes along the same operations.
-/

namespace Base

variable {ε ε' α β : Type}

theorem bind_eq_ok {x : Except ε α} {f : α → Except ε β} {b : β} :
    (x >>= f) = .ok b ↔ ∃ a, x = .ok a ∧ f a = .ok b := by
  cases x with
  | error e => simp [bind, Except.bind]
  | ok a => simp [bind, Except.bind]

theorem mapError_eq_ok {x : Except ε α} {f : ε → ε'} {a : α} :
    x.mapError f = .ok a ↔ x = .ok a := by
  cases x <;> simp [Except.mapError]

/-- A traversal with a function that, where it succeeds, computes `g`. -/
theorem mapM_eq_ok {f : α → Except ε β} {g : α → β} (hf : ∀ a b, f a = .ok b → b = g a)
    {l : List α} {bs : List β} (h : l.mapM f = .ok bs) : bs = l.map g := by
  induction l generalizing bs with
  | nil =>
    cases h
    rfl
  | cons a l ih =>
    rw [List.mapM_cons, bind_eq_ok] at h
    obtain ⟨b, hb, h⟩ := h
    obtain ⟨cs, hcs, h⟩ := bind_eq_ok.mp h
    cases h
    rw [List.map_cons, hf a b hb, ih hcs]

/-- A bind succeeds where both parts do. -/
theorem exists_bind_eq_ok {x : Except ε α} {f : α → Except ε β} :
    (∃ b, (x >>= f) = .ok b) ↔ ∃ a, x = .ok a ∧ ∃ b, f a = .ok b := by
  simp only [bind_eq_ok]
  constructor
  · rintro ⟨b, a, hx, hf⟩
    exact ⟨a, hx, b, hf⟩
  · rintro ⟨a, hx, b, hf⟩
    exact ⟨b, a, hx, hf⟩

/-- A traversal succeeds where the function does on every element. -/
theorem exists_mapM_eq_ok {f : α → Except ε β} {l : List α} :
    (∃ bs, l.mapM f = .ok bs) ↔ ∀ a ∈ l, ∃ b, f a = .ok b := by
  induction l with
  | nil => exact iff_of_true ⟨[], rfl⟩ (by simp)
  | cons a l ih =>
    rw [List.mapM_cons, exists_bind_eq_ok, List.forall_mem_cons, ← ih]
    constructor
    · rintro ⟨b, hb, h⟩
      obtain ⟨bs, hbs, -⟩ := exists_bind_eq_ok.mp h
      exact ⟨⟨b, hb⟩, bs, hbs⟩
    · rintro ⟨⟨b, hb⟩, bs, hbs⟩
      exact ⟨b, hb, exists_bind_eq_ok.mpr ⟨bs, hbs, _, rfl⟩⟩

/-! ## What every failure satisfies -/

/-- Every failure of `x` satisfies `P`. -/
def Fails (P : ε → Prop) (x : Except ε α) : Prop := ∀ e, x = .error e → P e

namespace Fails

variable {P : ε → Prop}

theorem ok (a : α) : Fails P (.ok a : Except ε α) := nofun

theorem error {e : ε} (h : P e) : Fails P (.error e : Except ε α) := by
  rintro _ ⟨⟩
  exact h

theorem bind {x : Except ε α} {f : α → Except ε β} (hx : Fails P x) (hf : ∀ a, Fails P (f a)) :
    Fails P (x >>= f) := by
  cases x with
  | error e => exact error (hx e rfl)
  | ok a => exact hf a

theorem mapError {x : Except ε' α} {f : ε' → ε} (h : ∀ e, P (f e)) : Fails P (x.mapError f) := by
  cases x with
  | error e => exact error (h e)
  | ok a => exact ok a

theorem mapM {f : α → Except ε β} (hf : ∀ a, Fails P (f a)) (l : List α) :
    Fails P (l.mapM f) := by
  induction l with
  | nil => exact ok []
  | cons a l ih =>
    rw [List.mapM_cons]
    exact (hf a).bind fun _ => ih.bind fun _ => ok _

theorem foldlM {f : β → α → Except ε β} (hf : ∀ b a, Fails P (f b a)) (b : β) (l : List α) :
    Fails P (l.foldlM f b) := by
  induction l generalizing b with
  | nil => exact ok b
  | cons a l ih =>
    rw [List.foldlM_cons]
    exact (hf b a).bind fun b' => ih b'

end Fails

end Base
