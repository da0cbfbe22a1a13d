import IppClient.Base.Act

/-!
# A peer with a state

How a world answers a call may depend on all exchanges before it. A peer is a machine that takes a
step at every call, so what it holds is a function of the exchanges (`after`).

* `after_append`, `after_ignored`: what it holds after more of them.
* `runs_follow`: **what every run moves as a specification says** is moved so by all runs, one after
  another.

A peer whose steps are not fixed by the calls is a relation between its states; `Moves` says where
it can come to.

* `Moves.append_iff`, `Moves.nil_iff`, `Moves.singleton_iff`: how it moves over more of them.
-/

namespace Base

/-- A machine that is stepped by calls of type `τ` and answers them with `ρ`. -/
structure Peer (σ τ ρ : Type) where
  step : σ → τ → σ × ρ

namespace Peer

variable {σ τ ρ β ℓ : Type} (S : Peer σ τ ρ)

/-- What the peer holds after the exchanges, from `s`. -/
def after (s : σ) (past : List (Exchange τ ρ)) : σ :=
  past.foldl (fun s e => (S.step s e.call).1) s

/-- How it answers a call after them. -/
def answer (s : σ) (past : List (Exchange τ ρ)) (t : τ) : ρ := (S.step (S.after s past) t).2

@[simp] theorem after_nil (s : σ) : S.after s [] = s := rfl

@[simp] theorem after_singleton (s : σ) (e : Exchange τ ρ) :
    S.after s [e] = (S.step s e.call).1 := rfl

theorem after_append (s : σ) (past t : List (Exchange τ ρ)) :
    S.after s (past ++ t) = S.after (S.after s past) t := List.foldl_append

/-- Exchanges whose calls leave the peer as it is. -/
theorem after_ignored {t : List (Exchange τ ρ)}
    (h : ∀ e ∈ t, ∀ s, (S.step s e.call).1 = s) (s : σ) : S.after s t = s := by
  induction t with
  | nil => rfl
  | cons e t ih =>
    have hrest := ih fun e' he' => h e' (List.mem_cons_of_mem e he')
    have hcons : S.after s (e :: t) = S.after (S.step s e.call).1 t := rfl
    rw [hcons, h e List.mem_cons_self s, hrest]

/-- The exchanges of runs one after another. -/
def runs (run : ℓ → List (Exchange τ ρ) → List (Exchange τ ρ)) :
    List (Exchange τ ρ) → List ℓ → List (Exchange τ ρ)
  | _, [] => []
  | past, l :: ls => run l past ++ runs run (past ++ run l past) ls

/-- The peer stays related to a specification that takes a step at every run. -/
theorem runs_follow {run : ℓ → List (Exchange τ ρ) → List (Exchange τ ρ)} {s : σ}
    {R : β → σ → Prop} {f : β → ℓ → β}
    (h : ∀ l past b, R b (S.after s past) → R (f b l) (S.after s (past ++ run l past)))
    (past : List (Exchange τ ρ)) (ls : List ℓ) {b : β} (hb : R b (S.after s past)) :
    R (ls.foldl f b) (S.after s (past ++ runs run past ls)) := by
  induction ls generalizing past b with
  | nil => rwa [runs, List.append_nil]
  | cons l ls ih =>
    rw [runs, ← List.append_assoc]
    exact ih (past ++ run l past) (h l past b hb)

end Peer

section Moves

variable {σ ε : Type} {step : σ → ε → σ → Prop} {s s' : σ} {e : ε} {es es' : List ε}

/-- The machine can come from the one state to the other over the events, by a step each. -/
inductive Moves (step : σ → ε → σ → Prop) : σ → List ε → σ → Prop
  | nil (s : σ) : Moves step s [] s
  | cons {s s₁ s₂ : σ} {e : ε} {es : List ε} (h : step s e s₁) (hs : Moves step s₁ es s₂) :
    Moves step s (e :: es) s₂

namespace Moves

theorem nil_iff : Moves step s [] s' ↔ s' = s := by
  constructor
  · intro h
    cases h
    rfl
  · rintro rfl
    exact .nil _

theorem cons_iff : Moves step s (e :: es) s' ↔ ∃ s₁, step s e s₁ ∧ Moves step s₁ es s' := by
  constructor
  · intro h
    cases h with
    | cons h hs => exact ⟨_, h, hs⟩
  · rintro ⟨s₁, h, hs⟩
    exact .cons h hs

theorem singleton_iff : Moves step s [e] s' ↔ step s e s' := by
  simp only [cons_iff, nil_iff, exists_eq_right']

end Moves

end Moves

end Base
