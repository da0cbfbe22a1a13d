import Mathlib.Tactic.Common

/-!
# Actions that call an environment

An `Act` is a program that talks to an environment (a server, a bus, a disk) and may fail. It
reads a world `ω`, which says how the environment answers, and it changes two things: the calls
it makes, and a private cell `κ`. Nothing is assumed about the environment: `Act.call` asks an
arbitrary function of the world, of every exchange so far and of the new call, so a statement
for every world is a statement for every environment, a stateful one included.

A run (`Ran`) holds the result, the exchanges the run made (oldest first) and the cell after it.
A failure keeps the exchanges and the cell it reached, as an early return does.

* `Act.bind_ok`, `Act.bind_error` and the equations beside each operation run an action step by
  step; `Act.bind_eq_ok` takes a successful run apart.
* `Act.Emits P x`: every exchange of every run of `x` satisfies `P`. It composes along `bind`,
  so a fact about all the calls of a program is proved once per primitive.
-/

namespace Base

/-- One call to the environment, and the answer to it. -/
structure Exchange (τ ρ : Type) where
  call : τ
  reply : ρ

/-- What a run of an action did. -/
structure Ran (τ ρ κ ε α : Type) where
  result : Except ε α
  trace : List (Exchange τ ρ)
  cell : κ

/-- An action: from the world, the exchanges before it and the cell to its run. -/
def Act (ω τ ρ κ ε α : Type) : Type := ω → List (Exchange τ ρ) → κ → Ran τ ρ κ ε α

namespace Act

variable {ω τ ρ κ ε α β : Type}

/-- Runs `f` on the result of `x`, after the exchanges of `x`; a failure of `x` ends the run. -/
protected def bind (x : Act ω τ ρ κ ε α) (f : α → Act ω τ ρ κ ε β) : Act ω τ ρ κ ε β :=
  fun w past c =>
    match x w past c with
    | ⟨.ok a, t, c'⟩ =>
      let r := f a w (past ++ t) c'
      ⟨r.result, t ++ r.trace, r.cell⟩
    | ⟨.error e, t, c'⟩ => ⟨.error e, t, c'⟩

instance : Monad (Act ω τ ρ κ ε) where
  pure a := fun _ _ c => ⟨.ok a, [], c⟩
  bind := Act.bind

/-- Fails with `e`. -/
def fail (e : ε) : Act ω τ ρ κ ε α := fun _ _ c => ⟨.error e, [], c⟩

/-- The value of a computation that makes no call, or its failure. -/
def ofExcept (x : Except ε α) : Act ω τ ρ κ ε α := fun _ _ c => ⟨x, [], c⟩

/-- A value read from the world. -/
def read (f : ω → α) : Act ω τ ρ κ ε α := fun w _ c => ⟨.ok (f w), [], c⟩

/-- The cell. -/
def getCell : Act ω τ ρ κ ε κ := fun _ _ c => ⟨.ok c, [], c⟩

/-- Overwrites the cell. -/
def setCell (c : κ) : Act ω τ ρ κ ε Unit := fun _ _ _ => ⟨.ok (), [], c⟩

/-- Makes the call `t`; `answer` is how a world answers it after the exchanges so far. -/
def call (answer : ω → List (Exchange τ ρ) → τ → ρ) (t : τ) : Act ω τ ρ κ ε ρ :=
  fun w past c => ⟨.ok (answer w past t), [⟨t, answer w past t⟩], c⟩

/-- Runs `x` and forgets its value. -/
def void (x : Act ω τ ρ κ ε α) : Act ω τ ρ κ ε Unit := do
  let _ ← x

/-- Runs `x` and hands its failure over as a value. -/
def attempt (x : Act ω τ ρ κ ε α) : Act ω τ ρ κ ε (Except ε α) := fun w past c =>
  let r := x w past c
  ⟨.ok r.result, r.trace, r.cell⟩

/-! ## Running an action -/

section Run

variable (w : ω) (past : List (Exchange τ ρ)) (c : κ)

@[simp] theorem pure_apply (a : α) :
    (pure a : Act ω τ ρ κ ε α) w past c = ⟨.ok a, [], c⟩ := rfl

@[simp] theorem fail_apply (e : ε) :
    (fail e : Act ω τ ρ κ ε α) w past c = ⟨.error e, [], c⟩ := rfl

@[simp] theorem ofExcept_apply (x : Except ε α) :
    (ofExcept x : Act ω τ ρ κ ε α) w past c = ⟨x, [], c⟩ := rfl

@[simp] theorem read_apply (f : ω → α) :
    (read f : Act ω τ ρ κ ε α) w past c = ⟨.ok (f w), [], c⟩ := rfl

@[simp] theorem getCell_apply : (getCell : Act ω τ ρ κ ε κ) w past c = ⟨.ok c, [], c⟩ := rfl

@[simp] theorem setCell_apply (c' : κ) :
    (setCell c' : Act ω τ ρ κ ε Unit) w past c = ⟨.ok (), [], c'⟩ := rfl

@[simp] theorem call_apply (answer : ω → List (Exchange τ ρ) → τ → ρ) (t : τ) :
    (call answer t : Act ω τ ρ κ ε ρ) w past c =
      ⟨.ok (answer w past t), [⟨t, answer w past t⟩], c⟩ := rfl

@[simp] theorem attempt_apply (x : Act ω τ ρ κ ε α) :
    x.attempt w past c = ⟨.ok (x w past c).result, (x w past c).trace, (x w past c).cell⟩ := rfl

/-- A step that succeeds hands its value, its exchanges and its cell to the rest. -/
theorem bind_ok {x : Act ω τ ρ κ ε α} {f : α → Act ω τ ρ κ ε β} {a : α}
    {t : List (Exchange τ ρ)} {c' : κ} (h : x w past c = ⟨.ok a, t, c'⟩) :
    (x >>= f) w past c =
      ⟨(f a w (past ++ t) c').result, t ++ (f a w (past ++ t) c').trace,
        (f a w (past ++ t) c').cell⟩ := by
  show Act.bind x f w past c = _
  simp only [Act.bind, h]

/-- A step that fails ends the run. -/
theorem bind_error {x : Act ω τ ρ κ ε α} {f : α → Act ω τ ρ κ ε β} {e : ε}
    {t : List (Exchange τ ρ)} {c' : κ} (h : x w past c = ⟨.error e, t, c'⟩) :
    (x >>= f) w past c = ⟨.error e, t, c'⟩ := by
  show Act.bind x f w past c = _
  simp only [Act.bind, h]

/-- A run that succeeds is a successful first step and a successful rest. -/
theorem bind_eq_ok {x : Act ω τ ρ κ ε α} {f : α → Act ω τ ρ κ ε β} {b : β}
    {t : List (Exchange τ ρ)} {c' : κ} (h : (x >>= f) w past c = ⟨.ok b, t, c'⟩) :
    ∃ a t₁ c₁ t₂, x w past c = ⟨.ok a, t₁, c₁⟩ ∧ f a w (past ++ t₁) c₁ = ⟨.ok b, t₂, c'⟩ ∧
      t = t₁ ++ t₂ := by
  rcases hx : x w past c with ⟨e | a, t₁, c₁⟩
  · rw [bind_error w past c hx] at h
    cases h
  · rw [bind_ok w past c hx] at h
    rcases hf : f a w (past ++ t₁) c₁ with ⟨r, t₂, c₂⟩
    rw [hf] at h
    cases h
    exact ⟨a, t₁, c₁, t₂, rfl, hf, rfl⟩

/-- Two runs that begin with the same step agree exactly when what follows it does. -/
theorem bind_agree_iff {x : Act ω τ ρ κ ε α} {f g : α → Act ω τ ρ κ ε β} :
    (x >>= f) w past c = (x >>= g) w past c ↔
      ∀ a, (x w past c).result = .ok a →
        f a w (past ++ (x w past c).trace) (x w past c).cell =
          g a w (past ++ (x w past c).trace) (x w past c).cell := by
  rcases hx : x w past c with ⟨e | a, t, c'⟩
  · rw [bind_error w past c hx, bind_error w past c hx]
    exact iff_of_true rfl nofun
  · rw [bind_ok w past c hx, bind_ok w past c hx]
    constructor
    · intro h b hb
      cases hb
      have ht := List.append_cancel_left (congrArg Ran.trace h)
      have hr := congrArg Ran.result h
      have hc := congrArg Ran.cell h
      rcases hf : f a w (past ++ t) c' with ⟨rf, tf, cf⟩
      rcases hg : g a w (past ++ t) c' with ⟨rg, tg, cg⟩
      rw [hf, hg] at ht hr hc
      cases ht
      cases hr
      cases hc
      rfl
    · intro h
      rw [h a rfl]

/-- A last step that only makes a value. -/
theorem bind_pure_result {x : Act ω τ ρ κ ε α} {f : α → β} :
    ((x >>= fun a => pure (f a)) w past c).result = (x w past c).result.map f := by
  rcases hx : x w past c with ⟨e | a, t, c'⟩
  · rw [bind_error w past c hx]
    rfl
  · rw [bind_ok w past c hx]
    rfl

/-- The same, of the result alone. -/
theorem bind_result_ok {x : Act ω τ ρ κ ε α} {f : α → Act ω τ ρ κ ε β} {b : β}
    (h : ((x >>= f) w past c).result = .ok b) :
    ∃ a t c', x w past c = ⟨.ok a, t, c'⟩ ∧ (f a w (past ++ t) c').result = .ok b := by
  rcases hr : (x >>= f) w past c with ⟨r, t, c'⟩
  rw [hr] at h
  cases h
  obtain ⟨a, t₁, c₁, t₂, hx, hf, -⟩ := bind_eq_ok w past c hr
  exact ⟨a, t₁, c₁, hx, by rw [hf]⟩

/-- A successful run that starts with a computation without calls. -/
theorem ofExcept_bind_eq_ok {x : Except ε α} {f : α → Act ω τ ρ κ ε β} {b : β}
    {t : List (Exchange τ ρ)} {c' : κ} (h : (ofExcept x >>= f) w past c = ⟨.ok b, t, c'⟩) :
    ∃ a, x = .ok a ∧ f a w past c = ⟨.ok b, t, c'⟩ := by
  obtain ⟨a, t₁, c₁, t₂, hx, hf, rfl⟩ := bind_eq_ok w past c h
  cases hx
  rw [List.append_nil] at hf
  exact ⟨a, rfl, hf⟩

/-- The exchanges of the first step are exchanges of the run. -/
theorem mem_trace_bind {x : Act ω τ ρ κ ε α} (f : α → Act ω τ ρ κ ε β) {e : Exchange τ ρ}
    (h : e ∈ (x w past c).trace) : e ∈ ((x >>= f) w past c).trace := by
  rcases hx : x w past c with ⟨e' | a, t, c'⟩
  · rw [bind_error w past c hx]
    rw [hx] at h
    exact h
  · rw [bind_ok w past c hx]
    rw [hx] at h
    exact List.mem_append_left _ h

@[simp] theorem void_trace (x : Act ω τ ρ κ ε α) :
    (x.void w past c).trace = (x w past c).trace := by
  unfold void
  rcases hx : x w past c with ⟨e | a, t, c'⟩
  · rw [bind_error w past c hx]
  · rw [bind_ok w past c hx]
    exact List.append_nil t

/-- A bind over a computation without calls. -/
theorem ofExcept_ok_bind {x : Except ε α} {a : α} (h : x = .ok a) (f : α → Act ω τ ρ κ ε β) :
    (ofExcept x >>= f) = f a := by
  subst h
  funext w past c
  rw [bind_ok w past c (ofExcept_apply w past c _)]
  simp

theorem ofExcept_error_bind {x : Except ε α} {e : ε} (h : x = .error e)
    (f : α → Act ω τ ρ κ ε β) : (ofExcept x >>= f) = fail e := by
  subst h
  funext w past c
  rw [bind_error w past c (ofExcept_apply w past c _)]
  rfl

end Run

/-! ## Monad laws -/

/-- Three steps, however they are bracketed. -/
theorem bind_bind {γ : Type} (x : Act ω τ ρ κ ε α) (f : α → Act ω τ ρ κ ε β)
    (g : β → Act ω τ ρ κ ε γ) : x >>= f >>= g = x >>= fun a => f a >>= g := by
  funext w past c
  rcases hx : x w past c with ⟨e | a, t, c'⟩
  · rw [bind_error w past c hx, bind_error w past c (bind_error w past c hx)]
  · rw [bind_ok w past c hx]
    have hxf := bind_ok w past c hx (f := f)
    rcases hf : f a w (past ++ t) c' with ⟨e | b, t', c''⟩
    · rw [hf] at hxf
      rw [bind_error w past c hxf, bind_error w _ c' hf]
    · rw [hf] at hxf
      rw [bind_ok w past c hxf, bind_ok w _ c' hf]
      simp only [List.append_assoc]

instance : LawfulMonad (Act ω τ ρ κ ε) := LawfulMonad.mk' _
  (fun x => by
    funext w past c
    show (x >>= pure) w past c = x w past c
    rcases h : x w past c with ⟨e | a, t, c'⟩
    · rw [bind_error w past c h]
    · rw [bind_ok w past c h, pure_apply, List.append_nil])
  (fun a f => by
    funext w past c
    rw [bind_ok w past c (pure_apply w past c a), List.append_nil]
    rfl)
  bind_bind

/-- A computation without calls, made of two. -/
theorem ofExcept_bind (x : Except ε α) (f : α → Except ε β) :
    (ofExcept (x >>= f) : Act ω τ ρ κ ε β) = ofExcept x >>= fun a => ofExcept (f a) := by
  cases x with
  | error e =>
    rw [ofExcept_error_bind rfl]
    rfl
  | ok a =>
    rw [ofExcept_ok_bind rfl]
    rfl

/-! ## What every exchange satisfies -/

/-- Every exchange of every run of `x` satisfies `P`. -/
def Emits (P : Exchange τ ρ → Prop) (x : Act ω τ ρ κ ε α) : Prop :=
  ∀ w past c, ∀ e ∈ (x w past c).trace, P e

namespace Emits

variable {P Q : Exchange τ ρ → Prop}

theorem mono (h : ∀ e, P e → Q e) {x : Act ω τ ρ κ ε α} (hx : Emits P x) : Emits Q x :=
  fun w past c e he => h e (hx w past c e he)

@[simp] theorem pure (a : α) : Emits P (pure a : Act ω τ ρ κ ε α) := fun _ _ _ _ he => by cases he

@[simp] theorem fail (e : ε) : Emits P (fail e : Act ω τ ρ κ ε α) := fun _ _ _ _ he => by cases he

@[simp] theorem ofExcept (x : Except ε α) : Emits P (ofExcept x : Act ω τ ρ κ ε α) :=
  fun _ _ _ _ he => by cases he

@[simp] theorem read (f : ω → α) : Emits P (read f : Act ω τ ρ κ ε α) :=
  fun _ _ _ _ he => by cases he

@[simp] theorem getCell : Emits P (getCell : Act ω τ ρ κ ε κ) := fun _ _ _ _ he => by cases he

@[simp] theorem setCell (c : κ) : Emits P (setCell c : Act ω τ ρ κ ε Unit) :=
  fun _ _ _ _ he => by cases he

theorem call {answer : ω → List (Exchange τ ρ) → τ → ρ} {t : τ} (h : ∀ r, P ⟨t, r⟩) :
    Emits P (call answer t : Act ω τ ρ κ ε ρ) := by
  intro w past c e he
  rw [call_apply, List.mem_singleton] at he
  exact he ▸ h _

theorem bind {x : Act ω τ ρ κ ε α} {f : α → Act ω τ ρ κ ε β} (hx : Emits P x)
    (hf : ∀ a, Emits P (f a)) : Emits P (x >>= f) := by
  intro w past c e he
  rcases h : x w past c with ⟨a | a, t, c'⟩
  · rw [bind_error w past c h] at he
    exact hx w past c e (by rw [h]; exact he)
  · rw [bind_ok w past c h] at he
    rcases List.mem_append.mp he with he | he
    · exact hx w past c e (by rw [h]; exact he)
    · exact hf a w _ _ e he

/-- `bind` over a computation without calls: the rest only has to be right for its value. -/
theorem bind_ofExcept {x : Except ε α} {f : α → Act ω τ ρ κ ε β}
    (hf : ∀ a, x = .ok a → Emits P (f a)) : Emits P (Act.ofExcept x >>= f) := by
  cases h : x with
  | error e => rw [ofExcept_error_bind rfl]; exact fail e
  | ok a => rw [ofExcept_ok_bind rfl]; exact hf a h

theorem void {x : Act ω τ ρ κ ε α} (hx : Emits P x) : Emits P x.void :=
  bind hx fun _ => pure ()

theorem attempt {x : Act ω τ ρ κ ε α} (hx : Emits P x) : Emits P x.attempt :=
  fun w past c e he => hx w past c e he

end Emits

end Act
end Base
