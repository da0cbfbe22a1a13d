import IppClient.Base.Act

/-!
# What an action reports about its calls

Four rules for an action that calls an environment, each of them for every run.

* `Act.Follows g K plan x`: the kinds (`g`) of the calls that a run of `x` makes are a sublist of
  `plan`. Nothing outside the plan is called, in no other order, and what the plan has once is
  called at most once. Besides, a cell that satisfies `K` stays as it is. Plans add up along
  `bind`.
* `Act.Reports A F G x`: `x` says how its calls went. A run that succeeds made only calls that
  satisfy `A`; a run that fails with `e` made a call that explains `e` (`F e`), or `e` is one that
  needs no explanation (`G e`). `Reports.attempt_bind` is for a cleanup: a handler that may do
  anything so long as it fails with the failure it was handed.
* `Act.Pays p φ x`: the cell holds a credit `φ`, and every call that satisfies `p` costs one. What a
  run spends and what it leaves is at most what it found.
* `Act.Returns P x`: the value of every run that succeeds satisfies `P`. The last step decides.
-/

namespace Base.Act

variable {ω τ ρ κ ε α β γ : Type}

/-! ## Plans -/

/-- The calls of every run of `x` are, by their kinds, a sublist of the plan, and `x` leaves a cell
that satisfies `K` as it is. -/
structure Follows (g : Exchange τ ρ → γ) (K : κ → Prop) (plan : List γ) (x : Act ω τ ρ κ ε α) :
    Prop where
  calls : ∀ w past c, ((x w past c).trace.map g).Sublist plan
  keeps : ∀ w past c, K c → (x w past c).cell = c

namespace Follows

variable {g : Exchange τ ρ → γ} {K : κ → Prop} {plan plan' : List γ}

/-- An action that makes no call and does not touch the cell. -/
theorem silent {x : Act ω τ ρ κ ε α} (ht : ∀ w past c, (x w past c).trace = [])
    (hc : ∀ w past c, (x w past c).cell = c) : Follows g K plan x where
  calls w past c := by
    rw [ht]
    exact List.nil_sublist _
  keeps w past c _ := hc w past c

theorem pure (a : α) : Follows g K plan (pure a : Act ω τ ρ κ ε α) :=
  silent (fun _ _ _ => rfl) fun _ _ _ => rfl

theorem fail (e : ε) : Follows g K plan (fail e : Act ω τ ρ κ ε α) :=
  silent (fun _ _ _ => rfl) fun _ _ _ => rfl

theorem ofExcept (x : Except ε α) : Follows g K plan (ofExcept x : Act ω τ ρ κ ε α) :=
  silent (fun _ _ _ => rfl) fun _ _ _ => rfl

theorem read (f : ω → α) : Follows g K plan (read f : Act ω τ ρ κ ε α) :=
  silent (fun _ _ _ => rfl) fun _ _ _ => rfl

theorem attempt {x : Act ω τ ρ κ ε α} (hx : Follows g K plan x) : Follows g K plan x.attempt :=
  ⟨hx.calls, hx.keeps⟩

/-- **Plans add up.** -/
theorem bind {x : Act ω τ ρ κ ε α} {f : α → Act ω τ ρ κ ε β} (hx : Follows g K plan x)
    (hf : ∀ a, Follows g K plan' (f a)) : Follows g K (plan ++ plan') (x >>= f) where
  calls w past c := by
    have hp := hx.calls w past c
    rcases h : x w past c with ⟨e | a, t, c'⟩
    · rw [h] at hp
      rw [bind_error w past c h]
      exact hp.trans (List.sublist_append_left _ _)
    · rw [h] at hp
      rw [bind_ok w past c h, List.map_append]
      exact hp.append ((hf a).calls w (past ++ t) c')
  keeps w past c hc := by
    have hk := hx.keeps w past c hc
    rcases h : x w past c with ⟨e | a, t, c'⟩
    · rw [h] at hk
      rw [bind_error w past c h]
      exact hk
    · rw [h] at hk
      obtain rfl : c' = c := hk
      rw [bind_ok w past c' h]
      exact (hf a).keeps w (past ++ t) c' hc

/-- The rest of an action without calls follows the plan of the whole. -/
theorem bind_ofExcept {x : Except ε α} {f : α → Act ω τ ρ κ ε β}
    (hf : ∀ a, x = .ok a → Follows g K plan (f a)) : Follows g K plan (Act.ofExcept x >>= f) := by
  cases h : x with
  | error e => rw [ofExcept_error_bind rfl]; exact fail e
  | ok a => rw [ofExcept_ok_bind rfl]; exact hf a h

/-- An action that is followed by one without calls keeps its plan. -/
theorem then_silent {x : Act ω τ ρ κ ε α} {f : α → Act ω τ ρ κ ε β} (hx : Follows g K plan x)
    (hf : ∀ a, Follows g K [] (f a)) : Follows g K plan (x >>= f) := by
  have h := hx.bind hf
  rwa [List.append_nil] at h

theorem void {x : Act ω τ ρ κ ε α} (hx : Follows g K plan x) : Follows g K plan x.void :=
  hx.then_silent fun _ => pure ()

end Follows

/-! ## Reports -/

/-- A run of `x` that succeeds made only calls that satisfy `A`. One that fails with `e` made a
call that explains it, or `e` needs no explanation. -/
structure Reports (A : Exchange τ ρ → Prop) (F : ε → Exchange τ ρ → Prop) (G : ε → Prop)
    (x : Act ω τ ρ κ ε α) : Prop where
  success : ∀ w past c a, (x w past c).result = .ok a → ∀ e ∈ (x w past c).trace, A e
  failure : ∀ w past c err, (x w past c).result = .error err →
    G err ∨ ∃ e ∈ (x w past c).trace, F err e

/-- A failure after a cleanup, whatever becomes of the cleanup. -/
theorem attempt_fail_result (x : Act ω τ ρ κ ε α) (err : ε) (w : ω) (past : List (Exchange τ ρ))
    (c : κ) : ((x.attempt >>= fun _ => fail err : Act ω τ ρ κ ε β) w past c).result =
      .error err := by
  rw [bind_ok w past c (attempt_apply w past c x)]
  rfl

namespace Reports

variable {A : Exchange τ ρ → Prop} {F : ε → Exchange τ ρ → Prop} {G : ε → Prop}

theorem pure (a : α) : Reports A F G (pure a : Act ω τ ρ κ ε α) where
  success _ _ _ _ _ _ he := by cases he
  failure _ _ _ _ h := by cases h

theorem fail {err : ε} (h : G err) : Reports A F G (fail err : Act ω τ ρ κ ε α) where
  success _ _ _ _ h := by cases h
  failure _ _ _ _ h' := by
    cases h'
    exact .inl h

theorem ofExcept {x : Except ε α} (h : ∀ err, x = .error err → G err) :
    Reports A F G (Act.ofExcept x : Act ω τ ρ κ ε α) where
  success _ _ _ _ _ _ he := by cases he
  failure _ _ _ err hr := .inl (h err hr)

/-- An action that cannot fail reports by its successes alone. -/
theorem of_emits {x : Act ω τ ρ κ ε α} (h : Emits A x)
    (hx : ∀ w past c, ∃ a, (x w past c).result = .ok a) : Reports A F G x where
  success w past c _ _ := h w past c
  failure w past c err hr := by
    obtain ⟨a, ha⟩ := hx w past c
    rw [ha] at hr
    cases hr

theorem bind {x : Act ω τ ρ κ ε α} {f : α → Act ω τ ρ κ ε β} (hx : Reports A F G x)
    (hf : ∀ a, Reports A F G (f a)) : Reports A F G (x >>= f) where
  success w past c b hb := by
    rcases h : x w past c with ⟨e | a, t, c'⟩
    · rw [bind_error w past c h] at hb
      cases hb
    · have ht := hx.success w past c a (by rw [h])
      rw [h] at ht
      rw [bind_ok w past c h] at hb ⊢
      intro e he
      rcases List.mem_append.mp he with he | he
      · exact ht e he
      · exact (hf a).success w (past ++ t) c' b hb e he
  failure w past c err hr := by
    rcases h : x w past c with ⟨e | a, t, c'⟩
    · have hx' := hx.failure w past c err
      rw [h] at hx'
      rw [bind_error w past c h] at hr ⊢
      cases hr
      exact hx' rfl
    · rw [bind_ok w past c h] at hr ⊢
      obtain hg | ⟨e, he, hF⟩ := (hf a).failure w (past ++ t) c' err hr
      · exact .inl hg
      · exact .inr ⟨e, List.mem_append_right _ he, hF⟩

/-- `bind` over a computation without calls: the rest only has to be right for its value. -/
theorem bind_ofExcept {x : Except ε α} {f : α → Act ω τ ρ κ ε β}
    (hx : ∀ err, x = .error err → G err) (hf : ∀ a, x = .ok a → Reports A F G (f a)) :
    Reports A F G (Act.ofExcept x >>= f) := by
  cases h : x with
  | error e => rw [ofExcept_error_bind rfl]; exact fail (hx e h)
  | ok a => rw [ofExcept_ok_bind rfl]; exact hf a h

theorem void {x : Act ω τ ρ κ ε α} (hx : Reports A F G x) : Reports A F G x.void :=
  hx.bind fun _ => pure ()

/-- **Cleanup.** What runs after a failure may do anything, and fail in any way, so long as the
whole then fails with the first failure. -/
theorem attempt_bind {x : Act ω τ ρ κ ε α} {f : Except ε α → Act ω τ ρ κ ε β}
    (hx : Reports A F G x) (hok : ∀ a, Reports A F G (f (.ok a)))
    (herr : ∀ err w past c, (f (.error err) w past c).result = .error err) :
    Reports A F G (x.attempt >>= f) where
  success w past c b hb := by
    have hs := bind_ok w past c (attempt_apply w past c x) (f := f)
    rw [hs] at hb ⊢
    rcases h : (x w past c).result with err | a
    · rw [h] at hb
      exact absurd hb (by rw [herr]; exact nofun)
    · rw [h] at hb
      intro e he
      rcases List.mem_append.mp he with he | he
      · exact hx.success w past c a h e he
      · exact (hok a).success _ _ _ b hb e he
  failure w past c err hr := by
    have hs := bind_ok w past c (attempt_apply w past c x) (f := f)
    rw [hs] at hr ⊢
    rcases h : (x w past c).result with err' | a
    · rw [h, herr] at hr
      cases hr
      obtain hg | ⟨e, he, hF⟩ := hx.failure w past c err h
      · exact .inl hg
      · exact .inr ⟨e, List.mem_append_left _ he, hF⟩
    · rw [h] at hr
      obtain hg | ⟨e, he, hF⟩ := (hok a).failure _ _ _ err hr
      · exact .inl hg
      · exact .inr ⟨e, List.mem_append_right _ (h ▸ he), hF⟩

end Reports

/-! ## Credit -/

/-- A run of `x` makes no more calls that satisfy `p` than the credit it takes from the cell. -/
def Pays (p : Exchange τ ρ → Bool) (φ : κ → Nat) (x : Act ω τ ρ κ ε α) : Prop :=
  ∀ w past c, (x w past c).trace.countP p + φ (x w past c).cell ≤ φ c

namespace Pays

variable {p : Exchange τ ρ → Bool} {φ : κ → Nat}

/-- An action that makes no such call, and keeps the cells that have no credit left. -/
theorem of_frugal {x : Act ω τ ρ κ ε α} (hx : Emits (fun e => p e = false) x)
    (hφ : ∀ c, φ c ≤ 1) (hc : ∀ w past c, φ c = 0 → (x w past c).cell = c) : Pays p φ x := by
  intro w past c
  have h0 : (x w past c).trace.countP p = 0 :=
    List.countP_eq_zero.mpr fun e he => ne_true_of_eq_false (hx w past c e he)
  have hle := hφ (x w past c).cell
  by_cases hz : φ c = 0
  · rw [h0, hc w past c hz]
    omega
  · omega

theorem bind {x : Act ω τ ρ κ ε α} {f : α → Act ω τ ρ κ ε β} (hx : Pays p φ x)
    (hf : ∀ a, Pays p φ (f a)) : Pays p φ (x >>= f) := by
  intro w past c
  have hp := hx w past c
  rcases h : x w past c with ⟨e | a, t, c'⟩
  · rw [h] at hp
    rw [bind_error w past c h]
    exact hp
  · rw [h] at hp
    have hq := hf a w (past ++ t) c'
    rw [bind_ok w past c h, List.countP_append]
    dsimp only at hp ⊢
    omega

theorem pure (a : α) : Pays p φ (pure a : Act ω τ ρ κ ε α) :=
  fun _ _ c => Nat.le_of_eq (Nat.zero_add (φ c))

theorem void {x : Act ω τ ρ κ ε α} (hx : Pays p φ x) : Pays p φ x.void :=
  hx.bind fun _ => pure ()

end Pays

/-! ## Values -/

/-- The value of every run of `x` that succeeds satisfies `P`. -/
def Returns (P : α → Prop) (x : Act ω τ ρ κ ε α) : Prop :=
  ∀ w past c a, (x w past c).result = .ok a → P a

namespace Returns

variable {P : α → Prop}

theorem pure {a : α} (h : P a) : Returns P (pure a : Act ω τ ρ κ ε α) := by
  intro w past c b hb
  cases hb
  exact h

theorem ofExcept {x : Except ε α} (h : ∀ a, x = .ok a → P a) :
    Returns P (ofExcept x : Act ω τ ρ κ ε α) :=
  fun _ _ _ a ha => h a ha

theorem bind {x : Act ω τ ρ κ ε β} {f : β → Act ω τ ρ κ ε α} (hf : ∀ b, Returns P (f b)) :
    Returns P (x >>= f) := by
  intro w past c a ha
  obtain ⟨b, t, c', -, hb⟩ := bind_result_ok w past c ha
  exact hf b w _ _ a hb

end Returns

end Base.Act
