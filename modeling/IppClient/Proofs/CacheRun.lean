import IppClient.Base.Sys
import IppClient.Client.Daemon

/-!
# The default-printer cache over a run of calls

A run is any sequence of `default_printer` calls, each in a world of its own, and invalidations.
The cache is documented to hold `Some(None)` for "resolved, and there is no default"; the code
also stores that when the server could not be reached.

* `CacheState`: the cache, with where its content came from (`origin`) and whether the latest call
  lost its answer (`lost`), which the code does not keep.
* `Honest`: nothing is recorded that did not happen. `Honest.recovers` follows from an unresolved
  cache (`recovers_of_unresolved`).
* `defaultCache_honest_iff`: **every state of a run is honest exactly when every call finds a cached
  value, an `lpoptions` choice, or a server that answers.**
-/

namespace Ipp

open Base

/-- One step of a run. -/
inductive CacheStep where
  | call (w : World)
  | invalidate

/-- The state of a run: the exchanges so far and the cache; the exchanges of the call that filled
the cache; and whether the latest call asked the server and got no answer. -/
structure CacheState where
  past : List (Exchange Post Reply)
  cell : Cache
  origin : List (Exchange Post Reply)
  lost : Bool

/-- A new client. -/
def CacheState.start : CacheState := { past := [], cell := none, origin := [], lost := false }

/-- The reply is a transport failure. -/
def isLost (e : Exchange Post Reply) : Bool :=
  match e.reply with
  | .ok _ => false
  | .error _ => true

section

variable [IppCrate] (c : IppClient)

/-- The state after a step. -/
def CacheState.next (s : CacheState) : CacheStep → CacheState
  | .call w =>
    let r := c.defaultPrinter w s.past s.cell
    { past := s.past ++ r.trace
      cell := r.cell
      origin := if s.cell.isSome then s.origin else r.trace
      lost := r.trace.any isLost }
  | .invalidate => { s with cell := none, origin := [], lost := false }

/-- Runs of calls and invalidations on one client. -/
def cacheRun : Sys CacheState CacheStep where
  step s l := some (s.next c l)

/-- The server answered a `CUPS-Get-Default` among these exchanges, be it with a refusal. -/
def Answered (t : List (Exchange Post Reply)) : Prop :=
  ∃ m resp, getDefaultRequest = .ok m ∧ ⟨⟨c.inner.uri, m⟩, .ok resp⟩ ∈ t

/-- A call made while the server is reachable, and no `lpoptions` file makes a choice, returns the
server's default. -/
def Recovers (s : CacheState) : Prop :=
  ∀ w m resp, w.lpoptions = none → getDefaultRequest = .ok m →
    IppClient.accept "CUPS-Get-Default" (c.exchange w s.past m).reply = .ok resp →
    (c.defaultPrinter w s.past s.cell).result = .ok (decodeDefault resp)

/-- The cache records no lookup that did not happen: "no default" was answered by the server, a
transport failure leaves the cache unresolved, and a later call can recover from it. -/
structure Honest (s : CacheState) : Prop where
  answered : s.cell = some none → Answered c s.origin
  unresolved : s.lost = true → s.cell = none
  recovers : s.lost = true → Recovers c s

/-- The step is no call that asks the server in vain: the cache is filled, or `lpoptions` makes a
choice, or the server can be asked and answers. -/
def AnswerArrives (s : CacheState) : CacheStep → Prop
  | .call w =>
    s.cell.isSome ∨ w.lpoptions.isSome ∨
      ∃ m resp, getDefaultRequest = .ok m ∧ w.reply s.past ⟨c.inner.uri, m⟩ = .ok resp
  | .invalidate => True

variable {c}

/-- From an unresolved cache a call recovers. -/
theorem recovers_of_unresolved {s : CacheState} (h : s.cell = none) : Recovers c s := by
  intro w m resp hl hm ha
  rw [h, IppClient.defaultPrinter_asked hl hm, IppClient.answeredDefault, ha]
  rfl

/-- What a run keeps while answers arrive. -/
structure Kept (c : IppClient) (s : CacheState) : Prop where
  answered : s.cell = some none → Answered c s.origin
  found : s.lost = false

theorem Kept.honest {s : CacheState} (h : Kept c s) : Honest c s := by
  refine ⟨h.answered, fun hl => ?_, fun hl => ?_⟩
  · rw [h.found] at hl
    cases hl
  · rw [h.found] at hl
    cases hl

/-- **One step.** A step at which an answer arrives keeps the invariant. -/
theorem Kept.next {s : CacheState} (h : Kept c s) {l : CacheStep} (hl : AnswerArrives c s l) :
    Kept c (s.next c l) := by
  cases l with
  | invalidate => exact ⟨fun hc => (by cases hc), rfl⟩
  | call w =>
    obtain ⟨past, cell, origin, lost⟩ := s
    cases cell with
    | some cached =>
      -- A hit leaves everything as it is.
      refine ⟨fun hc => ?_, ?_⟩
      · simp only [CacheState.next, IppClient.defaultPrinter_hit] at hc ⊢
        exact h.answered hc
      · simp only [CacheState.next, IppClient.defaultPrinter_hit, List.any_nil]
    | none =>
      cases hlp : w.lpoptions with
      | some chosen =>
        refine ⟨fun hc => ?_, ?_⟩
        · simp only [CacheState.next, IppClient.defaultPrinter_lpoptions hlp] at hc
          cases hc
        · simp only [CacheState.next, IppClient.defaultPrinter_lpoptions hlp, List.any_nil]
      | none =>
        obtain hs | hs | ⟨m, resp, hm, hr⟩ := hl
        · cases hs
        · rw [hlp] at hs
          cases hs
        · have he : c.exchange w past m = ⟨⟨c.inner.uri, m⟩, .ok resp⟩ := by
            rw [IppClient.exchange, hr]
          refine ⟨fun _ => ?_, ?_⟩
          · simp only [CacheState.next, IppClient.defaultPrinter_asked hlp hm, he]
            exact ⟨m, resp, hm, List.mem_singleton.mpr rfl⟩
          · simp only [CacheState.next, IppClient.defaultPrinter_asked hlp hm, he]
            rfl

/-- A call that asks in vain stores "no default", which nobody answered. -/
theorem not_honest_next {s : CacheState} {l : CacheStep} (hl : ¬ AnswerArrives c s l) :
    ¬ Honest c (s.next c l) := by
  intro h
  cases l with
  | invalidate => exact hl trivial
  | call w =>
    obtain ⟨past, cell, origin, lost⟩ := s
    cases cell with
    | some cached => exact hl (.inl rfl)
    | none =>
      cases hlp : w.lpoptions with
      | some chosen => exact hl (.inr (.inl (by rw [hlp]; rfl)))
      | none =>
        cases hm : getDefaultRequest with
        | error e =>
          have hn : (CacheState.mk past none origin lost).next c (.call w) =
              ⟨past ++ [], some none, [], false⟩ := by
            simp only [CacheState.next, IppClient.defaultPrinter_unbuilt hlp hm]
            rfl
          rw [hn] at h
          obtain ⟨m, resp, hm', -⟩ := h.answered rfl
          rw [hm] at hm'
          cases hm'
        | ok m =>
          cases hr : w.reply past ⟨c.inner.uri, m⟩ with
          | ok resp => exact hl (.inr (.inr ⟨m, resp, hm, hr⟩))
          | error e =>
            have he : c.exchange w past m = ⟨⟨c.inner.uri, m⟩, .error e⟩ := by
              rw [IppClient.exchange, hr]
            have hn : (CacheState.mk past none origin lost).next c (.call w) =
                ⟨past ++ [c.exchange w past m], some none, [c.exchange w past m], true⟩ := by
              simp only [CacheState.next, IppClient.defaultPrinter_asked hlp hm, he]
              rfl
            rw [hn] at h
            have hc := h.unresolved rfl
            cases hc

/-- **When the cache is honest.** For every run of calls and invalidations: no state of it records
a lookup that did not happen, exactly when every call of it finds a cached value, an `lpoptions`
choice, or a server that answers. -/
theorem defaultCache_honest_iff (c : IppClient) (ls : List CacheStep) :
    (cacheRun c).Throughout (Honest c) CacheState.start ls ↔
      (cacheRun c).Meets (AnswerArrives c) CacheState.start ls := by
  have hI : ∀ s l s', Kept c s → AnswerArrives c s l → (cacheRun c).step s l = some s' →
      Kept c s' := by
    intro s l s' h hl hs
    cases hs
    exact h.next hl
  have hbad : ∀ s l, Kept c s → ¬ AnswerArrives c s l →
      ∃ s', (cacheRun c).step s l = some s' ∧ ¬ Honest c s' :=
    fun s l _ hl => ⟨s.next c l, rfl, not_honest_next hl⟩
  have h0 : Kept c CacheState.start := ⟨fun h => (by cases h), rfl⟩
  exact Sys.throughout_iff_meets hI (fun _ => Kept.honest) hbad h0

end

/-! ## A daemon that is down for the first call -/

section Reference

attribute [local instance] Reference.crate

/-- The cache after a call that nothing answered: "resolved, and there is no default". -/
theorem defaultCache_not_honest :
    ¬ ∀ (c : IppClient) (ls : List CacheStep),
      (cacheRun c).Throughout (Honest c) CacheState.start ls := by
  intro h
  have hs := h localClient [.call (.answering fun _ => refused)] _ List.prefix_rfl _ rfl
  have hc := hs.unresolved rfl
  cases hc

end Reference

end Ipp
