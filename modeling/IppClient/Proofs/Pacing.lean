import IppClient.Client.Poll
import Mathlib.Data.List.DropRight

/-!
# Poll pacing

How long the event stream sleeps after a poll is a function of the outcomes so far: the poll
interval after a success, and after the `k`-th failure in a row the `k`-th power of two, capped.

* `failures`, `sleepAfter`: that function.
* `backoffAfter_retryDelay`: one doubling. It never overflows.
* `Reached`: the retry delay of the loop after given outcomes; `Reached.turn` keeps it.
* `turns_paced`, `events_paced`: **the stream sleeps as `sleepAfter` says, for ever.**
-/

namespace Ipp

open Base

/-- The poll failed. -/
def Outcome.failed : Outcome → Bool
  | .ok _ => false
  | .error _ => true

/-- The number of failures since the last success, or since the start. -/
def failures (outcomes : List Outcome) : Nat := (outcomes.rtakeWhile Outcome.failed).length

/-- The `k`-th retry delay in seconds: 1, 2, 4, 8, 16 and 30 from then on. -/
def retrySeconds (k : Nat) : Nat := min (Nat.pow 2 (k - 1)) 30

/-- The sleep before the next poll. -/
def sleepAfter (outcomes : List Outcome) : Duration :=
  match failures outcomes with
  | 0 => pollInterval
  | k => .fromSecs (.ofNat (retrySeconds k))

/-- How long a turn sleeps; `none` if it panics. -/
def Turn.sleep (t : Turn) : Option Duration := t.next.map (·.1)

/-- The turns of a loop whose polls come out like this are paced. -/
structure Paced (outcomes : List Outcome) (turns : List Turn) : Prop where
  /-- The loop never panics. -/
  endless : turns.length = outcomes.length
  /-- The sleep after a success, and after the `k`-th failure in a row. -/
  sleeps : ∀ i t, turns[i]? = some t → t.sleep = some (sleepAfter (outcomes.take (i + 1)))
  /-- The retry delay that a turn leaves can be doubled. -/
  doubles : ∀ t ∈ turns, ∀ d l, t.next = some (d, l) → ∃ twice, l.backoff.mul? 2 = some twice
  /-- The sleep does not decrease during an outage. -/
  rises : ∀ i t t' d d' e e', turns[i]? = some t → turns[i + 1]? = some t' →
    outcomes[i]? = some (.error e) → outcomes[i + 1]? = some (.error e') → t.sleep = some d →
    t'.sleep = some d' → d.asNanos ≤ d'.asNanos
  /-- It is never zero, and never more than thirty seconds. -/
  bounded : ∀ t ∈ turns, ∀ d, t.sleep = some d →
    d.isZero = false ∧ d.asNanos ≤ (Duration.fromSecs 30).asNanos
  /-- The first failure of the stream, and after a success, is followed by one second. -/
  restarts : ∀ i t e, turns[i]? = some t → outcomes[i]? = some (.error e) →
    (i = 0 ∨ ∃ s, outcomes[i - 1]? = some (.ok s)) → t.sleep = some (.fromSecs 1)

/-! ## Retry delays -/

/-- The retry delay that the loop keeps after `k` failures in a row. -/
def retryDelay : Nat → Duration
  | 0 => .zero
  | k + 1 => .fromSecs (.ofNat (retrySeconds (k + 1)))

theorem retrySeconds_pos (k : Nat) : 0 < retrySeconds k := by
  have h : 0 < Nat.pow 2 (k - 1) := Nat.pow_pos (by decide)
  unfold retrySeconds
  omega

theorem retrySeconds_le (k : Nat) : retrySeconds k ≤ 30 := Nat.min_le_right _ _

theorem retrySeconds_succ (k : Nat) :
    retrySeconds (k + 2) = min (retrySeconds (k + 1) * 2) 30 := by
  have h : Nat.pow 2 (k + 1) = Nat.pow 2 k * 2 := rfl
  unfold retrySeconds
  rw [Nat.add_sub_cancel, show k + 2 - 1 = k + 1 from rfl, h]
  omega

theorem retrySeconds_mono {j k : Nat} (h : j ≤ k) : retrySeconds j ≤ retrySeconds k := by
  have hp : Nat.pow 2 (j - 1) ≤ Nat.pow 2 (k - 1) :=
    Nat.pow_le_pow_right (by decide) (by omega)
  unfold retrySeconds
  omega

theorem toNat_seconds {n : Nat} (h : n ≤ 60) : (UInt64.ofNat n).toNat = n := by
  rw [UInt64.toNat_ofNat']
  exact Nat.mod_eq_of_lt (by omega)

/-- The retry delay can be doubled. -/
theorem retryDelay_mul (k : Nat) :
    (retryDelay (k + 1)).mul? 2 = some (.fromSecs (.ofNat (retrySeconds (k + 1) * 2))) := by
  have hle := retrySeconds_le (k + 1)
  have hs := toNat_seconds (n := retrySeconds (k + 1)) (by omega)
  have hfit : (UInt64.ofNat (retrySeconds (k + 1))).toNat * 2 < UInt64.size := by
    rw [hs, UInt64.size]
    omega
  rw [retryDelay, Duration.mul?_fromSecs hfit, hs]

/-- **One doubling**: the delay after one more failure. -/
theorem backoffAfter_retryDelay (k : Nat) :
    backoffAfter (retryDelay k) = some (retryDelay (k + 1)) := by
  cases k with
  | zero => rfl
  | succ k =>
    have hpos := retrySeconds_pos (k + 1)
    have hle := retrySeconds_le (k + 1)
    have hz : ¬ (retryDelay (k + 1)).isZero = true := by
      rw [retryDelay, Duration.isZero_fromSecs, ← UInt64.toNat_inj, toNat_seconds (by omega)]
      exact Nat.ne_of_gt hpos
    have hmin : (if UInt64.ofNat (retrySeconds (k + 1) * 2) ≤ 30 then
        UInt64.ofNat (retrySeconds (k + 1) * 2) else 30) = .ofNat (retrySeconds (k + 2)) := by
      have hcap : UInt64.ofNat (retrySeconds (k + 1) * 2) ≤ 30 ↔ retrySeconds (k + 1) * 2 ≤ 30 := by
        rw [UInt64.le_iff_toNat_le, toNat_seconds (by omega)]
        rfl
      rw [retrySeconds_succ]
      by_cases h : retrySeconds (k + 1) * 2 ≤ 30
      · rw [if_pos (hcap.mpr h), Nat.min_eq_left h]
      · rw [if_neg (mt hcap.mp h), Nat.min_eq_right (by omega)]
        rfl
    rw [backoffAfter, if_neg hz, retryDelay_mul, Option.map_some, maxBackoff,
      Duration.min_fromSecs, hmin, retryDelay]

/-! ## The loop -/

/-- The loop after these outcomes keeps the retry delay of the failures at their end. -/
def Reached (past : List Outcome) (l : EventLoop) : Prop := l.backoff = retryDelay (failures past)

theorem failures_ok (past : List Outcome) (s : Snapshot) : failures (past ++ [.ok s]) = 0 := by
  rw [failures, List.rtakeWhile_concat_neg _ _ _ (by simp [Outcome.failed])]
  rfl

theorem failures_error (past : List Outcome) (e : Error) :
    failures (past ++ [.error e]) = failures past + 1 := by
  rw [failures, List.rtakeWhile_concat_pos _ _ _ rfl, List.length_append]
  rfl

theorem sleepAfter_error (past : List Outcome) (e : Error) :
    sleepAfter (past ++ [.error e]) = retryDelay (failures past + 1) := by
  rw [sleepAfter, failures_error]
  rfl

/-- **One turn**: it sleeps as the outcomes so far say, and the loop goes on. -/
theorem Reached.turn {past : List Outcome} {l : EventLoop} (h : Reached past l)
    (outcome : Outcome) :
    ∃ l', (l.turn outcome).next = some (sleepAfter (past ++ [outcome]), l') ∧
      Reached (past ++ [outcome]) l' := by
  cases outcome with
  | ok current =>
    refine ⟨{ previous := some current, backoff := .zero }, ?_, ?_⟩
    · rw [sleepAfter, failures_ok]
      rfl
    · rw [Reached, failures_ok]
      rfl
  | error e =>
    refine ⟨{ previous := none, backoff := retryDelay (failures past + 1) }, ?_, ?_⟩
    · have hb : backoffAfter l.backoff = some (retryDelay (failures past + 1)) := by
        rw [h, backoffAfter_retryDelay]
      rw [EventLoop.turn, hb, sleepAfter_error]
      rfl
    · rw [Reached, failures_error]

/-- The state of the loop at each turn of a run. -/
theorem Reached.turns {past : List Outcome} {l : EventLoop} (h : Reached past l)
    (outcomes : List Outcome) :
    (l.turns outcomes).length = outcomes.length ∧
      ∀ i t, (l.turns outcomes)[i]? = some t → ∃ l',
        t.next = some (sleepAfter (past ++ outcomes.take (i + 1)), l') ∧
          Reached (past ++ outcomes.take (i + 1)) l' := by
  induction outcomes generalizing past l with
  | nil => exact ⟨rfl, fun i t ht => by cases ht⟩
  | cons outcome outcomes ih =>
    obtain ⟨l', hnext, hl'⟩ := h.turn outcome
    obtain ⟨hlen, hturns⟩ := ih hl'
    rw [EventLoop.turns, hnext]
    refine ⟨congrArg (· + 1) hlen, fun i t ht => ?_⟩
    cases i with
    | zero =>
      cases ht
      exact ⟨l', hnext, hl'⟩
    | succ i =>
      have := hturns i t ht
      rwa [List.append_assoc] at this

/-! ## Pacing -/

theorem asNanos_retryDelay (k : Nat) :
    (retryDelay (k + 1)).asNanos = retrySeconds (k + 1) * 1000000000 := by
  have hle := retrySeconds_le (k + 1)
  rw [retryDelay, Duration.asNanos_fromSecs, toNat_seconds (by omega)]

theorem retryDelay_doubles (k : Nat) : ∃ twice, (retryDelay k).mul? 2 = some twice := by
  cases k with
  | zero => exact ⟨_, Duration.mul?_fromSecs (s := 0) (by decide)⟩
  | succ k => exact ⟨_, retryDelay_mul k⟩

/-- Every sleep is the poll interval or a retry delay. -/
theorem sleepAfter_bounded (outcomes : List Outcome) :
    (sleepAfter outcomes).isZero = false ∧
      (sleepAfter outcomes).asNanos ≤ (Duration.fromSecs 30).asNanos := by
  cases hk : failures outcomes with
  | zero =>
    rw [sleepAfter, hk]
    decide
  | succ k =>
    have hs : sleepAfter outcomes = retryDelay (k + 1) := by
      rw [sleepAfter, hk]
      rfl
    have hpos := retrySeconds_pos (k + 1)
    have hle := retrySeconds_le (k + 1)
    have h30 : (Duration.fromSecs 30).asNanos = 30 * 1000000000 := rfl
    refine ⟨?_, ?_⟩
    · rw [hs, ← Bool.not_eq_true, retryDelay, Duration.isZero_fromSecs, ← UInt64.toNat_inj,
        toNat_seconds (by omega)]
      exact Nat.ne_of_gt hpos
    · rw [hs, asNanos_retryDelay, h30]
      omega

theorem take_succ_of {outcomes : List Outcome} {i : Nat} {o : Outcome}
    (h : outcomes[i]? = some o) : outcomes.take (i + 1) = outcomes.take i ++ [o] := by
  rw [List.take_add_one, h]
  rfl

/-- **The turns of the loop are paced**, whatever comes of its polls. -/
theorem turns_paced (outcomes : List Outcome) :
    Paced outcomes (EventLoop.start.turns outcomes) := by
  have hstart : Reached [] .start := rfl
  obtain ⟨hlen, hturns⟩ := hstart.turns outcomes
  have hsleeps : ∀ i t, (EventLoop.start.turns outcomes)[i]? = some t →
      t.sleep = some (sleepAfter (outcomes.take (i + 1))) := by
    intro i t ht
    obtain ⟨l, hnext, -⟩ := hturns i t ht
    rw [Turn.sleep, hnext]
    rfl
  -- After a failure, the delay of one failure more than there were.
  have hfailed : ∀ i t e, (EventLoop.start.turns outcomes)[i]? = some t →
      outcomes[i]? = some (.error e) →
      t.sleep = some (retryDelay (failures (outcomes.take i) + 1)) := by
    intro i t e ht he
    rw [hsleeps i t ht, take_succ_of he, sleepAfter_error]
  constructor
  · exact hlen
  · exact hsleeps
  · intro t ht d l hnext
    obtain ⟨i, hi⟩ := List.mem_iff_getElem?.mp ht
    obtain ⟨l', hnext', hl'⟩ := hturns i t hi
    rw [hnext'] at hnext
    cases hnext
    rw [hl']
    exact retryDelay_doubles _
  · intro i t t' d d' e e' ht ht' he he' hd hd'
    rw [hfailed i t e ht he] at hd
    rw [hfailed (i + 1) t' e' ht' he', take_succ_of he, failures_error] at hd'
    cases hd
    cases hd'
    rw [asNanos_retryDelay, asNanos_retryDelay]
    exact Nat.mul_le_mul_right _ (retrySeconds_mono (by omega))
  · intro t ht d hd
    obtain ⟨i, hi⟩ := List.mem_iff_getElem?.mp ht
    rw [hsleeps i t hi] at hd
    cases hd
    exact sleepAfter_bounded _
  · intro i t e ht he hfirst
    have hzero : failures (outcomes.take i) = 0 := by
      obtain rfl | ⟨s, hs⟩ := hfirst
      · rfl
      · cases i with
        | zero => rfl
        | succ i =>
          rw [Nat.add_sub_cancel] at hs
          rw [take_succ_of hs, failures_ok]
    rw [hfailed i t e ht he, hzero]
    rfl

/-- The stream goes on after every poll. -/
theorem events_length [IppCrate] {c : IppClient} {outcomes : List Outcome} {l : EventLoop}
    (h : Reached outcomes l) (past : List (Exchange Post Reply)) (cell : Cache) (ws : List World) :
    (c.events l past cell ws).length = ws.length := by
  induction ws generalizing outcomes l past cell with
  | nil => rfl
  | cons w ws ih =>
    obtain ⟨l', hnext, hl'⟩ := h.turn (c.poll l w past cell).result
    rw [IppClient.events, hnext]
    exact congrArg (· + 1) (ih hl' _ _)

/-- **Poll pacing.** For every sequence of poll outcomes the event stream sleeps as they say, and
so it does for every client, in every sequence of worlds, where it never ends. -/
theorem events_paced [IppCrate] :
    (∀ outcomes, Paced outcomes (EventLoop.start.turns outcomes)) ∧
      ∀ (c : IppClient) (past : List (Exchange Post Reply)) (cell : Cache) (ws : List World),
        Paced ((c.events .start past cell ws).map (·.outcome))
            ((c.events .start past cell ws).map (·.turn)) ∧
          (c.events .start past cell ws).length = ws.length := by
  refine ⟨turns_paced, fun c past cell ws => ⟨?_, ?_⟩⟩
  · rw [c.events_turns]
    exact turns_paced _
  · have hstart : Reached [] .start := rfl
    exact events_length hstart past cell ws

end Ipp
