import IppClient.Base.Sys
import IppClient.Client.Daemon

/-!
# The default-printer cache under concurrent calls

`IppClient` is shared, and `default_printer` holds the lock of the cache only while it reads it and
while it stores, not while it asks the server. `cacheRace` is the system of its atomic steps: any
number of `default_printer` calls (tasks), each at its own pace, and invalidations. Time is counted
in invalidations (`epoch`).

* `solo_run`: a task that runs alone does what `IppClient.defaultPrinter` does.
* `NoStale`: a returned value was resolved since the last invalidation before the call.
* `RaceInv.next`: every step that stores nothing stale keeps the invariant.
* `invalidation_kept`: **in every run that never stores a resolution that an invalidation overtook,
  no invalidation is lost.**
* `stale_store_returned`: where a run does store one, the next call returns it.
-/

namespace Ipp

open Base

/-- A `default_printer` call. -/
abbrev Tid := Nat

/-- How far a call is: the epoch it started in, and the epoch the resolution of its value began
in. -/
inductive Task where
  | idle
  | called (start : Nat)
  | missed (start : Nat)
  | asking (start began : Nat)
  | resolved (start began : Nat) (value : Option String)
  | returned (start began : Nat) (value : Option String)

/-- The content of the cache, and the epoch in which its resolution began. -/
structure Stored where
  value : Option String
  began : Nat

/-- The number of completed invalidations, the cache, and the calls. -/
structure RaceState where
  epoch : Nat
  cache : Option Stored
  tasks : Tid → Task

/-- The atomic steps: a call starts, reads the cache, consults `lpoptions`, gets the server's
answer, stores and returns; or the cache is invalidated. -/
inductive RaceStep where
  | call (t : Tid)
  | read (t : Tid)
  | resolve (t : Tid) (chosen : Option String)
  | answer (t : Tid) (reply : Except Error (Option String))
  | store (t : Tid)
  | invalidate

namespace RaceState

/-- A new client, before any call. -/
def start : RaceState := { epoch := 0, cache := none, tasks := fun _ => .idle }

/-- The call `t` is now at `task`. -/
def setTask (s : RaceState) (t : Tid) (task : Task) : RaceState :=
  { s with tasks := fun u => if u = t then task else s.tasks u }

/-- The cache now holds `stored`. -/
def setCache (s : RaceState) (stored : Stored) : RaceState := { s with cache := some stored }

/-- The state after a step, if it can be taken. -/
def next (s : RaceState) : RaceStep → Option RaceState
  | .call t =>
    match s.tasks t with
    | .idle => some (s.setTask t (.called s.epoch))
    | _ => none
  | .read t =>
    match s.tasks t with
    | .called start =>
      match s.cache with
      | some stored => some (s.setTask t (.returned start stored.began stored.value))
      | none => some (s.setTask t (.missed start))
    | _ => none
  | .resolve t chosen =>
    match s.tasks t with
    | .missed start =>
      match chosen with
      | some chosen => some (s.setTask t (.resolved start s.epoch (some chosen)))
      | none => some (s.setTask t (.asking start s.epoch))
    | _ => none
  | .answer t reply =>
    match s.tasks t with
    | .asking start began =>
      match reply with
      | .ok name => some (s.setTask t (.resolved start began name))
      | .error _ => some (s.setTask t (.resolved start began none))
    | _ => none
  | .store t =>
    match s.tasks t with
    | .resolved start began value =>
      some ((s.setTask t (.returned start began value)).setCache ⟨value, began⟩)
    | _ => none
  | .invalidate => some { s with epoch := s.epoch + 1, cache := none }

@[simp] theorem setTask_self (s : RaceState) (t : Tid) (task : Task) :
    (s.setTask t task).tasks t = task := by
  simp [setTask]

theorem setTask_ne (s : RaceState) {t u : Tid} (task : Task) (h : u ≠ t) :
    (s.setTask t task).tasks u = s.tasks u := by
  simp [setTask, h]

@[simp] theorem setTask_setTask (s : RaceState) (t : Tid) (task task' : Task) :
    (s.setTask t task).setTask t task' = s.setTask t task' := by
  simp only [setTask, RaceState.mk.injEq, true_and]
  funext u
  split <;> rfl

@[simp] theorem setTask_epoch (s : RaceState) (t : Tid) (task : Task) :
    (s.setTask t task).epoch = s.epoch := rfl

@[simp] theorem setTask_cache (s : RaceState) (t : Tid) (task : Task) :
    (s.setTask t task).cache = s.cache := rfl

end RaceState

/-- The system of all calls and invalidations. -/
def cacheRace : Sys RaceState RaceStep where
  step := RaceState.next

/-- No call returns a value whose resolution began before an invalidation that was complete when
the call started. -/
def NoStale (s : RaceState) : Prop :=
  ∀ t start began value, s.tasks t = .returned start began value → start ≤ began

/-- The step does not store a resolution that an invalidation overtook. -/
def StoresFresh (s : RaceState) : RaceStep → Prop
  | .store t => ∀ start began value, s.tasks t = .resolved start began value → began = s.epoch
  | _ => True

/-! ## What each step does -/

namespace RaceState

variable {s s' : RaceState} {t : Tid} {start began : Nat} {value : Option String}

theorem next_call (h : s.tasks t = .idle) :
    s.next (.call t) = some (s.setTask t (.called s.epoch)) := by
  simp only [next, h]

theorem next_hit {stored : Stored} (hc : s.cache = some stored) :
    (s.setTask t (.called start)).next (.read t) =
      some (s.setTask t (.returned start stored.began stored.value)) := by
  simp [next, hc]

theorem next_miss (hc : s.cache = none) :
    (s.setTask t (.called start)).next (.read t) = some (s.setTask t (.missed start)) := by
  simp [next, hc]

theorem next_chosen (name : String) :
    (s.setTask t (.missed start)).next (.resolve t (some name)) =
      some (s.setTask t (.resolved start s.epoch (some name))) := by
  simp [next]

theorem next_asking :
    (s.setTask t (.missed start)).next (.resolve t none) =
      some (s.setTask t (.asking start s.epoch)) := by
  simp [next]

theorem next_answer (reply : Except Error (Option String)) :
    (s.setTask t (.asking start began)).next (.answer t reply) =
      some (s.setTask t (.resolved start began (IppClient.orNothing reply))) := by
  cases reply <;> simp [next, IppClient.orNothing]

theorem next_store (h : s.tasks t = .resolved start began value) :
    s.next (.store t) =
      some ((s.setTask t (.returned start began value)).setCache ⟨value, began⟩) := by
  simp only [next, h]

theorem call_cases (h : s.next (.call t) = some s') :
    s.tasks t = .idle ∧ s' = s.setTask t (.called s.epoch) := by
  unfold next at h
  cases ht : s.tasks t with
  | idle =>
    simp only [ht, Option.some.injEq] at h
    exact ⟨rfl, h.symm⟩
  | _ => simp [ht] at h

theorem read_cases (h : s.next (.read t) = some s') :
    ∃ start, s.tasks t = .called start ∧
      ((∃ stored, s.cache = some stored ∧
          s' = s.setTask t (.returned start stored.began stored.value)) ∨
        s.cache = none ∧ s' = s.setTask t (.missed start)) := by
  unfold next at h
  cases ht : s.tasks t with
  | called start =>
    refine ⟨start, rfl, ?_⟩
    cases hc : s.cache with
    | some stored =>
      simp only [ht, hc, Option.some.injEq] at h
      exact .inl ⟨stored, rfl, h.symm⟩
    | none =>
      simp only [ht, hc, Option.some.injEq] at h
      exact .inr ⟨rfl, h.symm⟩
  | _ => simp [ht] at h

theorem resolve_cases {chosen : Option String} (h : s.next (.resolve t chosen) = some s') :
    ∃ start, s.tasks t = .missed start ∧
      ((∃ name, s' = s.setTask t (.resolved start s.epoch (some name))) ∨
        s' = s.setTask t (.asking start s.epoch)) := by
  unfold next at h
  cases ht : s.tasks t with
  | missed start =>
    refine ⟨start, rfl, ?_⟩
    cases chosen with
    | some name =>
      simp only [ht, Option.some.injEq] at h
      exact .inl ⟨name, h.symm⟩
    | none =>
      simp only [ht, Option.some.injEq] at h
      exact .inr h.symm
  | _ => simp [ht] at h

theorem answer_cases {reply : Except Error (Option String)}
    (h : s.next (.answer t reply) = some s') :
    ∃ start began value, s.tasks t = .asking start began ∧
      s' = s.setTask t (.resolved start began value) := by
  unfold next at h
  cases ht : s.tasks t with
  | asking start began =>
    cases reply with
    | ok name =>
      simp only [ht, Option.some.injEq] at h
      exact ⟨start, began, name, rfl, h.symm⟩
    | error e =>
      simp only [ht, Option.some.injEq] at h
      exact ⟨start, began, none, rfl, h.symm⟩
  | _ => simp [ht] at h

theorem store_cases (h : s.next (.store t) = some s') :
    ∃ start began value, s.tasks t = .resolved start began value ∧
      s' = (s.setTask t (.returned start began value)).setCache ⟨value, began⟩ := by
  unfold next at h
  cases ht : s.tasks t with
  | resolved start began value =>
    simp only [ht, Option.some.injEq] at h
    exact ⟨start, began, value, rfl, h.symm⟩
  | _ => simp [ht] at h

end RaceState

/-! ## The invariant -/

/-- What is known of a call in an epoch: it started by now, and its resolution began between its
start and now. -/
def TaskOk (epoch : Nat) : Task → Prop
  | .idle => True
  | .called start => start ≤ epoch
  | .missed start => start ≤ epoch
  | .asking start began => start ≤ began ∧ began ≤ epoch
  | .resolved start began _ => start ≤ began ∧ began ≤ epoch
  | .returned start began _ => start ≤ began

theorem TaskOk.mono {epoch epoch' : Nat} (hle : epoch ≤ epoch') {task : Task}
    (h : TaskOk epoch task) : TaskOk epoch' task := by
  cases task with
  | idle => trivial
  | returned start began value => exact h
  | called start | missed start => exact Nat.le_trans h hle
  | asking start began | resolved start began value => exact ⟨h.1, Nat.le_trans h.2 hle⟩

/-- The cache holds nothing that an invalidation overtook, and every call is in order. -/
structure RaceInv (s : RaceState) : Prop where
  cache : ∀ stored, s.cache = some stored → stored.began = s.epoch
  tasks : ∀ t, TaskOk s.epoch (s.tasks t)

namespace RaceInv

theorem start : RaceInv RaceState.start := ⟨fun _ h => (by cases h), fun _ => trivial⟩

/-- A step that only moves one call on. -/
theorem setTask {s : RaceState} (h : RaceInv s) {t : Tid} {task : Task}
    (ht : TaskOk s.epoch task) : RaceInv (s.setTask t task) := by
  refine ⟨h.cache, fun u => ?_⟩
  by_cases hu : u = t
  · subst hu
    rw [RaceState.setTask_self]
    exact ht
  · rw [s.setTask_ne task hu]
    exact h.tasks u

theorem noStale {s : RaceState} (h : RaceInv s) : NoStale s := by
  intro t start began value ht
  have hok := h.tasks t
  rw [ht] at hok
  exact hok

/-- **One step.** A step that stores nothing overtaken keeps the invariant. -/
theorem next {s s' : RaceState} {l : RaceStep} (h : RaceInv s) (hl : StoresFresh s l)
    (hs : s.next l = some s') : RaceInv s' := by
  cases l with
  | call t =>
    obtain ⟨-, rfl⟩ := RaceState.call_cases hs
    exact h.setTask (Nat.le_refl _)
  | read t =>
    obtain ⟨start, ht, ⟨stored, hc, rfl⟩ | ⟨-, rfl⟩⟩ := RaceState.read_cases hs
    · -- What a hit returns was resolved in the current epoch.
      have hok := h.tasks t
      rw [ht] at hok
      refine h.setTask ?_
      rw [h.cache stored hc]
      exact hok
    · have hok := h.tasks t
      rw [ht] at hok
      exact h.setTask hok
  | resolve t chosen =>
    obtain ⟨start, ht, ⟨name, rfl⟩ | rfl⟩ := RaceState.resolve_cases hs
    · have hok := h.tasks t
      rw [ht] at hok
      exact h.setTask ⟨hok, Nat.le_refl _⟩
    · have hok := h.tasks t
      rw [ht] at hok
      exact h.setTask ⟨hok, Nat.le_refl _⟩
  | answer t reply =>
    obtain ⟨start, began, value, ht, rfl⟩ := RaceState.answer_cases hs
    have hok := h.tasks t
    rw [ht] at hok
    exact h.setTask hok
  | store t =>
    obtain ⟨start, began, value, ht, rfl⟩ := RaceState.store_cases hs
    have hok := h.tasks t
    rw [ht] at hok
    have hset : RaceInv (s.setTask t (.returned start began value)) := h.setTask hok.1
    refine ⟨fun stored hc => ?_, hset.tasks⟩
    cases hc
    exact hl start began value ht
  | invalidate =>
    cases hs
    exact ⟨fun _ hc => (by cases hc), fun t => (h.tasks t).mono (Nat.le_succ _)⟩

end RaceInv

/-- **No invalidation is lost**, in any interleaving of any number of calls and invalidations whose
stores are all fresh: no state of the run has a call that returned a value resolved before an
invalidation that was complete when the call started. -/
theorem invalidation_kept (ls : List RaceStep)
    (h : cacheRace.Meets StoresFresh RaceState.start ls) :
    cacheRace.Throughout NoStale RaceState.start ls := by
  have hI : ∀ s l s', RaceInv s → StoresFresh s l → cacheRace.step s l = some s' → RaceInv s' :=
    fun _ _ _ hs hl hn => hs.next hl hn
  have hrun : cacheRace.Throughout RaceInv RaceState.start ls :=
    Sys.throughout_of_meets hI RaceInv.start h
  exact hrun.imp fun _ => RaceInv.noStale

/-- The condition is needed: what a call stores after an invalidation overtook it is returned by
the next call, which started after the invalidation. -/
theorem stale_store_returned {s : RaceState} {t u : Tid} {start began : Nat}
    {value : Option String} (ht : s.tasks t = .resolved start began value)
    (hold : began < s.epoch) (hu : s.tasks u = .idle) :
    ∃ s', cacheRace.exec s [.store t, .call u, .read u] = some s' ∧ ¬ NoStale s' := by
  have hne : u ≠ t := by
    intro e
    rw [e, ht] at hu
    cases hu
  let s₁ : RaceState := (s.setTask t (.returned start began value)).setCache ⟨value, began⟩
  have hc₁ : s₁.cache = some ⟨value, began⟩ := rfl
  have hu₁ : s₁.tasks u = .idle := (s.setTask_ne _ hne).trans hu
  have h₁ : cacheRace.step s (.store t) = some s₁ := RaceState.next_store ht
  have h₂ : cacheRace.step s₁ (.call u) = some (s₁.setTask u (.called s.epoch)) :=
    RaceState.next_call hu₁
  have h₃ : cacheRace.step (s₁.setTask u (.called s.epoch)) (.read u) =
      some (s₁.setTask u (.returned s.epoch began value)) := RaceState.next_hit hc₁
  refine ⟨_, by rw [Sys.exec_cons h₁, Sys.exec_cons h₂, Sys.exec_cons h₃]; rfl, fun h => ?_⟩
  have hle := h u s.epoch began value (RaceState.setTask_self _ _ _)
  omega

/-! Two schedules. In the first an invalidation comes before a call that resolves from `lpoptions`
and one that finds that in the cache; in the second it overtakes a call that is still asking the
server. -/

theorem invalidation_kept_first :
    cacheRace.Throughout NoStale RaceState.start
      [.invalidate, .call 0, .read 0, .resolve 0 (some "HP"), .store 0, .call 1, .read 1] := by
  refine invalidation_kept _ ?_
  refine Sys.meets_cons trivial rfl (Sys.meets_cons trivial rfl ?_)
  refine Sys.meets_cons trivial rfl (Sys.meets_cons trivial rfl ?_)
  refine Sys.meets_cons ?_ rfl (Sys.meets_cons trivial rfl (Sys.meets_cons trivial rfl trivial))
  intro start began value h
  cases h
  rfl

/-- The second call starts after the invalidation, and returns what was resolved before it. -/
theorem invalidation_lost :
    ¬ ∀ ls, cacheRace.Throughout NoStale RaceState.start ls := by
  intro h
  have hs := h [.call 0, .read 0, .resolve 0 none, .invalidate, .answer 0 (.ok (some "Old")),
    .store 0, .call 1, .read 1] _ List.prefix_rfl _ rfl
  have hle := hs 1 1 0 (some "Old") rfl
  omega

/-! ## A call that runs alone -/

section Solo

variable [IppCrate]

/-- The steps of a call that nothing interrupts, in a world and with what the cache holds. -/
def soloSteps (c : IppClient) (w : World) (past : List (Exchange Post Reply)) (t : Tid) :
    Cache → List RaceStep
  | some _ => [.call t, .read t]
  | none =>
    match w.lpoptions with
    | some chosen => [.call t, .read t, .resolve t (some chosen), .store t]
    | none =>
      [.call t, .read t, .resolve t none, .answer t (c.serverDefault w past none).result, .store t]

/-- **The steps are those of the code.** A call that runs alone returns what `default_printer`
returns, and leaves the cache that `default_printer` leaves. -/
theorem solo_run (c : IppClient) (w : World) (past : List (Exchange Post Reply)) {s : RaceState}
    {t : Tid} (ht : s.tasks t = .idle) :
    ∃ s' start began value,
      cacheRace.exec s (soloSteps c w past t (s.cache.map Stored.value)) = some s' ∧
      s'.tasks t = .returned start began value ∧
      (c.defaultPrinter w past (s.cache.map Stored.value)).result = .ok value ∧
      (c.defaultPrinter w past (s.cache.map Stored.value)).cell = s'.cache.map Stored.value := by
  have h₁ : cacheRace.step s (.call t) = some (s.setTask t (.called s.epoch)) :=
    RaceState.next_call ht
  cases hc : s.cache with
  | some stored =>
    have h₂ : cacheRace.step (s.setTask t (.called s.epoch)) (.read t) =
        some (s.setTask t (.returned s.epoch stored.began stored.value)) := RaceState.next_hit hc
    refine ⟨_, s.epoch, stored.began, stored.value, ?_, s.setTask_self t _, ?_, ?_⟩
    · rw [Option.map_some, soloSteps, Sys.exec_cons h₁, Sys.exec_cons h₂]
      rfl
    · rw [Option.map_some, IppClient.defaultPrinter_hit]
    · rw [Option.map_some, IppClient.defaultPrinter_hit, RaceState.setTask_cache, hc,
        Option.map_some]
  | none =>
    have h₂ : cacheRace.step (s.setTask t (.called s.epoch)) (.read t) =
        some (s.setTask t (.missed s.epoch)) := RaceState.next_miss hc
    -- The last step of a miss, whatever was resolved.
    have hstore : ∀ value, cacheRace.step (s.setTask t (.resolved s.epoch s.epoch value))
        (.store t) =
        some ((s.setTask t (.returned s.epoch s.epoch value)).setCache ⟨value, s.epoch⟩) := by
      intro value
      have h := RaceState.next_store (s.setTask_self t (.resolved s.epoch s.epoch value))
      rw [RaceState.setTask_setTask] at h
      exact h
    cases hl : w.lpoptions with
    | some chosen =>
      have h₃ : cacheRace.step (s.setTask t (.missed s.epoch)) (.resolve t (some chosen)) =
          some (s.setTask t (.resolved s.epoch s.epoch (some chosen))) :=
        RaceState.next_chosen chosen
      refine ⟨(s.setTask t (.returned s.epoch s.epoch (some chosen))).setCache ⟨some chosen, s.epoch⟩,
        s.epoch, s.epoch, some chosen, ?_, s.setTask_self t _, ?_, ?_⟩
      · simp only [Option.map_none, soloSteps, hl]
        rw [Sys.exec_cons h₁, Sys.exec_cons h₂, Sys.exec_cons h₃, Sys.exec_cons (hstore _)]
        rfl
      · rw [Option.map_none, IppClient.defaultPrinter_lpoptions hl]
      · rw [Option.map_none, IppClient.defaultPrinter_lpoptions hl]
        rfl
    | none =>
      have h₃ : cacheRace.step (s.setTask t (.missed s.epoch)) (.resolve t none) =
          some (s.setTask t (.asking s.epoch s.epoch)) := RaceState.next_asking
      have h₄ : cacheRace.step (s.setTask t (.asking s.epoch s.epoch))
          (.answer t (c.serverDefault w past none).result) =
          some (s.setTask t (.resolved s.epoch s.epoch
            (IppClient.orNothing (c.serverDefault w past none).result))) :=
        RaceState.next_answer _
      generalize hv : IppClient.orNothing (c.serverDefault w past none).result = value at h₄
      refine ⟨(s.setTask t (.returned s.epoch s.epoch value)).setCache ⟨value, s.epoch⟩, s.epoch,
        s.epoch, value, ?_, s.setTask_self t _, ?_, ?_⟩
      · simp only [Option.map_none, soloSteps, hl]
        rw [Sys.exec_cons h₁, Sys.exec_cons h₂, Sys.exec_cons h₃, Sys.exec_cons h₄,
          Sys.exec_cons (hstore _)]
        rfl
      · rw [Option.map_none, IppClient.defaultPrinter_server hl, hv]
      · rw [Option.map_none, IppClient.defaultPrinter_server hl, hv]
        rfl

end Solo

end Ipp
