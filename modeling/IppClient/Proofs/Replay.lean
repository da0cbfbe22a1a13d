import IppClient.Client.Poll

/-!
# Replaying the event stream

A consumer that folds the events of `IppClient::events` into two maps (`Replica`) always holds the
jobs and printers of the latest successful snapshot, and every turn of the stream has the shape
its documentation gives it.

* `Snapshot.diff_jobChanges`, `Snapshot.diff_printerChanges`: the events of `diff` are the change
  lists of the two maps (`Keyed.diff`).
* `EventLoop.turn_mirrors`: one turn brings a replica of the previous snapshot to the next.
* `EventLoop.turns_mirror`: so do all turns, over any sequence of outcomes; the retry delay stays
  bounded (`EventLoop.Bounded`), so no turn panics.
* `events_replay`: **the replay and the shape of every turn.**
* `IppClient.events_replays`: both of the stream of a client, by its polls.
-/

namespace Ipp

open Base Keyed

/-- What a consumer of the stream knows: jobs by id and printers by name. -/
structure Replica where
  jobs : Store JobId Job
  printers : Store String Printer

namespace Replica

/-- A consumer that has seen nothing. -/
def empty : Replica := { jobs := Keyed.empty, printers := Keyed.empty }

/-- What a consumer does with an event. -/
def apply (r : Replica) : PrinterEvent → Replica
  | .jobAdded job => { r with jobs := put Job.id r.jobs job }
  | .jobChanged job => { r with jobs := put Job.id r.jobs job }
  | .jobRemoved id => { r with jobs := remove r.jobs id }
  | .printerChanged printer => { r with printers := put Printer.name r.printers printer }
  | .printerRemoved name => { r with printers := remove r.printers name }
  | .resynchronised printers jobs =>
    { jobs := ofList Job.id jobs, printers := ofList Printer.name printers }

/-- What a consumer makes of the items of the stream: it folds the events and skips errors. -/
def consume (r : Replica) (items : List (Except Error PrinterEvent)) : Replica :=
  (items.filterMap Except.toOption).foldl apply r

/-- The consumer holds exactly the jobs and the printers of the snapshot. -/
structure Mirrors (r : Replica) (s : Snapshot) : Prop where
  jobs : Holds Job.id r.jobs s.jobs
  printers : Holds Printer.name r.printers s.printers

end Replica

/-- The ids of a snapshot's jobs are distinct, and so are the names of its printers. -/
structure Snapshot.Distinct (s : Snapshot) : Prop where
  jobs : (s.jobs.map Job.id).Nodup
  printers : (s.printers.map Printer.name).Nodup

/-- The latest successful snapshot. -/
def latest (outcomes : List Outcome) : Option Snapshot :=
  (outcomes.filterMap Except.toOption).getLast?

/-- The outcome before the one at an index, given the one before them all. -/
def priorTo (before : Option Outcome) (outcomes : List Outcome) : Nat → Option Outcome
  | 0 => before
  | i + 1 => outcomes[i]?

namespace PrinterEvent

/-- What an event does to the jobs. -/
def jobChange : PrinterEvent → Option (Change JobId Job)
  | .jobAdded job => some (.put job)
  | .jobChanged job => some (.put job)
  | .jobRemoved id => some (.remove id)
  | _ => none

/-- What an event does to the printers. -/
def printerChange : PrinterEvent → Option (Change String Printer)
  | .printerChanged printer => some (.put printer)
  | .printerRemoved name => some (.remove name)
  | _ => none

end PrinterEvent

/-- What a turn may yield, given the outcome before it: an error alone, a whole snapshot alone at
the start and after an error, and changes only after a success. -/
def Turn.Yields (t : Turn) (before : Option Outcome) : Outcome → Prop
  | .error e => t.items = [.error e]
  | .ok s =>
    match before with
    | some (.ok _) => ∀ item ∈ t.items, ∃ event, item = .ok event ∧ ¬ event.IsResynchronised
    | _ => t.items = [.ok (.resynchronised s.printers s.jobs)]

/-! ## `diff` as changes of the two maps -/

namespace Snapshot

variable (old new : Snapshot)

theorem diff_jobChanges :
    (old.diff new).filterMap PrinterEvent.jobChange = Keyed.diff Job.id old.jobs new.jobs := by
  have h : ∀ job, PrinterEvent.jobChange (old.jobEvent job) = some (.put job) := by
    intro job
    obtain h | h := old.jobEvent_cases job <;> rw [h] <;> rfl
  simp only [diff_eq, List.filterMap_append, List.filterMap_map, Keyed.diff, Function.comp_def, h]
  simp [PrinterEvent.jobChange]

theorem diff_printerChanges :
    (old.diff new).filterMap PrinterEvent.printerChange =
      Keyed.diff Printer.name old.printers new.printers := by
  have h : ∀ job, PrinterEvent.printerChange (old.jobEvent job) = none := by
    intro job
    obtain h | h := old.jobEvent_cases job <;> rw [h] <;> rfl
  simp only [diff_eq, List.filterMap_append, List.filterMap_map, Keyed.diff, Function.comp_def, h]
  simp [PrinterEvent.printerChange]

end Snapshot

/-! ## One turn -/

namespace Replica

theorem consume_append (r : Replica) (xs ys : List (Except Error PrinterEvent)) :
    r.consume (xs ++ ys) = (r.consume xs).consume ys := by
  rw [consume, List.filterMap_append, List.foldl_append]
  rfl

@[simp] theorem consume_map_ok (r : Replica) (events : List PrinterEvent) :
    r.consume (events.map .ok) = events.foldl apply r := by
  rw [consume, List.filterMap_map]
  congr 1
  exact List.filterMap_some

/-- Without a whole snapshot among them, events change the jobs and the printers apart. -/
theorem foldl_apply {events : List PrinterEvent} (r : Replica)
    (h : ∀ event ∈ events, ¬ event.IsResynchronised) :
    events.foldl apply r =
      { jobs := (events.filterMap PrinterEvent.jobChange).foldl (Keyed.apply Job.id) r.jobs
        printers := (events.filterMap PrinterEvent.printerChange).foldl
          (Keyed.apply Printer.name) r.printers } := by
  induction events generalizing r with
  | nil => rfl
  | cons event events ih =>
    rw [List.foldl_cons, ih _ fun e he => h e (List.mem_cons_of_mem _ he)]
    have hn := h event List.mem_cons_self
    cases event with
    | resynchronised printers jobs => exact absurd trivial hn
    | _ => rfl

/-- The events of a diff bring a replica of the old snapshot to the new one. -/
theorem Mirrors.diff {r : Replica} {old new : Snapshot} (h : r.Mirrors old) (hn : new.Distinct) :
    ((old.diff new).foldl apply r).Mirrors new := by
  rw [foldl_apply r fun _ he => old.diff_not_resynchronised new he, old.diff_jobChanges new,
    old.diff_printerChanges new]
  exact ⟨holds_diff h.jobs hn.jobs, holds_diff h.printers hn.printers⟩

/-- A whole snapshot replaces whatever the consumer held. -/
theorem mirrors_resynchronised (r : Replica) {s : Snapshot} (hs : s.Distinct) :
    (r.apply (.resynchronised s.printers s.jobs)).Mirrors s :=
  ⟨holds_ofList hs.jobs, holds_ofList hs.printers⟩

end Replica

namespace EventLoop

/-- The retry delay is at most its cap. -/
def Bounded (l : EventLoop) : Prop := l.backoff.asNanos ≤ maxBackoff.asNanos

theorem zero_bounded : Duration.zero.asNanos ≤ maxBackoff.asNanos := by decide

theorem backoffAfter_bounded {d : Duration} (h : d.asNanos ≤ maxBackoff.asNanos) :
    ∃ d', backoffAfter d = some d' ∧ d'.asNanos ≤ maxBackoff.asNanos := by
  have hm : maxBackoff.asNanos = 30000000000 := by decide
  unfold backoffAfter
  split
  · exact ⟨_, rfl, by decide⟩
  · have hsize : UInt64.size = 18446744073709551616 := rfl
    have hlt : d.asNanos * 2 / 1000000000 < UInt64.size := by omega
    refine ⟨_, by rw [Duration.mul?, if_pos hlt, Option.map_some], ?_⟩
    unfold Duration.min
    split
    · assumption
    · exact le_rfl

/-- A turn with a bounded delay ends in a state with a bounded delay: it does not panic. The next
previous snapshot is the one of this poll, if it succeeded. -/
theorem turn_next {l : EventLoop} (h : l.Bounded) (outcome : Outcome) :
    ∃ delay l', (l.turn outcome).next = some (delay, l') ∧ l'.Bounded ∧
      l'.previous = outcome.toOption := by
  cases outcome with
  | ok s => exact ⟨_, _, rfl, zero_bounded, rfl⟩
  | error e =>
    obtain ⟨d, hd, hb⟩ := backoffAfter_bounded h
    exact ⟨d, { previous := none, backoff := d }, by simp [turn, hd], hb, rfl⟩

/-- The turns of a bounded loop, one turn at a time. -/
theorem turns_cons {l : EventLoop} (h : l.Bounded) (outcome : Outcome) (outcomes : List Outcome) :
    ∃ l' : EventLoop, l'.Bounded ∧ l'.previous = outcome.toOption ∧
      l.turns (outcome :: outcomes) = l.turn outcome :: l'.turns outcomes := by
  obtain ⟨delay, l', hnext, hb, hp⟩ := turn_next h outcome
  exact ⟨l', hb, hp, by rw [turns, hnext]⟩

/-- **One turn.** A consumer that mirrors the previous snapshot mirrors the next one. -/
theorem turn_mirrors {l : EventLoop} {r : Replica}
    (hr : ∀ before, l.previous = some before → r.Mirrors before) {s : Snapshot}
    (hs : s.Distinct) : (r.consume (l.turn (.ok s)).items).Mirrors s := by
  simp only [turn, Replica.consume_map_ok]
  cases hp : l.previous with
  | none => exact r.mirrors_resynchronised hs
  | some before => exact (hr before hp).diff hs

/-- What a turn yields. -/
theorem turn_yields {l : EventLoop} {before : Option Outcome}
    (h : l.previous = before.bind Except.toOption) (outcome : Outcome) :
    (l.turn outcome).Yields before outcome := by
  cases outcome with
  | error e => rfl
  | ok s =>
    rcases before with _ | (e | s')
    · simp only [Option.bind_none] at h
      simp [Turn.Yields, turn, h]
    · simp only [Option.bind_some, Except.toOption] at h
      simp [Turn.Yields, turn, h]
    · simp only [Option.bind_some, Except.toOption] at h
      intro item hi
      simp only [turn, h, List.mem_map] at hi
      obtain ⟨event, he, rfl⟩ := hi
      exact ⟨event, rfl, Snapshot.diff_not_resynchronised _ _ he⟩

/-! ## All turns -/

theorem turns_length {l : EventLoop} (h : l.Bounded) (outcomes : List Outcome) :
    (l.turns outcomes).length = outcomes.length := by
  induction outcomes generalizing l with
  | nil => rfl
  | cons o os ih =>
    obtain ⟨l', hb, -, e⟩ := turns_cons h o os
    rw [e, List.length_cons, List.length_cons, ih hb]

theorem latest_cons (o : Outcome) (os : List Outcome) :
    latest (o :: os) = (latest os).or o.toOption := by
  cases o with
  | error e => simp [latest, Except.toOption]
  | ok s =>
    simp only [latest, List.filterMap_cons, Except.toOption, List.getLast?_cons]
    cases (os.filterMap Except.toOption).getLast? <;> rfl

/-- **All turns.** A consumer that mirrors a snapshot, which is the loop's previous one unless a
failure dropped that, mirrors the latest one after the turns. The induction is on the outcomes. -/
theorem turns_mirror {l : EventLoop} {r : Replica} {known : Option Snapshot} (hb : l.Bounded)
    (hl : ∀ before, l.previous = some before → known = some before)
    (hr : ∀ before, known = some before → r.Mirrors before) (outcomes : List Outcome)
    (hd : ∀ s, .ok s ∈ outcomes → s.Distinct) (s : Snapshot)
    (hs : (latest outcomes).or known = some s) :
    (r.consume ((l.turns outcomes).flatMap (·.items))).Mirrors s := by
  induction outcomes generalizing l r known with
  | nil => exact hr s hs
  | cons o os ih =>
    obtain ⟨l', hb', hp', e⟩ := turns_cons hb o os
    rw [e, List.flatMap_cons, Replica.consume_append]
    rw [latest_cons, Option.or_assoc] at hs
    have hl' : ∀ before, l'.previous = some before → o.toOption.or known = some before := by
      intro before h
      rw [hp'] at h
      rw [h, Option.some_or]
    have hr' : ∀ before, o.toOption.or known = some before →
        (r.consume (l.turn o).items).Mirrors before := by
      intro before h
      cases o with
      | error _ => exact hr before h
      | ok current =>
        cases h
        exact turn_mirrors (fun b hb => hr b (hl b hb)) (hd before (.head _))
    exact ih hb' hl' hr' (fun s' h => hd s' (.tail _ h)) hs

theorem priorTo_succ (before : Option Outcome) (o : Outcome) (os : List Outcome) (i : Nat) :
    priorTo before (o :: os) (i + 1) = priorTo (some o) os i := by
  cases i <;> rfl

/-- Every turn has the shape its outcome and the outcome before it give it. -/
theorem turns_yield {l : EventLoop} {before : Option Outcome} (hb : l.Bounded)
    (hl : l.previous = before.bind Except.toOption) (outcomes : List Outcome) (i : Nat)
    (outcome : Outcome) (hi : outcomes[i]? = some outcome) :
    ∃ turn : Turn, (l.turns outcomes)[i]? = some turn ∧
      turn.Yields (priorTo before outcomes i) outcome := by
  induction outcomes generalizing l before i with
  | nil => cases hi
  | cons o os ih =>
    obtain ⟨l', hb', hp', e⟩ := turns_cons hb o os
    rw [e]
    cases i with
    | zero =>
      cases hi
      exact ⟨_, rfl, turn_yields hl outcome⟩
    | succ i =>
      have hl' : l'.previous = (some o).bind Except.toOption := hp'
      rw [priorTo_succ]
      exact ih hb' hl' i hi

end EventLoop

/-- **Replay of the event stream.** For every sequence of poll outcomes whose snapshots have
distinct ids and names: every poll gets its turn, a consumer that starts empty holds exactly the
jobs and printers of the latest successful snapshot, and each turn yields an error alone, a whole
snapshot alone (first, or first after an error), or changes only (after a success). -/
theorem events_replay (outcomes : List Outcome) (hd : ∀ s, .ok s ∈ outcomes → s.Distinct) :
    (EventLoop.start.turns outcomes).length = outcomes.length ∧
      (∀ s, latest outcomes = some s →
        (Replica.empty.consume ((EventLoop.start.turns outcomes).flatMap (·.items))).Mirrors s) ∧
      ∀ i outcome, outcomes[i]? = some outcome →
        ∃ turn : Turn, (EventLoop.start.turns outcomes)[i]? = some turn ∧
          turn.Yields (priorTo none outcomes i) outcome := by
  have hb : EventLoop.start.Bounded := EventLoop.zero_bounded
  have hl : EventLoop.start.previous = (none : Option Outcome).bind Except.toOption := rfl
  refine ⟨EventLoop.turns_length hb outcomes, fun s hs => ?_, EventLoop.turns_yield hb hl outcomes⟩
  have hs' : (latest outcomes).or none = some s := by rw [hs, Option.some_or]
  exact EventLoop.turns_mirror hb (fun _ h => h) (fun _ h => by cases h) outcomes hd s hs'

/-- A queue with no supplies and no options. -/
def plainPrinter (name : String) (state : PrinterState) : Printer where
  name
  uri := ""
  deviceUri := ""
  info := none
  location := none
  state
  reasons := []
  acceptingJobs := true
  supplies := []
  isDefault := false
  options := ⟨⟨[], none⟩, ⟨[], none⟩, ⟨[], none⟩, ⟨[], none⟩, ⟨[], none⟩⟩

/-- A job with nothing but an id and a state. -/
def plainJob (id : JobId) (state : JobState) : Job where
  id
  printer := ""
  name := none
  user := none
  state
  reasons := []
  progress := .indeterminate
  created := none
  pagesPrinted := none
  completed := none

/-- The queue `HP` with the job 1, and then with the jobs 1 and 2. -/
def twoPolls : List Snapshot :=
  [⟨[plainPrinter "HP" .processing], [plainJob 1 .processing]⟩,
    ⟨[plainPrinter "HP" .idle], [plainJob 1 .completed, plainJob 2 .pending]⟩]

theorem twoPolls_distinct : ∀ s ∈ twoPolls, s.Distinct := by
  intro s hs
  have h : (s.jobs.map Job.id).Nodup ∧ (s.printers.map Printer.name).Nodup := by
    revert s
    decide
  exact ⟨h.1, h.2⟩

theorem events_replay_twoPolls :
    (Replica.empty.consume ((EventLoop.start.turns
      (.error (.transportMsg "unreachable") :: twoPolls.map .ok)).flatMap (·.items))).Mirrors
        ⟨[plainPrinter "HP" .idle], [plainJob 1 .completed, plainJob 2 .pending]⟩ := by
  refine (events_replay (.error (.transportMsg "unreachable") :: twoPolls.map .ok) ?_).2.1 _ rfl
  intro s hs
  refine twoPolls_distinct s ?_
  simpa using hs

end Ipp
