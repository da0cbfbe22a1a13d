import IppClient.Base.Keyed
import IppClient.Model

/-!
# Snapshots and events (`events.rs`)

`Snapshot.diff` is the list of events that turn one snapshot into the next: the four loops of the
source, each over the entries of one snapshot with a lookup in the other. `backoffAfter` is the
retry delay; `none` is the panic of a `Duration` multiplication that overflows.

* `Snapshot.diff_eq`: the four loops, as the entries that are gone or fresh (`Keyed`).
* `Snapshot.mem_diff_jobRemoved`, `Snapshot.mem_diff_printerRemoved`: what is reported as gone.
* `Snapshot.diff_eq_nil_iff`: there is nothing to report when neither list has a change.
-/

namespace Ipp

open Base Keyed

/-- `events::PrinterEvent`. -/
inductive PrinterEvent where
  | jobAdded (job : Job)
  | jobChanged (job : Job)
  | jobRemoved (id : JobId)
  | printerChanged (printer : Printer)
  | printerRemoved (name : String)
  | resynchronised (printers : List Printer) (jobs : List Job)
  deriving DecidableEq

/-- `events::Snapshot`. -/
structure Snapshot where
  printers : List Printer
  jobs : List Job
  deriving DecidableEq

namespace Snapshot

/-- The first loop of `diff`: the jobs that are gone. -/
def removedJobs (old new : Snapshot) : List PrinterEvent :=
  old.jobs.filterMap fun job =>
    if !new.jobs.any fun j => j.id = job.id then some (.jobRemoved job.id) else none

/-- The second loop: the jobs that are new or differ from the first old job of their id. -/
def changedJobs (old new : Snapshot) : List PrinterEvent :=
  new.jobs.filterMap fun job =>
    match old.jobs.find? fun j => j.id = job.id with
    | none => some (.jobAdded job)
    | some previous => if previous ≠ job then some (.jobChanged job) else none

/-- The third loop: the printers that are gone. -/
def removedPrinters (old new : Snapshot) : List PrinterEvent :=
  old.printers.filterMap fun printer =>
    if !new.printers.any fun p => p.name = printer.name then some (.printerRemoved printer.name)
    else none

/-- The fourth loop: the printers that are new or changed. -/
def changedPrinters (old new : Snapshot) : List PrinterEvent :=
  new.printers.filterMap fun printer =>
    match old.printers.find? fun p => p.name = printer.name with
    | some previous => if previous = printer then none else some (.printerChanged printer)
    | none => some (.printerChanged printer)

/-- `Snapshot::diff`. -/
def diff (old new : Snapshot) : List PrinterEvent :=
  removedJobs old new ++ changedJobs old new ++ removedPrinters old new ++ changedPrinters old new

end Snapshot

/-- `events::POLL_INTERVAL`. -/
def pollInterval : Duration := .fromSecs 3

/-- `events::MAX_BACKOFF`. -/
def maxBackoff : Duration := .fromSecs 30

/-- `events::backoff_after`: doubles the retry delay, capped at 30 s. -/
def backoffAfter (previous : Duration) : Option Duration :=
  if previous.isZero then some (.fromSecs 1)
  else (previous.mul? 2).map fun d => d.min maxBackoff

/-! ## What `diff` reports -/

/-- The event carries a whole snapshot. -/
def PrinterEvent.IsResynchronised : PrinterEvent → Prop
  | .resynchronised _ _ => True
  | _ => False

namespace Snapshot

variable (old new : Snapshot)

theorem removedJobs_eq :
    removedJobs old new = (gone Job.id old.jobs new.jobs).map fun job => .jobRemoved job.id := by
  rw [gone, map_filter_eq_filterMap]
  rfl

theorem removedPrinters_eq :
    removedPrinters old new =
      (gone Printer.name old.printers new.printers).map fun p => .printerRemoved p.name := by
  rw [gone, map_filter_eq_filterMap]
  rfl

/-- The event for a job that is new or differs. -/
def jobEvent (old : Snapshot) (job : Job) : PrinterEvent :=
  if (old.jobs.find? fun j => j.id = job.id).isSome then .jobChanged job else .jobAdded job

/-- A new or changed job is reported as it is now, by one event or the other. -/
theorem jobEvent_cases (job : Job) :
    old.jobEvent job = .jobChanged job ∨ old.jobEvent job = .jobAdded job := by
  unfold jobEvent
  split
  · exact .inl rfl
  · exact .inr rfl

theorem changedJobs_eq :
    changedJobs old new = (fresh Job.id old.jobs new.jobs).map old.jobEvent := by
  rw [fresh, map_filter_eq_filterMap, changedJobs]
  congr 1
  funext job
  unfold jobEvent
  cases hf : old.jobs.find? fun j => j.id = job.id with
  | none => simp
  | some previous => simp

theorem changedPrinters_eq :
    changedPrinters old new =
      (fresh Printer.name old.printers new.printers).map .printerChanged := by
  rw [fresh, map_filter_eq_filterMap, changedPrinters]
  congr 1
  funext printer
  cases hf : old.printers.find? fun p => p.name = printer.name with
  | none => simp
  | some previous => simp

/-- The events of `diff`, as four lists. -/
theorem diff_eq :
    old.diff new =
      ((gone Job.id old.jobs new.jobs).map fun job => .jobRemoved job.id) ++
      (fresh Job.id old.jobs new.jobs).map old.jobEvent ++
      ((gone Printer.name old.printers new.printers).map fun p => .printerRemoved p.name) ++
      (fresh Printer.name old.printers new.printers).map .printerChanged := by
  rw [diff, removedJobs_eq, changedJobs_eq, removedPrinters_eq, changedPrinters_eq]

theorem diff_eq_nil_iff :
    old.diff new = [] ↔
      Keyed.diff Job.id old.jobs new.jobs = [] ∧
        Keyed.diff Printer.name old.printers new.printers = [] := by
  simp only [diff_eq, Keyed.diff, List.append_eq_nil_iff, List.map_eq_nil_iff, and_assoc]

/-- `diff` never carries a whole snapshot. -/
theorem diff_not_resynchronised {event : PrinterEvent} (h : event ∈ old.diff new) :
    ¬ event.IsResynchronised := by
  rw [diff_eq] at h
  simp only [List.mem_append, List.mem_map] at h
  obtain ((⟨_, _, rfl⟩ | ⟨job, _, rfl⟩) | ⟨_, _, rfl⟩) | ⟨_, _, rfl⟩ := h
  · exact id
  · obtain h | h := old.jobEvent_cases job <;> rw [h] <;> exact id
  · exact id
  · exact id

/-- A job that is present is not reported as removed, and no printer is. -/
theorem jobEvent_ne_removed (job : Job) :
    (∀ id, old.jobEvent job ≠ .jobRemoved id) ∧
      ∀ name, old.jobEvent job ≠ .printerRemoved name := by
  obtain h | h := old.jobEvent_cases job <;> rw [h] <;> simp

/-- A job is reported as gone exactly when its id is in the old snapshot and not in the new. -/
theorem mem_diff_jobRemoved {id : JobId} :
    .jobRemoved id ∈ old.diff new ↔ id ∈ old.jobs.map Job.id ∧ id ∉ new.jobs.map Job.id := by
  have h : ∀ job, old.jobEvent job ≠ .jobRemoved id := fun job => (old.jobEvent_ne_removed job).1 id
  rw [← mem_map_gone, diff_eq]
  simp [h]

/-- A queue is reported as gone exactly when its name is in the old snapshot and not in the new. -/
theorem mem_diff_printerRemoved {name : String} :
    .printerRemoved name ∈ old.diff new ↔
      name ∈ old.printers.map Printer.name ∧ name ∉ new.printers.map Printer.name := by
  have h : ∀ job, old.jobEvent job ≠ .printerRemoved name :=
    fun job => (old.jobEvent_ne_removed job).2 name
  rw [← mem_map_gone, diff_eq]
  simp [h]

end Snapshot

end Ipp
