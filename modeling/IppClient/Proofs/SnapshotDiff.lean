import IppClient.Proofs.Replay

/-!
# What `Snapshot::diff` says, and when it is quiet

`Replay` shows that the events of a diff bring a replica of the old snapshot to the new one. Here:
no event of it is too many, their order is the documented one, and there are none when nothing
changed.

* `PrinterEvent.jobIds`, `PrinterEvent.printerNames`: the entities an event mentions.
* `Replica.eq_diff_of_sublist`: a part of the events that brings the replica to the new snapshot is
  all of them.
* `diff_minimal`: **a diff is minimal and ordered**, between snapshots with distinct ids and names.
* `diff_self_iff`: **an unchanged server is quiet exactly when no two different entries of its
  snapshot have the same id or name.**
-/

namespace Ipp

open Base Keyed

namespace PrinterEvent

/-- The ids of the jobs an event mentions. -/
def jobIds : PrinterEvent → List JobId
  | .jobAdded job => [job.id]
  | .jobChanged job => [job.id]
  | .jobRemoved id => [id]
  | .resynchronised _ jobs => jobs.map Job.id
  | .printerChanged _ => []
  | .printerRemoved _ => []

/-- The names of the printers an event mentions. -/
def printerNames : PrinterEvent → List String
  | .printerChanged printer => [printer.name]
  | .printerRemoved name => [name]
  | .resynchronised printers _ => printers.map Printer.name
  | .jobAdded _ => []
  | .jobChanged _ => []
  | .jobRemoved _ => []

/-- The one event may come before the other: a removal of a job does not come after a job that is
new or changed, nor the removal of a printer after a printer that changed. -/
def Precedes : PrinterEvent → PrinterEvent → Prop
  | .jobAdded _, .jobRemoved _ => False
  | .jobChanged _, .jobRemoved _ => False
  | .printerChanged _, .printerRemoved _ => False
  | _, _ => True

end PrinterEvent

/-- The events say what changed from `old` to `new`, once, removals first, and nothing else. -/
structure Snapshot.Minimal (old new : Snapshot) (events : List PrinterEvent) : Prop where
  /-- Every job is mentioned at most once. -/
  jobs_once : (events.flatMap PrinterEvent.jobIds).Nodup
  /-- Every printer is mentioned at most once. -/
  printers_once : (events.flatMap PrinterEvent.printerNames).Nodup
  /-- A job that is the same in both is not mentioned. -/
  same_job : ∀ job ∈ old.jobs, job ∈ new.jobs → job.id ∉ events.flatMap PrinterEvent.jobIds
  /-- A printer that is the same in both is not mentioned. -/
  same_printer : ∀ printer ∈ old.printers, printer ∈ new.printers →
    printer.name ∉ events.flatMap PrinterEvent.printerNames
  /-- Removals come first. -/
  ordered : events.Pairwise PrinterEvent.Precedes
  /-- The events bring a consumer from `old` to `new`. -/
  replays : ∀ r : Replica, r.Mirrors old → (events.foldl Replica.apply r).Mirrors new
  /-- Without any one of them, they do not. -/
  needed : ∀ r : Replica, r.Mirrors old → ∀ i < events.length,
    ¬ ((events.eraseIdx i).foldl Replica.apply r).Mirrors new
  /-- There are none exactly when the two hold the same, in whatever order. -/
  quiet : events = [] ↔ old.jobs.Perm new.jobs ∧ old.printers.Perm new.printers

/-- Entries of the snapshot with the same id, or the same name, are the same entry. -/
structure Snapshot.Unambiguous (s : Snapshot) : Prop where
  jobs : ∀ j ∈ s.jobs, ∀ j' ∈ s.jobs, j.id = j'.id → j = j'
  printers : ∀ p ∈ s.printers, ∀ p' ∈ s.printers, p.name = p'.name → p = p'

/-! ## Events as changes -/

namespace PrinterEvent

variable {events : List PrinterEvent}

/-- The jobs that events mention are those their changes are about. -/
theorem flatMap_jobIds (h : ∀ event ∈ events, ¬ event.IsResynchronised) :
    events.flatMap jobIds = (events.filterMap jobChange).map (Change.about Job.id) := by
  refine flatMap_eq_map_filterMap fun event he => ?_
  cases event with
  | resynchronised printers jobs => exact absurd trivial (h _ he)
  | _ => rfl

/-- The printers that events mention are those their changes are about. -/
theorem flatMap_printerNames (h : ∀ event ∈ events, ¬ event.IsResynchronised) :
    events.flatMap printerNames =
      (events.filterMap printerChange).map (Change.about Printer.name) := by
  refine flatMap_eq_map_filterMap fun event he => ?_
  cases event with
  | resynchronised printers jobs => exact absurd trivial (h _ he)
  | _ => rfl

/-- Every event but a whole snapshot is one change of the jobs or one of the printers. -/
theorem length_changes (h : ∀ event ∈ events, ¬ event.IsResynchronised) :
    events.length =
      (events.filterMap jobChange).length + (events.filterMap printerChange).length := by
  induction events with
  | nil => rfl
  | cons event events ih =>
    have hn := h event List.mem_cons_self
    have hl := ih fun e he => h e (List.mem_cons_of_mem _ he)
    cases event with
    | resynchronised printers jobs => exact absurd trivial hn
    | _ =>
      simp only [List.filterMap_cons, jobChange, printerChange, List.length_cons, hl]
      omega

/-- An event that does not remove anything may come after any other. -/
theorem precedes_of_not_removed {e e' : PrinterEvent} (hj : ∀ id, e' ≠ .jobRemoved id)
    (hp : ∀ name, e' ≠ .printerRemoved name) : e.Precedes e' := by
  cases e' with
  | jobRemoved id => exact absurd rfl (hj id)
  | printerRemoved name => exact absurd rfl (hp name)
  | _ => cases e <;> exact trivial

end PrinterEvent

/-! ## Minimality -/

namespace Replica

variable {old new : Snapshot}

/-- A part of the events of a diff that brings a replica of the old snapshot to the new one is all
of them. -/
theorem eq_diff_of_sublist {r : Replica} (h : r.Mirrors old) (ho : old.Distinct)
    (hn : new.Distinct) {events : List PrinterEvent} (hs : events.Sublist (old.diff new))
    (hm : (events.foldl apply r).Mirrors new) : events = old.diff new := by
  have hall : ∀ event ∈ old.diff new, ¬ event.IsResynchronised :=
    fun _ he => old.diff_not_resynchronised new he
  have hpart : ∀ event ∈ events, ¬ event.IsResynchronised := fun e he => hall e (hs.subset he)
  rw [foldl_apply r hpart] at hm
  have hjobs : events.filterMap PrinterEvent.jobChange =
      (old.diff new).filterMap PrinterEvent.jobChange := by
    have hsub := hs.filterMap PrinterEvent.jobChange
    rw [old.diff_jobChanges new] at hsub ⊢
    exact Keyed.eq_diff_of_sublist h.jobs ho.jobs hn.jobs hsub hm.jobs
  have hprinters : events.filterMap PrinterEvent.printerChange =
      (old.diff new).filterMap PrinterEvent.printerChange := by
    have hsub := hs.filterMap PrinterEvent.printerChange
    rw [old.diff_printerChanges new] at hsub ⊢
    exact Keyed.eq_diff_of_sublist h.printers ho.printers hn.printers hsub hm.printers
  refine hs.eq_of_length ?_
  rw [PrinterEvent.length_changes hpart, PrinterEvent.length_changes hall, hjobs, hprinters]

end Replica

namespace Snapshot

variable (old new : Snapshot)

theorem diff_jobIds :
    (old.diff new).flatMap PrinterEvent.jobIds =
      (Keyed.diff Job.id old.jobs new.jobs).map (Change.about Job.id) := by
  rw [PrinterEvent.flatMap_jobIds fun _ he => old.diff_not_resynchronised new he,
    old.diff_jobChanges new]

theorem diff_printerNames :
    (old.diff new).flatMap PrinterEvent.printerNames =
      (Keyed.diff Printer.name old.printers new.printers).map (Change.about Printer.name) := by
  rw [PrinterEvent.flatMap_printerNames fun _ he => old.diff_not_resynchronised new he,
    old.diff_printerChanges new]

/-- The removals of each kind come before the other events of that kind. -/
theorem diff_ordered : (old.diff new).Pairwise PrinterEvent.Precedes := by
  have hjob : ∀ (e : PrinterEvent) job, e.Precedes (old.jobEvent job) := by
    intro e job
    obtain ⟨hj, hp⟩ := old.jobEvent_ne_removed job
    exact PrinterEvent.precedes_of_not_removed hj hp
  have hprinter : ∀ (e : PrinterEvent) printer, e.Precedes (.printerChanged printer) := by
    intro e printer
    apply PrinterEvent.precedes_of_not_removed <;> simp
  -- A printer's removal may come after all events that are about jobs.
  have hremoved : ∀ job name, (old.jobEvent job).Precedes (.printerRemoved name) := by
    intro job name
    obtain h | h := old.jobEvent_cases job <;> rw [h] <;> exact trivial
  simp only [diff_eq, List.pairwise_append, List.pairwise_map, List.mem_append, List.mem_map]
  refine ⟨⟨⟨?_, ?_, ?_⟩, ?_, ?_⟩, ?_, ?_⟩
  · exact List.pairwise_of_forall fun _ _ => trivial
  · exact List.pairwise_of_forall fun _ _ => hjob _ _
  · rintro e - _ ⟨job, -, rfl⟩
    exact hjob e job
  · exact List.pairwise_of_forall fun _ _ => trivial
  · rintro _ (⟨job, -, rfl⟩ | ⟨job, -, rfl⟩) _ ⟨printer, -, rfl⟩
    · exact trivial
    · exact hremoved job printer.name
  · exact List.pairwise_of_forall fun _ _ => hprinter _ _
  · rintro e - _ ⟨printer, -, rfl⟩
    exact hprinter e printer

end Snapshot

/-- **`Snapshot::diff` is minimal and ordered**, between any two snapshots with distinct job ids
and printer names. -/
theorem diff_minimal {old new : Snapshot} (ho : old.Distinct) (hn : new.Distinct) :
    Snapshot.Minimal old new (old.diff new) where
  jobs_once := by
    rw [Snapshot.diff_jobIds]
    exact nodup_about_diff ho.jobs hn.jobs
  printers_once := by
    rw [Snapshot.diff_printerNames]
    exact nodup_about_diff ho.printers hn.printers
  same_job job h h' := by
    rw [Snapshot.diff_jobIds]
    exact not_mem_about_diff ho.jobs hn.jobs h h'
  same_printer printer h h' := by
    rw [Snapshot.diff_printerNames]
    exact not_mem_about_diff ho.printers hn.printers h h'
  ordered := old.diff_ordered new
  replays _ hr := hr.diff hn
  needed r hr i hi hm := by
    have he := Replica.eq_diff_of_sublist hr ho hn (List.eraseIdx_sublist _ i) hm
    have hl := congrArg List.length he
    rw [List.length_eraseIdx_of_lt hi] at hl
    omega
  quiet := by
    rw [Snapshot.diff_eq_nil_iff, diff_eq_nil_iff_perm ho.jobs hn.jobs,
      diff_eq_nil_iff_perm ho.printers hn.printers]

/-- The queue `HP` with the job 1, and then `HP` as it was with the job 2 in its place. -/
theorem diff_minimal_replacedJob :
    Snapshot.Minimal ⟨[plainPrinter "HP" .idle], [plainJob 1 .pending]⟩
      ⟨[plainPrinter "HP" .idle], [plainJob 2 .pending]⟩
      [.jobRemoved 1, .jobAdded (plainJob 2 .pending)] :=
  diff_minimal ⟨by decide, by decide⟩ ⟨by decide, by decide⟩

/-! ## An unchanged server -/

/-- **When an unchanged server is quiet.** For every pair of replies: the snapshot decoded from
them does not differ from itself exactly when its entries with the same id, or the same name, are
equal. -/
theorem diff_self_iff (printers jobs : IppRequestResponse) (default : Option String) :
    (Snapshot.mk (decodePrinters printers default) (decodeJobs jobs)).diff
        ⟨decodePrinters printers default, decodeJobs jobs⟩ = [] ↔
      Snapshot.Unambiguous ⟨decodePrinters printers default, decodeJobs jobs⟩ := by
  rw [Snapshot.diff_eq_nil_iff, diff_self_eq_nil_iff, diff_self_eq_nil_iff]
  exact ⟨fun h => ⟨h.1, h.2⟩, fun h => ⟨h.jobs, h.printers⟩⟩

/-- A pending job of a queue. -/
def pendingJob (id : JobId) (queue : String) : IppAttributeGroup :=
  ⟨.jobAttributes,
    [⟨"job-id", .integer id⟩, ⟨"job-state", .enum 3⟩,
      ⟨"job-printer-uri", .uri s!"ipp://localhost/printers/{queue}"⟩]⟩

/-- A reply with the job 1 of the queue `HP` and the job 1 of the queue `Brother`. -/
def sameIdTwice : IppRequestResponse := ⟨0, [pendingJob 1 "HP", pendingJob 1 "Brother"], []⟩

/-- Nothing changes, and the job of the second queue is reported as changed. -/
theorem sameIdTwice_not_quiet :
    ¬ ∀ (printers jobs : IppRequestResponse) (default : Option String),
      (Snapshot.mk (decodePrinters printers default) (decodeJobs jobs)).diff
        ⟨decodePrinters printers default, decodeJobs jobs⟩ = [] := by
  intro h
  have hq := h ⟨0, [], []⟩ sameIdTwice none
  revert hq
  decide

end Ipp
