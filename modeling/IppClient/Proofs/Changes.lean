import IppClient.Proofs.SnapshotDiff
import IppClient.Proofs.Removal

/-!
# No change is missed

A consumer of the event stream that only looks at the jobs and queues that events mention misses
nothing: what differs between any two snapshots of the stream, however many polls lie between them
and however many of those failed, was mentioned by an event on the way, or the consumer was given a
whole snapshot. Only the first of the two must tell the entries apart by their ids and names: of
two jobs with one id, `diff` does not see that one is gone.

* `EventLoop.turns_tell`: the argument, for any kind of change that can be split.
* `changes_reported`: **every change between two snapshots of a stream is reported on the way.**
-/

namespace Ipp

open Base Keyed

namespace PrinterEvent

/-- The event tells a consumer about the job: it mentions it, or it is a whole snapshot. -/
def TellsOfJob (id : JobId) (event : PrinterEvent) : Prop :=
  event.IsResynchronised ∨ id ∈ event.jobIds

/-- The event tells a consumer about the queue. -/
def TellsOfPrinter (name : String) (event : PrinterEvent) : Prop :=
  event.IsResynchronised ∨ name ∈ event.printerNames

end PrinterEvent

/-- `diff` mentions every job that came up or is gone. -/
theorem Snapshot.diff_tellsOfJob {old new : Snapshot} {id : JobId}
    (h : Noted Job.id old.jobs new.jobs id) : ∃ event ∈ old.diff new, event.TellsOfJob id := by
  have hmem := h.mem_about_diff
  rw [← old.diff_jobIds new] at hmem
  obtain ⟨event, he, hid⟩ := List.mem_flatMap.mp hmem
  exact ⟨event, he, .inr hid⟩

/-- `diff` mentions every queue that came up or is gone. -/
theorem Snapshot.diff_tellsOfPrinter {old new : Snapshot} {name : String}
    (h : Noted Printer.name old.printers new.printers name) :
    ∃ event ∈ old.diff new, event.TellsOfPrinter name := by
  have hmem := h.mem_about_diff
  rw [← old.diff_printerNames new] at hmem
  obtain ⟨event, he, hname⟩ := List.mem_flatMap.mp hmem
  exact ⟨event, he, .inr hname⟩

/-! ## Along a stream -/

/-- The turn yields an event that tells. -/
def Turn.Tells (tells : PrinterEvent → Prop) (t : Turn) : Prop :=
  ∃ event, .ok event ∈ t.items ∧ tells event

namespace EventLoop

/-- A kind of change that `diff` reports, and that is made on one half of the way or on the
other. -/
structure Reported (change : Snapshot → Snapshot → Prop) (tells : PrinterEvent → Prop) : Prop where
  via : ∀ {old new} mid, change old new → change old mid ∨ change mid new
  diff : ∀ {old new : Snapshot}, change old new → ∃ event ∈ old.diff new, tells event
  whole : ∀ {event : PrinterEvent}, event.IsResynchronised → tells event

theorem reported_job (id : JobId) :
    Reported (fun old new => Noted Job.id old.jobs new.jobs id) (PrinterEvent.TellsOfJob id) where
  via _ h := h.via
  diff := Snapshot.diff_tellsOfJob
  whole := .inl

theorem reported_printer (name : String) :
    Reported (fun old new => Noted Printer.name old.printers new.printers name)
      (PrinterEvent.TellsOfPrinter name) where
  via _ h := h.via
  diff := Snapshot.diff_tellsOfPrinter
  whole := .inl

variable {change : Snapshot → Snapshot → Prop} {tells : PrinterEvent → Prop}

/-- **One turn.** A turn that starts the consumer over tells, and so does one at which the change
is made. -/
theorem turn_tells (hr : Reported change tells) {l : EventLoop} {s : Snapshot}
    (h : ∀ before, l.previous = some before → change before s) : (l.turn (.ok s)).Tells tells := by
  cases hp : l.previous with
  | none =>
    have hitems : (l.turn (.ok s)).items = [.ok (.resynchronised s.printers s.jobs)] := by
      simp [turn, hp]
    have hwhole : (PrinterEvent.resynchronised s.printers s.jobs).IsResynchronised := trivial
    exact ⟨_, hitems ▸ List.mem_singleton.mpr rfl, hr.whole hwhole⟩
  | some before =>
    obtain ⟨event, he, ht⟩ := hr.diff (h before hp)
    have hitems : (l.turn (.ok s)).items = (before.diff s).map .ok := by simp [turn, hp]
    exact ⟨event, hitems ▸ List.mem_map_of_mem he, ht⟩

/-- **All turns up to the second snapshot.** The induction is on the outcomes; the change is split
at each snapshot on the way, and a failure on the way leads to a whole snapshot. -/
theorem turns_tell (hr : Reported change tells) {l : EventLoop} (hb : l.Bounded)
    {outcomes : List Outcome} {j : Nat} {s : Snapshot} (hj : outcomes[j]? = some (.ok s))
    (h : ∀ before, l.previous = some before → change before s) :
    ∃ k ≤ j, ∃ t, (l.turns outcomes)[k]? = some t ∧ t.Tells tells := by
  induction outcomes generalizing l j with
  | nil => cases hj
  | cons o os ih =>
    obtain ⟨l', hb', hprev, hturns⟩ := turns_cons hb o os
    rw [hturns]
    have hlater : (∃ j', j = j' + 1 ∧ os[j']? = some (.ok s)) →
        (∀ before, l'.previous = some before → change before s) →
        ∃ k ≤ j, ∃ t, (l.turn o :: l'.turns os)[k]? = some t ∧ t.Tells tells := by
      rintro ⟨j', rfl, hj'⟩ h'
      obtain ⟨k, hk, t, ht, htells⟩ := ih hb' hj' h'
      exact ⟨k + 1, Nat.succ_le_succ hk, t, ht, htells⟩
    cases j with
    | zero =>
      cases hj
      exact ⟨0, Nat.le_refl 0, _, rfl, turn_tells hr h⟩
    | succ j =>
      cases o with
      | error e =>
        refine hlater ⟨j, rfl, hj⟩ fun before hp => ?_
        rw [hprev] at hp
        cases hp
      | ok mid =>
        by_cases hmid : change mid s
        · refine hlater ⟨j, rfl, hj⟩ fun before hp => ?_
          rw [hprev] at hp
          cases hp
          exact hmid
        · -- What is not made after `mid` was made up to it.
          have hfirst : ∀ before, l.previous = some before → change before mid := fun before hp =>
            (hr.via mid (h before hp)).resolve_right hmid
          exact ⟨0, Nat.zero_le _, _, rfl, turn_tells hr hfirst⟩

/-- The turns after a turn are those of a loop that has its snapshot. -/
theorem turns_drop {l : EventLoop} (hb : l.Bounded) {outcomes : List Outcome} {i : Nat}
    {o : Outcome} (hi : outcomes[i]? = some o) :
    ∃ l' : EventLoop, l'.Bounded ∧ l'.previous = o.toOption ∧
      (l.turns outcomes).drop (i + 1) = l'.turns (outcomes.drop (i + 1)) := by
  induction outcomes generalizing l i with
  | nil => cases hi
  | cons o' os ih =>
    obtain ⟨l', hb', hprev, hturns⟩ := turns_cons hb o' os
    rw [hturns]
    cases i with
    | zero =>
      cases hi
      exact ⟨l', hb', hprev, rfl⟩
    | succ i => exact ih hb' hi

/-- Between any two snapshots of a stream, a turn tells of what changed. -/
theorem turns_tell_between (hr : Reported change tells) {l : EventLoop} (hb : l.Bounded)
    {outcomes : List Outcome} {i j : Nat} {s s' : Snapshot} (hij : i < j)
    (hi : outcomes[i]? = some (.ok s)) (hj : outcomes[j]? = some (.ok s')) (h : change s s') :
    ∃ k, i < k ∧ k ≤ j ∧ ∃ t, (l.turns outcomes)[k]? = some t ∧ t.Tells tells := by
  obtain ⟨l', hb', hprev, hdrop⟩ := turns_drop hb hi
  obtain ⟨m, rfl⟩ := Nat.exists_eq_add_of_lt hij
  have hm : (outcomes.drop (i + 1))[m]? = some (.ok s') := by
    rw [List.getElem?_drop, Nat.add_right_comm]
    exact hj
  obtain ⟨k, hk, t, ht, htells⟩ := turns_tell hr hb' hm fun before hp => by
    rw [hprev] at hp
    cases hp
    exact h
  rw [← hdrop, List.getElem?_drop] at ht
  exact ⟨i + 1 + k, by omega, by omega, t, ht, htells⟩

end EventLoop

/-! ## The stream of a client -/

section Stream

variable [IppCrate] {c : IppClient} {past : List (Exchange Post Reply)} {cell : Cache}
  {ws : List World} {i j : Nat} {p p' : Poll} {s s' : Snapshot}

/-- A poll of the stream after the `i`-th and up to the `j`-th yields an event that tells. -/
def ToldBetween (tells : PrinterEvent → Prop) (polls : List Poll) (i j : Nat) : Prop :=
  ∃ k, i < k ∧ k ≤ j ∧ ∃ p, polls[k]? = some p ∧ p.turn.Tells tells

theorem told_of_reported {change : Snapshot → Snapshot → Prop} {tells : PrinterEvent → Prop}
    (hr : EventLoop.Reported change tells) (hij : i < j)
    (hi : (c.events .start past cell ws)[i]? = some p)
    (hj : (c.events .start past cell ws)[j]? = some p') (hs : p.outcome = .ok s)
    (hs' : p'.outcome = .ok s') (h : change s s') :
    ToldBetween tells (c.events .start past cell ws) i j := by
  have outcome {n : Nat} {q : Poll} {t : Snapshot}
      (hn : (c.events .start past cell ws)[n]? = some q) (ht : q.outcome = .ok t) :
      ((c.events .start past cell ws).map (·.outcome))[n]? = some (.ok t) := by
    rw [List.getElem?_map, hn, ← ht]
    rfl
  have hb : EventLoop.start.Bounded := EventLoop.zero_bounded
  obtain ⟨k, hik, hkj, t, ht, htells⟩ :=
    EventLoop.turns_tell_between hr hb hij (outcome hi hs) (outcome hj hs') h
  rw [← c.events_turns, List.getElem?_map] at ht
  obtain ⟨q, hq, rfl⟩ := Option.map_eq_some_iff.mp ht
  exact ⟨k, hik, hkj, q, hq, htells⟩

/-- **No change is missed.** Of any two successful polls of a stream, with any polls between them,
failed ones included: if the jobs with an id are not the same in both snapshots, and the first has
one at most, then an event after the first poll and up to the second mentions the id, or carries a
whole snapshot. The same holds of the queues with a name. -/
theorem changes_reported (hij : i < j) (hi : (c.events .start past cell ws)[i]? = some p)
    (hj : (c.events .start past cell ws)[j]? = some p') (hs : p.outcome = .ok s)
    (hs' : p'.outcome = .ok s') :
    (∀ id, (entriesAt Job.id s.jobs id).Subsingleton → Changed Job.id s.jobs s'.jobs id →
      ToldBetween (PrinterEvent.TellsOfJob id) (c.events .start past cell ws) i j) ∧
    ∀ name, (entriesAt Printer.name s.printers name).Subsingleton →
      Changed Printer.name s.printers s'.printers name →
      ToldBetween (PrinterEvent.TellsOfPrinter name) (c.events .start past cell ws) i j :=
  ⟨fun id ho h =>
      told_of_reported (EventLoop.reported_job id) hij hi hj hs hs' (h.noted ho),
    fun name ho h =>
      told_of_reported (EventLoop.reported_printer name) hij hi hj hs hs' (h.noted ho)⟩

end Stream

/-! ## A queue that starts printing while a poll fails -/

section Reference

attribute [local instance] Reference.crate

/-- The queue `HP` is idle, then a poll fails, then the queue is printing. -/
def throughFailure : List Poll :=
  localClient.events .start [] none [oneQueue 3, .answering fun _ => refused, oneQueue 4]

theorem changes_reported_throughFailure :
    ToldBetween (PrinterEvent.TellsOfPrinter "HP") throughFailure 0 2 := by
  obtain ⟨p, hp⟩ : ∃ p, throughFailure[0]? = some p := ⟨_, rfl⟩
  obtain ⟨p', hp'⟩ : ∃ p', throughFailure[2]? = some p' := ⟨_, rfl⟩
  obtain ⟨s, hs, q, hidle, hstate⟩ : ∃ s, p.outcome = .ok s ∧
      ∃ q, s.printers = [q] ∧ q.state = .idle := by
    cases hp
    exact ⟨_, rfl, _, rfl, rfl⟩
  obtain ⟨s', hs', q', hq', hname, hstate'⟩ : ∃ s', p'.outcome = .ok s' ∧
      ∃ q ∈ s'.printers, q.name = "HP" ∧ q.state = .processing := by
    cases hp'
    exact ⟨_, rfl, _, List.mem_singleton.mpr rfl, rfl, rfl⟩
  have hsole : ∀ a ∈ entriesAt Printer.name s.printers "HP", a = q := fun a ha =>
    List.mem_singleton.mp (hidle ▸ ha.1)
  refine (changes_reported (by decide) hp hp' hs hs').2 "HP"
    (fun a ha b hb => (hsole a ha).trans (hsole b hb).symm) fun he => ?_
  have hheld : q' ∈ entriesAt Printer.name s.printers "HP" := he ▸ ⟨hq', hname⟩
  rw [hsole q' hheld, hstate] at hstate'
  cases hstate'

end Reference

end Ipp
