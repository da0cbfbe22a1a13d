import IppClient.Base.Narrow
import IppClient.Base.Report
import IppClient.Client.Jobs
import IppClient.Client.Handle
import IppClient.Client.Poll
import IppClient.Proofs.Removal
import IppClient.Proofs.Supplies

/-!
# Every job and printer that is handed over is well formed

What an application may rely on in any `Job` and any `Printer` it is given, by a method or in an
event, whatever the server answers: a progress has a total and agrees with the page count, times
are after the epoch, a job's queue is a name and no path, a supply level is a percentage, and at
most one queue name of a list is the default. It may rely on no more than these conditions say: a
server that gives a job in progress a completion time, or sends two groups with the name of the
default, is believed.

* `Job.decode_wellFormed`, `Printer.decode_wellFormed`: the decoders establish it.
* `events_wellFormed`: **every event of every stream carries well-formed entries.**
* `reads_wellFormed`: **so does every method that reads printers or jobs.**
-/

namespace Ipp

open Base

/-- A time is after the epoch, by whole seconds that fit a positive `i32`. -/
def IsStamp (t : SystemTime) : Prop :=
  0 < t.sinceEpoch.secs.toNat ∧ t.sinceEpoch.secs.toNat < 2147483648 ∧ t.sinceEpoch.nanos.val = 0

/-- What holds of a job that a decoder returned. -/
structure Job.WellFormed (j : Job) : Prop where
  /-- The queue is one path segment. -/
  printer : '/' ∉ j.printer.toList
  /-- A progress bar can be drawn, and agrees with the number of pages printed. -/
  progress : ∀ done total, j.progress = .pages done total →
    0 < total ∧ j.pagesPrinted = if 0 < done then some done else none
  pages : ∀ n, j.pagesPrinted = some n → 0 < n
  created : ∀ t, j.created = some t → IsStamp t
  completed : ∀ t, j.completed = some t → IsStamp t

/-- What holds of a printer that a decoder returned. -/
structure Printer.WellFormed (p : Printer) : Prop where
  levels : ∀ s ∈ p.supplies, ∀ v, s.level = .percent v → v.toNat ≤ 100
  /-- There is a worst severity unless there is nothing to say. -/
  severity : p.highestSeverity = none ↔ p.reasons = []

/-- The queues flagged as the default have one name. -/
def OneDefault (printers : List Printer) : Prop :=
  ∀ p ∈ printers, ∀ q ∈ printers, p.isDefault = true → q.isDefault = true → p.name = q.name

/-- A whole list of printers and jobs. -/
structure Snapshot.WellFormed (s : Snapshot) : Prop where
  printers : ∀ p ∈ s.printers, p.WellFormed
  jobs : ∀ j ∈ s.jobs, j.WellFormed
  default : OneDefault s.printers

/-- The entries that an event carries are well formed. -/
def PrinterEvent.WellFormed : PrinterEvent → Prop
  | .jobAdded job => job.WellFormed
  | .jobChanged job => job.WellFormed
  | .printerChanged printer => printer.WellFormed
  | .resynchronised printers jobs => Snapshot.WellFormed ⟨printers, jobs⟩
  | .jobRemoved _ => True
  | .printerRemoved _ => True

/-! ## The decoders -/

/-- A positive number keeps its value as `u64`. -/
theorem toNat_asU64 {v : Int32} (h : 0 < v) :
    0 < (asU64 v).toNat ∧ (asU64 v).toNat < 2147483648 := by
  have hpos : 0 < v.toInt := Int32.lt_iff_toInt_lt.mp h
  have hlt : v.toInt < 2147483648 := v.toInt_lt
  have hnat : (UInt64.ofNat v.toInt.toNat).toNat = v.toInt.toNat := by
    rw [UInt64.toNat_ofNat']
    exact Nat.mod_eq_of_lt (by omega)
  have hw : asU64 v = .ofNat v.toInt.toNat := widen_eq (by rw [hnat]; omega)
  rw [hw, hnat]
  omega

theorem Job.decodeTime_isStamp {a : Attrs} {name : String} {t : SystemTime}
    (h : Job.decodeTime a name = some t) : IsStamp t := by
  obtain ⟨v, hv, rfl⟩ := Option.map_eq_some_iff.mp h
  have hpos : 0 < v := by simpa using (Option.filter_eq_some_iff.mp hv).2
  obtain ⟨h0, hlt⟩ := toNat_asU64 hpos
  exact ⟨h0, hlt, rfl⟩

theorem printerNameFromUri_noSlash {uri name : String} (h : printerNameFromUri uri = some name) :
    '/' ∉ name.toList := by
  simp only [printerNameFromUri] at h
  split at h
  · cases h
  · cases h
    exact Text.not_mem_afterLast

theorem Job.decodeProgress_pages {a : Attrs} {done total : Int32}
    (h : Job.decodeProgress a = .pages done total) :
    0 < total ∧ (a.int "job-impressions-completed").filter (fun n => decide (0 < n)) =
      if 0 < done then some done else none := by
  unfold Job.decodeProgress at h
  split at h
  · rename_i t d ht hd
    split at h
    · rename_i hpos
      cases h
      refine ⟨hpos, ?_⟩
      rw [hd]
      by_cases hdone : 0 < done <;> simp [Option.filter, hdone]
    · cases h
  · cases h

theorem Job.decode_wellFormed {group : IppAttributeGroup} {j : Job}
    (h : Job.decode group = .ok j) : j.WellFormed := by
  simp only [Job.decode, bind_eq_ok] at h
  obtain ⟨id, hid, value, hvalue, state, hstate, h⟩ := h
  cases h
  constructor
  · cases hp : ((Attrs.text ⟨group⟩ "job-printer-uri").bind printerNameFromUri) with
    | none => simp
    | some name =>
      obtain ⟨uri, -, hn⟩ := Option.bind_eq_some_iff.mp hp
      exact printerNameFromUri_noSlash hn
  · exact fun done total => Job.decodeProgress_pages
  · intro n hn
    simpa using (Option.filter_eq_some_iff.mp hn).2
  · exact fun t => Job.decodeTime_isStamp
  · exact fun t => Job.decodeTime_isStamp

theorem level_le_hundred {level : Int32} {v : UInt8}
    (h : (if level < 0 then SupplyLevel.unknown else .percent (min level 100).toInt8.toUInt8) =
      .percent v) : v.toNat ≤ 100 := by
  rw [SupplyLevel.ofInt_eq] at h
  unfold SupplyLevel.ofInt at h
  split at h
  · cases h
  · cases h
    rw [UInt8.toNat_ofNat']
    omega

theorem Supply.decodeList_levels {names types colours : List String} {levels low : List Int32}
    {s : Supply} (hs : s ∈ Supply.decodeList names levels types colours low) {v : UInt8}
    (hv : s.level = .percent v) : v.toNat ≤ 100 := by
  obtain ⟨i, hi, rfl⟩ := List.mem_mapIdx.mp hs
  exact level_le_hundred hv

theorem Printer.decode_wellFormed {group : IppAttributeGroup} {p : Printer}
    (h : Printer.decode group = .ok p) : p.WellFormed := by
  simp only [Printer.decode, bind_eq_ok] at h
  obtain ⟨name, hname, value, hvalue, state, hstate, h⟩ := h
  cases h
  constructor
  · exact fun s hs v => Supply.decodeList_levels hs
  · simp [Printer.highestSeverity]

/-! ## Lists -/

theorem decodeJobs_wellFormed {resp : IppRequestResponse} :
    ∀ j ∈ decodeJobs resp, j.WellFormed := by
  intro j hj
  obtain ⟨group, -, hg⟩ := List.mem_filterMap.mp hj
  exact Job.decode_wellFormed (decoded_eq_some.mp hg)

/-- A printer of a list is one that the decoder returned, flagged by the one default. -/
theorem of_mem_decodePrinters {resp : IppRequestResponse} {d : Option String} {p : Printer}
    (h : p ∈ decodePrinters resp d) : ∃ group printer, Printer.decode group = .ok printer ∧
      p = { printer with isDefault := d == some printer.name } := by
  obtain ⟨group, -, hg⟩ := List.mem_filterMap.mp h
  obtain ⟨printer, hp, rfl⟩ := Option.map_eq_some_iff.mp hg
  exact ⟨group, printer, decoded_eq_some.mp hp, rfl⟩

theorem decodePrinters_wellFormed {resp : IppRequestResponse} {d : Option String} :
    (∀ p ∈ decodePrinters resp d, p.WellFormed) ∧ OneDefault (decodePrinters resp d) := by
  constructor
  · intro p hp
    obtain ⟨group, printer, hdec, rfl⟩ := of_mem_decodePrinters hp
    have h := Printer.decode_wellFormed hdec
    exact ⟨h.levels, h.severity⟩
  · intro p hp q hq hpd hqd
    obtain ⟨_, printer, -, rfl⟩ := of_mem_decodePrinters hp
    obtain ⟨_, printer', -, rfl⟩ := of_mem_decodePrinters hq
    have hname : d = some printer.name := eq_of_beq hpd
    have hname' : d = some printer'.name := eq_of_beq hqd
    rw [hname] at hname'
    exact Option.some.inj hname'

/-! ## Events -/

/-- A turn hands over entries of its snapshot only. -/
theorem EventLoop.turn_wellFormed {l : EventLoop} {outcome : Outcome}
    (h : ∀ s, outcome = .ok s → s.WellFormed) {event : PrinterEvent}
    (he : .ok event ∈ (l.turn outcome).items) : event.WellFormed := by
  cases outcome with
  | error e =>
    have hitem : Except.ok event = Except.error e := List.mem_singleton.mp he
    cases hitem
  | ok s =>
    have hs := h s rfl
    obtain ⟨event', hmem, heq⟩ := List.mem_map.mp he
    cases heq
    cases hp : l.previous with
    | none =>
      rw [hp] at hmem
      obtain rfl := List.mem_singleton.mp hmem
      exact hs
    | some before =>
      rw [hp] at hmem
      dsimp only at hmem
      rw [Snapshot.diff_eq] at hmem
      simp only [List.mem_append, List.mem_map] at hmem
      obtain ((⟨_, _, rfl⟩ | ⟨job, hjob, rfl⟩) | ⟨_, _, rfl⟩) | ⟨printer, hprinter, rfl⟩ := hmem
      · exact trivial
      · have hj := hs.jobs job (List.mem_of_mem_filter hjob)
        obtain hcase | hcase := before.jobEvent_cases job <;> rw [hcase] <;> exact hj
      · exact trivial
      · exact hs.printers printer (List.mem_of_mem_filter hprinter)

section Client

variable [IppCrate] (c : IppClient)

theorem poll_wellFormed (l : EventLoop) : Act.Returns Snapshot.WellFormed (c.poll l) := by
  intro w past cell s hs
  rw [c.poll_apply] at hs
  rcases hr : c.snapshot w past (if l.previous.isNone then none else cell) with ⟨r, t, c'⟩
  rw [hr] at hs
  cases hs
  obtain ⟨t₁, c₁, t₂, hprinters, hjobs, -⟩ := c.snapshot_ok hr
  obtain ⟨d, t₀, m, resp, -, -, -, hps⟩ := c.printers_ok hprinters
  obtain ⟨m', resp', -, -, hjs⟩ := c.jobs_ok hjobs
  refine ⟨?_, ?_, ?_⟩
  · rw [hps]
    exact decodePrinters_wellFormed.1
  · rw [hjs]
    exact decodeJobs_wellFormed
  · rw [hps]
    exact decodePrinters_wellFormed.2

theorem events_wellFormed {l : EventLoop} {past : List (Exchange Post Reply)} {cell : Cache}
    {ws : List World} {p : Poll} (hp : p ∈ c.events l past cell ws) {event : PrinterEvent}
    (he : .ok event ∈ p.turn.items) : event.WellFormed := by
  induction ws generalizing l past cell with
  | nil => cases hp
  | cons w ws ih =>
    rw [IppClient.events, List.mem_cons] at hp
    obtain rfl | hp := hp
    · exact EventLoop.turn_wellFormed (fun s hs => poll_wellFormed c l w past cell s hs) he
    · cases hn : (l.turn (c.poll l w past cell).result).next with
      | none =>
        rw [hn] at hp
        cases hp
      | some next =>
        rw [hn] at hp
        exact ih hp

/-! ## Methods -/

theorem printerAttributesAt_wellFormed (uri : Uri) :
    Act.Returns Printer.WellFormed (c.printerAttributesAt uri) := by
  refine Act.Returns.bind fun _ => Act.Returns.bind fun resp => Act.Returns.ofExcept fun p hp => ?_
  unfold decodePrinter at hp
  split at hp
  · exact Printer.decode_wellFormed hp
  · cases hp

theorem printerAt_wellFormed (uri : String) :
    Act.Returns Printer.WellFormed (c.printerAt uri) :=
  Act.Returns.bind fun parsed => printerAttributesAt_wellFormed c parsed

theorem job_wellFormed (queue : String) (id : JobId) :
    Act.Returns (fun found => ∀ j ∈ found, j.WellFormed) (c.job queue id) := by
  refine Act.Returns.bind fun _ => Act.Returns.bind fun resp => ?_
  split
  · exact Act.Returns.pure nofun
  · refine Act.Returns.bind fun _ => Act.Returns.pure fun j hj => ?_
    exact decodeJobs_wellFormed j (List.mem_of_mem_head? hj)

/-- **What is handed over is well formed.** Whatever the server answers: every event of every
stream, and the value of every method that reads printers or jobs. -/
theorem deliveries_wellFormed :
    (∀ (l : EventLoop) (past : List (Exchange Post Reply)) (cell : Cache) (ws : List World),
      ∀ p ∈ c.events l past cell ws, ∀ event, .ok event ∈ p.turn.items → event.WellFormed) ∧
    Act.Returns (fun printers => (∀ p ∈ printers, p.WellFormed) ∧ OneDefault printers)
      c.printers ∧
    (∀ which, Act.Returns (fun jobs => ∀ j ∈ jobs, j.WellFormed) (c.jobs which)) ∧
    (∀ queue id, Act.Returns (fun found => ∀ j ∈ found, j.WellFormed) (c.job queue id)) ∧
    (∀ name, Act.Returns Printer.WellFormed (c.printer name)) ∧
    (∀ uri, Act.Returns Printer.WellFormed (c.printerAt uri)) ∧
    ∀ uri, Act.Returns Printer.WellFormed (IppPrinter.attributes ⟨c, uri⟩) := by
  refine ⟨fun _ _ _ _ _ hp _ he => events_wellFormed c hp he, ?_, ?_, job_wellFormed c, ?_,
    printerAt_wellFormed c, printerAttributesAt_wellFormed c⟩
  · exact Act.Returns.bind fun _ => Act.Returns.bind fun _ => Act.Returns.bind fun _ =>
      Act.Returns.pure decodePrinters_wellFormed
  · exact fun _ => Act.Returns.bind fun _ => Act.Returns.bind fun _ =>
      Act.Returns.pure decodeJobs_wellFormed
  · exact fun _ => Act.Returns.bind fun _ => printerAt_wellFormed c _

end Client

section Reference

attribute [local instance] Reference.crate

/-- The first poll of a stream hands over the one queue of the server. -/
theorem deliveries_wellFormed_oneQueue :
    ∃ p ∈ localClient.events .start [] none [oneQueue 3], ∃ printer jobs,
      .ok (.resynchronised [printer] jobs) ∈ p.turn.items ∧
        (PrinterEvent.resynchronised [printer] jobs).WellFormed := by
  obtain ⟨p, hp⟩ : ∃ p, (localClient.events .start [] none [oneQueue 3])[0]? = some p := ⟨_, rfl⟩
  have hmem := List.mem_of_getElem? hp
  obtain ⟨printer, jobs, hitem⟩ : ∃ printer jobs,
      .ok (.resynchronised [printer] jobs) ∈ p.turn.items := by
    cases hp
    exact ⟨_, _, List.mem_singleton.mpr rfl⟩
  exact ⟨p, hmem, printer, jobs, hitem,
    (deliveries_wellFormed localClient).1 .start [] none [oneQueue 3] p hmem _ hitem⟩

end Reference

end Ipp
