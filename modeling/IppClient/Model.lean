import IppClient.Attrs
import IppClient.Base.Duration
import IppClient.Base.Except
import IppClient.Base.Text
import Mathlib.Order.MinMax

/-!
# The data model and its decoders (`model.rs`)

Printers, jobs, classes and drivers, each with the decoder that reads it from an attribute group.
A decoder fails only on its required attributes, in the order the source reads them.

* `Printer.exists_decode_iff`: a group decodes to a printer of that name exactly when its
  `printer-name` is that text and its `printer-state` is a known one.
* `Job.exists_decode_iff`: the same for a job's id and `job-state`.
-/

namespace Ipp

open Base

/-- `model::JobId`. -/
abbrev JobId := Int32

/-- `as u64` on an `i32`: sign extension. -/
def asU64 (v : Int32) : UInt64 := v.toInt64.toUInt64

/-- `model::PrinterState`. -/
inductive PrinterState where
  | idle
  | processing
  | stopped
  deriving DecidableEq

/-- `PrinterState::from_ipp`. -/
def PrinterState.fromIpp (value : Int32) : Except Error PrinterState :=
  if value = 3 then .ok .idle
  else if value = 4 then .ok .processing
  else if value = 5 then .ok .stopped
  else .error (.decode "printer-state" s!"unknown value {value}")

/-- `model::JobState`. -/
inductive JobState where
  | pending
  | pendingHeld
  | processing
  | processingStopped
  | canceled
  | aborted
  | completed
  deriving DecidableEq

/-- `JobState::from_ipp`. -/
def JobState.fromIpp (value : Int32) : Except Error JobState :=
  if value = 3 then .ok .pending
  else if value = 4 then .ok .pendingHeld
  else if value = 5 then .ok .processing
  else if value = 6 then .ok .processingStopped
  else if value = 7 then .ok .canceled
  else if value = 8 then .ok .aborted
  else if value = 9 then .ok .completed
  else .error (.decode "job-state" s!"unknown value {value}")

/-- `JobState::is_active`: the job is still in the queue. -/
def JobState.isActive : JobState → Bool
  | .pending | .pendingHeld | .processing | .processingStopped => true
  | .canceled | .aborted | .completed => false

/-- The `printer-state` values that are read. -/
def PrinterState.Known (value : Int32) : Prop := value = 3 ∨ value = 4 ∨ value = 5

/-- The `job-state` values that are read. -/
def JobState.Known (value : Int32) : Prop :=
  value = 3 ∨ value = 4 ∨ value = 5 ∨ value = 6 ∨ value = 7 ∨ value = 8 ∨ value = 9

instance (value : Int32) : Decidable (PrinterState.Known value) :=
  inferInstanceAs (Decidable (_ ∨ _))

instance (value : Int32) : Decidable (JobState.Known value) :=
  inferInstanceAs (Decidable (_ ∨ _))

/-- `model::Severity`. -/
inductive Severity where
  | report
  | warning
  | error
  deriving DecidableEq

/-- The place of a severity in the derived order, which is that of the constructors. -/
def Severity.rank : Severity → Nat
  | .report => 0
  | .warning => 1
  | .error => 2

theorem Severity.rank_injective : Function.Injective Severity.rank := by
  intro a b h
  cases a <;> cases b <;> simp_all [Severity.rank]

instance : LinearOrder Severity := LinearOrder.lift' Severity.rank Severity.rank_injective

/-- `model::StateReason`. -/
structure StateReason where
  keyword : String
  severity : Severity
  deriving DecidableEq

namespace StateReason

/-- `StateReason::parse`: the first of the three suffixes that fits. -/
def parse (raw : String) : StateReason :=
  let suffixes := [("-error", Severity.error), ("-warning", Severity.warning),
    ("-report", Severity.report)]
  (suffixes.findSome? fun (suffix, severity) =>
    (Text.stripEnd raw suffix).map fun keyword => ⟨keyword, severity⟩).getD ⟨raw, .report⟩

/-- `StateReason::parse_list`. -/
def parseList (raw : List String) : List StateReason :=
  (raw.filter (· ≠ "none")).map parse

end StateReason

/-- `model::SupplyLevel`. -/
inductive SupplyLevel where
  | percent (v : UInt8)
  | unknown
  deriving DecidableEq

/-- `model::Supply`. -/
structure Supply where
  name : String
  kind : Option String
  colour : Option String
  level : SupplyLevel
  lowThreshold : Option Int32
  deriving DecidableEq

/-- `Supply::decode_list`: names and levels by position, up to the shorter list. -/
def Supply.decodeList (names : List String) (levels : List Int32) (types colours : List String)
    (low : List Int32) : List Supply :=
  (names.zip levels).mapIdx fun i (name, level) =>
    { name
      kind := types[i]?
      colour := colours[i]?
      level := if level < 0 then .unknown else .percent (min level 100).toInt8.toUInt8
      lowThreshold := low[i]? }

/-- `model::PrintQuality`. -/
inductive PrintQuality where
  | draft
  | normal
  | high
  deriving DecidableEq

/-- `PrintQuality::from_ipp`. -/
def PrintQuality.fromIpp (value : Int32) : Option PrintQuality :=
  if value = 3 then some .draft
  else if value = 4 then some .normal
  else if value = 5 then some .high
  else none

/-- `PrintQuality::to_ipp`. -/
def PrintQuality.toIpp : PrintQuality → Int32
  | .draft => 3
  | .normal => 4
  | .high => 5

/-- `model::OptionValues`. -/
structure OptionValues (α : Type) where
  supported : List α
  default : Option α
  deriving DecidableEq

/-- `model::PrinterOptions`. -/
structure PrinterOptions where
  media : OptionValues String
  sides : OptionValues String
  colorMode : OptionValues String
  quality : OptionValues PrintQuality
  outputBin : OptionValues String
  deriving DecidableEq

/-- `PrinterOptions::decode`. -/
def PrinterOptions.decode (a : Attrs) : PrinterOptions where
  media := { supported := a.texts "media-supported", default := a.text "media-default" }
  sides := { supported := a.texts "sides-supported", default := a.text "sides-default" }
  colorMode :=
    { supported := a.texts "print-color-mode-supported",
      default := a.text "print-color-mode-default" }
  quality :=
    { supported := (a.ints "print-quality-supported").filterMap PrintQuality.fromIpp
      default := (a.int "print-quality-default").bind PrintQuality.fromIpp }
  outputBin :=
    { supported := a.texts "output-bin-supported", default := a.text "output-bin-default" }

/-- `model::Printer`. -/
structure Printer where
  name : String
  uri : String
  deviceUri : String
  info : Option String
  location : Option String
  state : PrinterState
  reasons : List StateReason
  acceptingJobs : Bool
  supplies : List Supply
  isDefault : Bool
  options : PrinterOptions
  deriving DecidableEq

/-- `Printer::decode`. The name is required first, then the state. -/
def Printer.decode (group : IppAttributeGroup) : Except Error Printer := do
  let a : Attrs := ⟨group⟩
  let name ← a.requireText "printer-name"
  let state ← PrinterState.fromIpp (← a.requireInt "printer-state")
  return {
    name
    deviceUri := (a.text "device-uri").getD ""
    uri := (a.texts "printer-uri-supported").head?.getD ""
    info := a.text "printer-info"
    location := a.text "printer-location"
    state
    reasons := StateReason.parseList (a.texts "printer-state-reasons")
    acceptingJobs := (a.bool "printer-is-accepting-jobs").getD true
    supplies := Supply.decodeList (a.texts "marker-names") (a.ints "marker-levels")
      (a.texts "marker-types") (a.texts "marker-colors") (a.ints "marker-low-levels")
    isDefault := false
    options := PrinterOptions.decode a }

/-- `Printer::highest_severity`. -/
def Printer.highestSeverity (p : Printer) : Option Severity := (p.reasons.map (·.severity)).max?

/-- `model::Class`. -/
structure Class where
  name : String
  members : List String
  deriving DecidableEq

/-- `Class::decode`. -/
def Class.decode (group : IppAttributeGroup) : Except Error Class := do
  let a : Attrs := ⟨group⟩
  let name ← a.requireText "printer-name"
  return { name, members := a.texts "member-names" }

/-- `model::Document`. -/
structure Document where
  number : Int32
  name : Option String
  format : Option String
  deriving DecidableEq

/-- `Document::decode`. -/
def Document.decode (group : IppAttributeGroup) : Except Error Document := do
  let a : Attrs := ⟨group⟩
  let number ← a.requireInt "document-number"
  return { number, name := a.text "document-name", format := a.text "document-format" }

/-- `model::Ppd`. -/
structure Ppd where
  name : String
  makeAndModel : String
  deviceId : String
  deriving DecidableEq

/-- `Ppd::decode`. -/
def Ppd.decode (group : IppAttributeGroup) : Except Error Ppd := do
  let a : Attrs := ⟨group⟩
  let name ← a.requireText "ppd-name"
  return {
    name
    makeAndModel := (a.text "ppd-make-and-model").getD ""
    deviceId := (a.text "ppd-device-id").getD "" }

/-- `model::MediaSize`. -/
structure MediaSize where
  keyword : String
  «class» : String
  name : String
  dimensions : String
  borderless : Bool
  deriving DecidableEq

/-- `MediaSize::parse`: cut at the last `_` and what is before it at its first. -/
def MediaSize.parse (keyword : String) : Option MediaSize := do
  let (head, dimensions) ← Text.rsplitOnce keyword '_'
  let (c, name) ← Text.splitOnce head '_'
  if c = "" ∨ name = "" ∨ dimensions = "" then none
  else some { keyword, «class» := c, name, dimensions, borderless := Text.contains name ".borderless" }

/-- `model::JobProgress`. -/
inductive JobProgress where
  | indeterminate
  | pages (done total : Int32)
  deriving DecidableEq

/-- `model::Job`. -/
structure Job where
  id : JobId
  printer : String
  name : Option String
  user : Option String
  state : JobState
  reasons : List StateReason
  progress : JobProgress
  created : Option SystemTime
  pagesPrinted : Option Int32
  completed : Option SystemTime
  deriving DecidableEq

/-- `model::printer_name_from_uri`: the text after the last `/`, unless it is empty. -/
def printerNameFromUri (uri : String) : Option String :=
  let s := Text.afterLast uri '/'
  if s = "" then none else some s

/-- The page progress of a job: both counts, and a positive total. -/
def Job.decodeProgress (a : Attrs) : JobProgress :=
  match a.int "job-impressions", a.int "job-impressions-completed" with
  | some total, some done => if 0 < total then .pages done total else .indeterminate
  | _, _ => .indeterminate

/-- A time attribute: seconds since the epoch, with `0` and negative values read as absent. -/
def Job.decodeTime (a : Attrs) (name : String) : Option SystemTime :=
  ((a.int name).filter fun t => 0 < t).map fun t => ⟨Duration.fromSecs (asU64 t)⟩

/-- `Job::decode`. The id is required first, then the state. -/
def Job.decode (group : IppAttributeGroup) : Except Error Job := do
  let a : Attrs := ⟨group⟩
  let id ← a.requireInt "job-id"
  let state ← JobState.fromIpp (← a.requireInt "job-state")
  return {
    id
    printer := ((a.text "job-printer-uri").bind printerNameFromUri).getD ""
    name := a.text "job-name"
    user := a.text "job-originating-user-name"
    state
    reasons := StateReason.parseList (a.texts "job-state-reasons")
    progress := Job.decodeProgress a
    created := Job.decodeTime a "time-at-creation"
    pagesPrinted := (a.int "job-impressions-completed").filter fun n => 0 < n
    completed := Job.decodeTime a "time-at-completed" }

/-! ## Which groups decode -/

theorem PrinterState.exists_fromIpp_iff {value : Int32} :
    (∃ s, PrinterState.fromIpp value = .ok s) ↔ PrinterState.Known value := by
  unfold PrinterState.fromIpp PrinterState.Known
  split
  · simp [*]
  · split
    · simp [*]
    · split <;> simp [*]

theorem JobState.exists_fromIpp_iff {value : Int32} :
    (∃ s, JobState.fromIpp value = .ok s) ↔ JobState.Known value := by
  unfold JobState.fromIpp JobState.Known
  constructor
  · rintro ⟨s, h⟩
    by_contra hn
    simp only [not_or] at hn
    obtain ⟨h3, h4, h5, h6, h7, h8, h9⟩ := hn
    simp [h3, h4, h5, h6, h7, h8, h9] at h
  · rintro (rfl | rfl | rfl | rfl | rfl | rfl | rfl) <;> exact ⟨_, rfl⟩

/-- The group is a printer group of name `n` in a known state. -/
def Printer.Reads (group : IppAttributeGroup) (n : String) : Prop :=
  Attrs.text ⟨group⟩ "printer-name" = some n ∧
    ∃ value, Attrs.int ⟨group⟩ "printer-state" = some value ∧ PrinterState.Known value

/-- The group is a job group of id `i` in a known state. -/
def Job.Reads (group : IppAttributeGroup) (i : JobId) : Prop :=
  Attrs.int ⟨group⟩ "job-id" = some i ∧
    ∃ value, Attrs.int ⟨group⟩ "job-state" = some value ∧ JobState.Known value

theorem Printer.exists_decode_iff {group : IppAttributeGroup} {n : String} :
    (∃ p, Printer.decode group = .ok p ∧ p.name = n) ↔ Printer.Reads group n := by
  simp only [Printer.Reads, ← PrinterState.exists_fromIpp_iff]
  constructor
  · rintro ⟨p, h, rfl⟩
    simp only [Printer.decode, bind_eq_ok] at h
    obtain ⟨name, hname, value, hvalue, state, hstate, h⟩ := h
    cases h
    exact ⟨Attrs.requireText_eq_ok.mp hname, value, Attrs.requireInt_eq_ok.mp hvalue, state,
      hstate⟩
  · rintro ⟨hname, value, hvalue, state, hstate⟩
    simp only [Printer.decode, bind, Except.bind, Attrs.requireText_eq_ok.mpr hname,
      Attrs.requireInt_eq_ok.mpr hvalue, hstate]
    exact ⟨_, rfl, rfl⟩

theorem Job.exists_decode_iff {group : IppAttributeGroup} {i : JobId} :
    (∃ j, Job.decode group = .ok j ∧ j.id = i) ↔ Job.Reads group i := by
  simp only [Job.Reads, ← JobState.exists_fromIpp_iff]
  constructor
  · rintro ⟨j, h, rfl⟩
    simp only [Job.decode, bind_eq_ok] at h
    obtain ⟨id, hid, value, hvalue, state, hstate, h⟩ := h
    cases h
    exact ⟨Attrs.requireInt_eq_ok.mp hid, value, Attrs.requireInt_eq_ok.mp hvalue, state, hstate⟩
  · rintro ⟨hid, value, hvalue, state, hstate⟩
    simp only [Job.decode, bind, Except.bind, Attrs.requireInt_eq_ok.mpr hid,
      Attrs.requireInt_eq_ok.mpr hvalue, hstate]
    exact ⟨_, rfl, rfl⟩

end Ipp
