import IppClient.Proofs.Deliveries
import IppClient.Proofs.Keywords
import IppClient.Proofs.Readings

/-!
# Groups that are read back

For each decoder, a group that a server could send for a value (`toGroup`), with texts throughout:
they are the longest that the decoders read. The decoder reads the group of a value back as the
value, if the value is one that it can return.

* `IppAttributeGroup.value_ofTable`: a group made from a table has the values of the table.
* `Job.decode_toGroup`, `Printer.decode_toGroup`, `Subscription.decode_toGroup`,
  `Notification.decode_toGroup`: the round trips.
-/

namespace Ipp

open Base Positions

/-! ## Groups from tables -/

namespace IppAttributeGroup

/-- A group from a table of names and values. A name without a value is left out. -/
def ofTable (tag : DelimiterTag) (table : List (String × Option IppValue)) :
    IppAttributeGroup where
  tag
  attributes := table.filterMap fun entry => entry.2.map fun v => ⟨entry.1, v⟩

variable {tag : DelimiterTag} {table : List (String × Option IppValue)} {name : String}

theorem value_ofTable_of_not_mem (h : name ∉ table.map Prod.fst) :
    Attrs.value ⟨ofTable tag table⟩ name = none := by
  have hfind : (ofTable tag table).get name = none := by
    refine List.find?_eq_none.mpr fun a ha => ?_
    obtain ⟨entry, hentry, hv⟩ := List.mem_filterMap.mp ha
    obtain ⟨v, -, rfl⟩ := Option.map_eq_some_iff.mp hv
    simp only [decide_eq_true_eq]
    rintro rfl
    exact h (List.mem_map_of_mem hentry)
  rw [Attrs.value, hfind]
  rfl

/-- A name of a table reads as its value. -/
theorem value_ofTable (hn : (table.map Prod.fst).Nodup) (name : String) :
    Attrs.value ⟨ofTable tag table⟩ name = (table.lookup name).join := by
  induction table with
  | nil => rfl
  | cons entry table ih =>
    obtain ⟨first, value⟩ := entry
    rw [List.map_cons, List.nodup_cons] at hn
    have hrest := ih hn.2
    rw [List.lookup_cons]
    by_cases h : name = first
    · subst h
      cases value with
      | none =>
        have hnone : Attrs.value ⟨ofTable tag table⟩ name = none :=
          value_ofTable_of_not_mem hn.1
        simpa using (show Attrs.value ⟨ofTable tag ((name, none) :: table)⟩ name = none from hnone)
      | some v => simp [Attrs.value, get, ofTable]
    · rw [beq_false_of_ne h, ← hrest]
      cases value with
      | none => rfl
      | some v =>
        have hcons : (ofTable tag ((first, some v) :: table)).attributes =
            ⟨first, v⟩ :: (ofTable tag table).attributes := rfl
        rw [Attrs.value, Attrs.value, get, get, hcons,
          List.find?_cons_of_neg (by simpa using Ne.symm h)]

end IppAttributeGroup

/-- The value of an attribute that has several, one or none. -/
def manyValues : List IppValue → Option IppValue
  | [] => none
  | [v] => some v
  | vs => some (.array vs)

namespace Attrs

variable {a : Attrs} {n : String}

theorem text_of_value {o : Option String} (h : a.value n = o.map .textWithoutLanguage) :
    a.text n = o := by
  rw [text, h]
  cases o <;> rfl

theorem int_of_value {f : Int32 → IppValue} (hf : ∀ v, asInt (f v) = some v) {o : Option Int32}
    (h : a.value n = o.map f) : a.int n = o := by
  rw [int, h]
  cases o with
  | none => rfl
  | some v => exact hf v

theorem valuesOf_manyValues {vs : List IppValue} (hv : ∀ v ∈ vs, ∀ items, v ≠ .array items)
    (h : a.value n = manyValues vs) : a.valuesOf n = vs := by
  unfold valuesOf
  rw [h]
  match vs, hv with
  | [], _ => rfl
  | [v], hv =>
    have hv := hv v (List.mem_singleton.mpr rfl)
    cases v <;> first | rfl | exact absurd rfl (hv _)
  | _ :: _ :: _, _ => rfl

/-- The values of one kind that `read` takes back, none of which is an array. -/
theorem filterMap_manyValues {α : Type} {f : α → IppValue} {read : IppValue → Option α}
    (hf : ∀ x, read (f x) = some x) (harray : ∀ items, read (.array items) = none) {l : List α}
    (h : a.value n = manyValues (l.map f)) : (a.valuesOf n).filterMap read = l := by
  have hv : ∀ v ∈ l.map f, ∀ items, v ≠ .array items := by
    rintro v hv items rfl
    obtain ⟨x, -, hx⟩ := List.mem_map.mp hv
    have hsome := hf x
    rw [hx, harray] at hsome
    cases hsome
  rw [valuesOf_manyValues hv h, List.filterMap_map]
  exact (List.filterMap_congr fun x _ => hf x).trans List.filterMap_some

theorem texts_of_value {l : List String}
    (h : a.value n = manyValues (l.map .textWithoutLanguage)) : a.texts n = l := by
  have hread : ∀ s, asText (.textWithoutLanguage s) = some s := fun _ => rfl
  rw [texts_eq]
  exact filterMap_manyValues hread (fun _ => rfl) h

theorem ints_of_value {f : Int32 → IppValue} (hf : ∀ v, asInt (f v) = some v) {l : List Int32}
    (h : a.value n = manyValues (l.map f)) : a.ints n = l := by
  rw [ints_eq]
  exact filterMap_manyValues hf (fun _ => rfl) h

end Attrs

/-! ## What a server writes -/

/-- The number of a printer state. -/
def PrinterState.wire : PrinterState → Int32
  | .idle => 3
  | .processing => 4
  | .stopped => 5

/-- The number of a job state. -/
def JobState.wire : JobState → Int32
  | .pending => 3
  | .pendingHeld => 4
  | .processing => 5
  | .processingStopped => 6
  | .canceled => 7
  | .aborted => 8
  | .completed => 9

/-- The shortest text that is read as the reason: a report needs no suffix, unless its keyword is
read otherwise. -/
def StateReason.wire (r : StateReason) : String :=
  if StateReason.parse r.keyword = r ∧ r.keyword ≠ "none" then r.keyword
  else r.keyword ++ r.severity.suffix

/-- A level: a percentage, or a negative number. -/
def SupplyLevel.wire : SupplyLevel → Int32
  | .percent v => .ofNat v.toNat
  | .unknown => -1

/-- A span of whole seconds. -/
def wireSeconds (d : Duration) : Int32 := .ofNat d.secs.toNat

/-- A time, in seconds. -/
def SystemTime.wire (t : SystemTime) : Int32 := wireSeconds t.sinceEpoch

@[simp] theorem PrinterState.fromIpp_wire (s : PrinterState) :
    PrinterState.fromIpp s.wire = .ok s := by
  cases s <;> rfl

@[simp] theorem JobState.fromIpp_wire (s : JobState) : JobState.fromIpp s.wire = .ok s := by
  cases s <;> rfl

@[simp] theorem PrintQuality.fromIpp_toIpp (q : PrintQuality) :
    PrintQuality.fromIpp q.toIpp = some q := by
  cases q <;> rfl

namespace StateReason

@[simp] theorem parse_wire (r : StateReason) : parse r.wire = r := by
  unfold wire
  split
  · rename_i h
    exact h.1
  · exact parse_append_suffix r.keyword r.severity

theorem endsIn_none (s : Severity) : ¬EndsIn "none" s := by cases s <;> decide

theorem wire_ne_none (r : StateReason) : r.wire ≠ "none" := by
  unfold wire
  split
  · rename_i h
    exact h.2
  · exact fun h => endsIn_none r.severity ⟨r.keyword, h.symm⟩

@[simp] theorem parseList_wire (reasons : List StateReason) :
    parseList (reasons.map wire) = reasons := by
  have hf : (reasons.map wire).filter (· ≠ "none") = reasons.map wire := by
    refine List.filter_eq_self.mpr fun s hs => ?_
    obtain ⟨r, -, rfl⟩ := List.mem_map.mp hs
    simpa using r.wire_ne_none
  rw [parseList, hf, List.map_map]
  simp [Function.comp_def]

end StateReason

/-! ## Times and numbers -/

/-- A span of whole seconds, more than none, that fits a positive `i32`. -/
def IsSpan (d : Duration) : Prop :=
  0 < d.secs.toNat ∧ d.secs.toNat < 2147483648 ∧ d.nanos.val = 0

/-- A span that fits is read back. -/
theorem IsSpan.wire {d : Duration} (h : IsSpan d) :
    0 < wireSeconds d ∧ Duration.fromSecs (asU64 (wireSeconds d)) = d := by
  obtain ⟨hpos, hlt, hnanos⟩ := h
  have hw : (wireSeconds d).toInt = d.secs.toNat := Int32.toInt_ofNat_of_lt hlt
  constructor
  · rw [Int32.lt_iff_toInt_lt, hw]
    exact Int.ofNat_lt.mpr hpos
  · have hsecs : asU64 (wireSeconds d) = d.secs := widen_eq hw
    rw [hsecs, Duration.fromSecs]
    exact congrArg (Duration.mk d.secs) (Fin.ext hnanos.symm)

/-- An optional span that fits is read back. -/
theorem spans_wire {span : Option Duration} (h : ∀ d, span = some d → IsSpan d) :
    (((span.map wireSeconds).filter fun v => decide (0 < v)).map fun v =>
      Duration.fromSecs (asU64 v)) = span := by
  cases span with
  | none => rfl
  | some d =>
    obtain ⟨hpos, hd⟩ := (h d rfl).wire
    rw [Option.map_some, Option.filter_some, if_pos (decide_eq_true hpos), Option.map_some, hd]

/-- A time that fits is read back. -/
theorem decodeTime_wire {a : Attrs} {n : String} {time : Option SystemTime}
    (ht : ∀ t, time = some t → IsStamp t) (h : a.int n = time.map SystemTime.wire) :
    Job.decodeTime a n = time := by
  unfold Job.decodeTime
  rw [h]
  cases time with
  | none => rfl
  | some t =>
    obtain ⟨hpos, hd⟩ := IsSpan.wire (ht t rfl)
    rw [Option.map_some, Option.filter_some]
    unfold SystemTime.wire
    rw [if_pos (decide_eq_true hpos), Option.map_some, hd]

/-! ## Jobs -/

namespace Job

/-- The total number of pages of a job, where it is known. -/
def total (j : Job) : Option Int32 :=
  match j.progress with
  | .pages _ total => some total
  | .indeterminate => none

/-- The number of pages done. -/
def done (j : Job) : Option Int32 :=
  match j.progress with
  | .pages done _ => some done
  | .indeterminate => j.pagesPrinted

/-- The attributes a server sends for a job. -/
def table (j : Job) : List (String × Option IppValue) :=
  [("job-id", some (.integer j.id)),
    ("job-state", some (.enum j.state.wire)),
    ("job-printer-uri", some (.uri j.printer)),
    ("job-name", j.name.map .textWithoutLanguage),
    ("job-originating-user-name", j.user.map .textWithoutLanguage),
    ("job-state-reasons", manyValues ((j.reasons.map StateReason.wire).map .textWithoutLanguage)),
    ("job-impressions", j.total.map .integer),
    ("job-impressions-completed", j.done.map .integer),
    ("time-at-creation", (j.created.map SystemTime.wire).map .integer),
    ("time-at-completed", (j.completed.map SystemTime.wire).map .integer)]

/-- The group a server sends for a job. -/
def toGroup (j : Job) : IppAttributeGroup := .ofTable .jobAttributes j.table

theorem value_toGroup (j : Job) (n : String) :
    Attrs.value ⟨j.toGroup⟩ n = (j.table.lookup n).join :=
  IppAttributeGroup.value_ofTable (by simp [table]) n

/-- The queue of a job, from its name alone. -/
theorem printer_wire {name : String} (h : '/' ∉ name.toList) :
    (printerNameFromUri name).getD "" = name := by
  simp only [printerNameFromUri, Text.afterLast_of_not_mem h]
  split
  · rename_i hempty
    rw [hempty]
    rfl
  · rfl

/-- A job's counts are read back. -/
theorem progress_wire {a : Attrs} {j : Job} (h : j.WellFormed)
    (ht : a.int "job-impressions" = j.total) (hd : a.int "job-impressions-completed" = j.done) :
    Job.decodeProgress a = j.progress ∧
      (a.int "job-impressions-completed").filter (fun n => decide (0 < n)) = j.pagesPrinted := by
  unfold Job.decodeProgress
  rw [ht, hd]
  unfold total done
  cases hp : j.progress with
  | indeterminate =>
    refine ⟨rfl, ?_⟩
    cases hn : j.pagesPrinted with
    | none => rfl
    | some n => simp [h.pages n hn]
  | pages done total =>
    obtain ⟨hpos, hprinted⟩ := h.progress done total hp
    refine ⟨if_pos hpos, ?_⟩
    rw [hprinted]
    by_cases hdone : 0 < done <;> simp only [Option.filter_some, hdone, decide_true,
      decide_false, if_true, Bool.false_eq_true, if_false]

/-- A job that is well formed is read back. -/
theorem decode_toGroup {j : Job} (h : j.WellFormed) : Job.decode j.toGroup = .ok j := by
  have hvalue := j.value_toGroup
  have hid : Attrs.int ⟨j.toGroup⟩ "job-id" = some j.id := by
    simp [Attrs.int, hvalue, table, Attrs.asInt]
  have hstate : Attrs.int ⟨j.toGroup⟩ "job-state" = some j.state.wire := by
    simp [Attrs.int, hvalue, table, List.lookup_cons, Attrs.asInt]
  have hprinter : Attrs.text ⟨j.toGroup⟩ "job-printer-uri" =
      some j.printer := by
    simp [Attrs.text, hvalue, table, List.lookup_cons, Attrs.asText]
  have hname : Attrs.text ⟨j.toGroup⟩ "job-name" = j.name :=
    Attrs.text_of_value (by simp [hvalue, table, List.lookup_cons])
  have huser : Attrs.text ⟨j.toGroup⟩ "job-originating-user-name" = j.user :=
    Attrs.text_of_value (by simp [hvalue, table, List.lookup_cons])
  have hreasons : Attrs.texts ⟨j.toGroup⟩ "job-state-reasons" = j.reasons.map StateReason.wire :=
    Attrs.texts_of_value (by simp [hvalue, table, List.lookup_cons])
  have htotal : Attrs.int ⟨j.toGroup⟩ "job-impressions" = j.total :=
    Attrs.int_of_value (f := .integer) (fun _ => rfl) (by simp [hvalue, table, List.lookup_cons])
  have hdone : Attrs.int ⟨j.toGroup⟩ "job-impressions-completed" = j.done :=
    Attrs.int_of_value (f := .integer) (fun _ => rfl) (by simp [hvalue, table, List.lookup_cons])
  have hcreated : Job.decodeTime ⟨j.toGroup⟩ "time-at-creation" = j.created :=
    decodeTime_wire h.created <| Attrs.int_of_value (f := .integer) (fun _ => rfl)
      (by simp [hvalue, table, List.lookup_cons])
  have hcompleted : Job.decodeTime ⟨j.toGroup⟩ "time-at-completed" = j.completed :=
    decodeTime_wire h.completed <| Attrs.int_of_value (f := .integer) (fun _ => rfl)
      (by simp [hvalue, table, List.lookup_cons])
  obtain ⟨hprogress, hprinted⟩ := progress_wire h htotal hdone
  simp only [decode, bind, Except.bind, pure, Except.pure, Attrs.requireInt_eq_ok.mpr hid,
    Attrs.requireInt_eq_ok.mpr hstate, JobState.fromIpp_wire, hprinter, Option.bind_some,
    printer_wire h.printer, hname, huser, hreasons, StateReason.parseList_wire, hprogress,
    hprinted, hcreated, hcompleted]

end Job

/-! ## Supplies -/

namespace Supply

/-- The `i`-th supply has the `i`-th values. -/
theorem getElem?_decodeList {names types colours : List String} {levels low : List Int32} {i : Nat}
    {s : Supply} (h : (decodeList names levels types colours low)[i]? = some s) :
    s.kind = types[i]? ∧ s.colour = colours[i]? ∧ s.lowThreshold = low[i]? := by
  rw [decodeList, List.getElem?_mapIdx] at h
  obtain ⟨entry, -, rfl⟩ := Option.map_eq_some_iff.mp h
  exact ⟨rfl, rfl, rfl⟩

/-- What a list of supplies has to be like, to come out of five lists. -/
structure Readable (supplies : List Supply) : Prop where
  levels : ∀ s ∈ supplies, ∀ v, s.level = .percent v → v.toNat ≤ 100
  kinds : Leading Supply.kind supplies
  colours : Leading Supply.colour supplies
  thresholds : Leading Supply.lowThreshold supplies

theorem readable_decodeList {names types colours : List String} {levels low : List Int32} :
    Readable (decodeList names levels types colours low) where
  levels _ hs _ := decodeList_levels hs
  kinds := leading_iff_column.mpr ⟨types, fun _ _ h => (getElem?_decodeList h).1⟩
  colours := leading_iff_column.mpr ⟨colours, fun _ _ h => (getElem?_decodeList h).2.1⟩
  thresholds := leading_iff_column.mpr ⟨low, fun _ _ h => (getElem?_decodeList h).2.2⟩

end Supply

/-- A level that is no more than a hundred is read back. -/
theorem SupplyLevel.ofInt_wire {level : SupplyLevel}
    (h : ∀ v, level = .percent v → v.toNat ≤ 100) : SupplyLevel.ofInt level.wire = level := by
  cases level with
  | unknown => rfl
  | percent v =>
    have hle := h v rfl
    have hw : (SupplyLevel.percent v).wire.toInt = v.toNat :=
      Int32.toInt_ofNat_of_lt (by omega)
    unfold ofInt
    rw [hw, if_neg (by omega), Int.toNat_natCast, Nat.min_eq_left hle, UInt8.ofNat_toNat]

/-- Supplies that can come out of five lists come out of their own. -/
theorem Supply.decodeList_wire {supplies : List Supply} (h : Supply.Readable supplies) :
    decodeList (supplies.map Supply.name) (supplies.map fun s => s.level.wire)
      (supplies.filterMap Supply.kind) (supplies.filterMap Supply.colour)
      (supplies.filterMap Supply.lowThreshold) = supplies := by
  refine List.ext_getElem? fun i => ?_
  rw [decodeList, List.getElem?_mapIdx, List.zip_map', List.getElem?_map]
  cases hs : supplies[i]? with
  | none => rfl
  | some s =>
    have hlevel := SupplyLevel.ofInt_wire (h.levels s (List.mem_of_getElem? hs))
    simp only [Option.map_some, leading_column h.kinds hs, leading_column h.colours hs,
      leading_column h.thresholds hs, SupplyLevel.ofInt_eq, hlevel]

/-! ## Printers -/

namespace Printer

/-- What holds of the printers that the decoder returns, and of no others. -/
structure Readable (p : Printer) : Prop where
  isDefault : p.isDefault = false
  supplies : Supply.Readable p.supplies

/-- The attributes a server sends for a printer. -/
def table (p : Printer) : List (String × Option IppValue) :=
  [("printer-name", some (.textWithoutLanguage p.name)),
    ("printer-state", some (.enum p.state.wire)),
    ("device-uri", some (.uri p.deviceUri)),
    ("printer-uri-supported", some (.uri p.uri)),
    ("printer-info", p.info.map .textWithoutLanguage),
    ("printer-location", p.location.map .textWithoutLanguage),
    ("printer-state-reasons",
      manyValues ((p.reasons.map StateReason.wire).map .textWithoutLanguage)),
    ("printer-is-accepting-jobs", some (.boolean p.acceptingJobs)),
    ("marker-names", manyValues ((p.supplies.map Supply.name).map .textWithoutLanguage)),
    ("marker-levels", manyValues ((p.supplies.map fun s => s.level.wire).map .integer)),
    ("marker-types", manyValues ((p.supplies.filterMap Supply.kind).map .textWithoutLanguage)),
    ("marker-colors", manyValues ((p.supplies.filterMap Supply.colour).map .textWithoutLanguage)),
    ("marker-low-levels", manyValues ((p.supplies.filterMap Supply.lowThreshold).map .integer)),
    ("media-supported", manyValues (p.options.media.supported.map .textWithoutLanguage)),
    ("media-default", p.options.media.default.map .textWithoutLanguage),
    ("sides-supported", manyValues (p.options.sides.supported.map .textWithoutLanguage)),
    ("sides-default", p.options.sides.default.map .textWithoutLanguage),
    ("print-color-mode-supported",
      manyValues (p.options.colorMode.supported.map .textWithoutLanguage)),
    ("print-color-mode-default", p.options.colorMode.default.map .textWithoutLanguage),
    ("print-quality-supported",
      manyValues ((p.options.quality.supported.map PrintQuality.toIpp).map .enum)),
    ("print-quality-default", (p.options.quality.default.map PrintQuality.toIpp).map .enum),
    ("output-bin-supported", manyValues (p.options.outputBin.supported.map .textWithoutLanguage)),
    ("output-bin-default", p.options.outputBin.default.map .textWithoutLanguage)]

/-- The group a server sends for a printer. -/
def toGroup (p : Printer) : IppAttributeGroup := .ofTable .printerAttributes p.table

theorem value_toGroup (p : Printer) (n : String) :
    Attrs.value ⟨p.toGroup⟩ n = (p.table.lookup n).join :=
  IppAttributeGroup.value_ofTable (by simp [table]) n

/-- The options of a printer are read back. -/
theorem options_toGroup (p : Printer) : PrinterOptions.decode ⟨p.toGroup⟩ = p.options := by
  have hvalue := p.value_toGroup
  have htexts {n : String} {l : List String}
      (h : (p.table.lookup n).join = manyValues (l.map .textWithoutLanguage)) :
      Attrs.texts ⟨p.toGroup⟩ n = l :=
    Attrs.texts_of_value ((hvalue n).trans h)
  have htext {n : String} {o : Option String}
      (h : (p.table.lookup n).join = o.map .textWithoutLanguage) :
      Attrs.text ⟨p.toGroup⟩ n = o :=
    Attrs.text_of_value ((hvalue n).trans h)
  have hqualities : Attrs.ints ⟨p.toGroup⟩ "print-quality-supported" =
      p.options.quality.supported.map PrintQuality.toIpp :=
    Attrs.ints_of_value (f := .enum) (fun _ => rfl) (by simp [hvalue, table, List.lookup_cons])
  have hquality : Attrs.int ⟨p.toGroup⟩ "print-quality-default" =
      p.options.quality.default.map PrintQuality.toIpp :=
    Attrs.int_of_value (f := .enum) (fun _ => rfl) (by simp [hvalue, table, List.lookup_cons])
  have hread : ∀ qualities : List PrintQuality,
      (qualities.map PrintQuality.toIpp).filterMap PrintQuality.fromIpp = qualities := by
    intro qualities
    simp [List.filterMap_map]
  have hdefault : ∀ quality : Option PrintQuality,
      (quality.map PrintQuality.toIpp).bind PrintQuality.fromIpp = quality := by
    intro quality
    cases quality <;> simp
  unfold PrinterOptions.decode
  rw [htexts (n := "media-supported") (by simp [table, List.lookup_cons]; rfl),
    htext (n := "media-default") (by simp [table, List.lookup_cons]; rfl),
    htexts (n := "sides-supported") (by simp [table, List.lookup_cons]; rfl),
    htext (n := "sides-default") (by simp [table, List.lookup_cons]; rfl),
    htexts (n := "print-color-mode-supported") (by simp [table, List.lookup_cons]; rfl),
    htext (n := "print-color-mode-default") (by simp [table, List.lookup_cons]; rfl),
    htexts (n := "output-bin-supported") (by simp [table, List.lookup_cons]; rfl),
    htext (n := "output-bin-default") (by simp [table, List.lookup_cons]; rfl),
    hqualities, hquality, hread, hdefault]

/-- A printer that the decoder can return is read back. -/
theorem decode_toGroup {p : Printer} (h : p.Readable) : Printer.decode p.toGroup = .ok p := by
  have hvalue := p.value_toGroup
  have hname : Attrs.text ⟨p.toGroup⟩ "printer-name" = some p.name := by
    simp [Attrs.text, hvalue, table, Attrs.asText]
  have hstate : Attrs.int ⟨p.toGroup⟩ "printer-state" = some p.state.wire := by
    simp [Attrs.int, hvalue, table, List.lookup_cons, Attrs.asInt]
  have hdevice : Attrs.text ⟨p.toGroup⟩ "device-uri" = some p.deviceUri := by
    simp [Attrs.text, hvalue, table, List.lookup_cons, Attrs.asText]
  have huri : Attrs.texts ⟨p.toGroup⟩ "printer-uri-supported" = [p.uri] := by
    simp [Attrs.texts, hvalue, table, List.lookup_cons, Attrs.asText]
  have hinfo : Attrs.text ⟨p.toGroup⟩ "printer-info" = p.info :=
    Attrs.text_of_value (by simp [hvalue, table, List.lookup_cons])
  have hlocation : Attrs.text ⟨p.toGroup⟩ "printer-location" = p.location :=
    Attrs.text_of_value (by simp [hvalue, table, List.lookup_cons])
  have hreasons : Attrs.texts ⟨p.toGroup⟩ "printer-state-reasons" =
      p.reasons.map StateReason.wire :=
    Attrs.texts_of_value (by simp [hvalue, table, List.lookup_cons])
  have haccepting : Attrs.bool ⟨p.toGroup⟩ "printer-is-accepting-jobs" = some p.acceptingJobs := by
    simp [Attrs.bool, hvalue, table, List.lookup_cons]
  have hnames : Attrs.texts ⟨p.toGroup⟩ "marker-names" = p.supplies.map Supply.name :=
    Attrs.texts_of_value (by simp [hvalue, table, List.lookup_cons])
  have hlevels : Attrs.ints ⟨p.toGroup⟩ "marker-levels" = p.supplies.map fun s => s.level.wire :=
    Attrs.ints_of_value (f := .integer) (fun _ => rfl) (by simp [hvalue, table, List.lookup_cons])
  have hkinds : Attrs.texts ⟨p.toGroup⟩ "marker-types" = p.supplies.filterMap Supply.kind :=
    Attrs.texts_of_value (by simp [hvalue, table, List.lookup_cons])
  have hcolours : Attrs.texts ⟨p.toGroup⟩ "marker-colors" = p.supplies.filterMap Supply.colour :=
    Attrs.texts_of_value (by simp [hvalue, table, List.lookup_cons])
  have hlow : Attrs.ints ⟨p.toGroup⟩ "marker-low-levels" =
      p.supplies.filterMap Supply.lowThreshold :=
    Attrs.ints_of_value (f := .integer) (fun _ => rfl) (by simp [hvalue, table, List.lookup_cons])
  have hdefault : false = p.isDefault := h.isDefault.symm
  simp only [decode, bind, Except.bind, pure, Except.pure, Attrs.requireText_eq_ok.mpr hname,
    Attrs.requireInt_eq_ok.mpr hstate, PrinterState.fromIpp_wire, hdevice, huri, hinfo, hlocation,
    hreasons, StateReason.parseList_wire, haccepting, hnames, hlevels, hkinds, hcolours, hlow,
    Supply.decodeList_wire h.supplies, options_toGroup, hdefault, Option.getD_some,
    List.head?_cons]

end Printer

/-! ## Classes, drivers and documents -/

/-- The group a server sends for a class. -/
def Class.toGroup (c : Class) : IppAttributeGroup := .ofTable .printerAttributes
  [("printer-name", some (.textWithoutLanguage c.name)),
    ("member-names", manyValues (c.members.map .textWithoutLanguage))]

theorem Class.decode_toGroup (c : Class) : Class.decode c.toGroup = .ok c := by
  have hvalue (n : String) : Attrs.value ⟨c.toGroup⟩ n = _ :=
    IppAttributeGroup.value_ofTable (by simp) n
  have hname : Attrs.text ⟨c.toGroup⟩ "printer-name" = some c.name := by
    simp [Attrs.text, hvalue, Attrs.asText]
  have hmembers : Attrs.texts ⟨c.toGroup⟩ "member-names" = c.members :=
    Attrs.texts_of_value (by simp [hvalue, List.lookup_cons])
  simp only [Class.decode, bind, Except.bind, pure, Except.pure,
    Attrs.requireText_eq_ok.mpr hname, hmembers]

/-- The group a server sends for a driver. -/
def Ppd.toGroup (p : Ppd) : IppAttributeGroup := .ofTable .printerAttributes
  [("ppd-name", some (.textWithoutLanguage p.name)),
    ("ppd-make-and-model", some (.textWithoutLanguage p.makeAndModel)),
    ("ppd-device-id", some (.textWithoutLanguage p.deviceId))]

theorem Ppd.decode_toGroup (p : Ppd) : Ppd.decode p.toGroup = .ok p := by
  have hvalue (n : String) : Attrs.value ⟨p.toGroup⟩ n = _ :=
    IppAttributeGroup.value_ofTable (by simp) n
  have hname : Attrs.text ⟨p.toGroup⟩ "ppd-name" = some p.name := by
    simp [Attrs.text, hvalue, Attrs.asText]
  have hmodel : Attrs.text ⟨p.toGroup⟩ "ppd-make-and-model" = some p.makeAndModel := by
    simp [Attrs.text, hvalue, List.lookup_cons, Attrs.asText]
  have hdevice : Attrs.text ⟨p.toGroup⟩ "ppd-device-id" = some p.deviceId := by
    simp [Attrs.text, hvalue, List.lookup_cons, Attrs.asText]
  simp only [Ppd.decode, bind, Except.bind, pure, Except.pure, Attrs.requireText_eq_ok.mpr hname,
    hmodel, hdevice, Option.getD_some]

/-- The group a server sends for a document. -/
def Document.toGroup (d : Document) : IppAttributeGroup := .ofTable .documentAttributes
  [("document-number", some (.integer d.number)),
    ("document-name", d.name.map .textWithoutLanguage),
    ("document-format", d.format.map .textWithoutLanguage)]

theorem Document.decode_toGroup (d : Document) : Document.decode d.toGroup = .ok d := by
  have hvalue (n : String) : Attrs.value ⟨d.toGroup⟩ n = _ :=
    IppAttributeGroup.value_ofTable (by simp) n
  have hnumber : Attrs.int ⟨d.toGroup⟩ "document-number" = some d.number := by
    simp [Attrs.int, hvalue, Attrs.asInt]
  have hname : Attrs.text ⟨d.toGroup⟩ "document-name" = d.name :=
    Attrs.text_of_value (by simp [hvalue, List.lookup_cons])
  have hformat : Attrs.text ⟨d.toGroup⟩ "document-format" = d.format :=
    Attrs.text_of_value (by simp [hvalue, List.lookup_cons])
  simp only [Document.decode, bind, Except.bind, pure, Except.pure,
    Attrs.requireInt_eq_ok.mpr hnumber, hname, hformat]

/-! ## Subscriptions and notifications -/

/-- An event that a keyword is read as: not a named one under `other`. -/
def NotifyEvent.Canonical (e : NotifyEvent) : Prop := NotifyEvent.fromKeyword e.keyword = e

theorem NotifyEvent.fromKeyword_other {keyword other : String}
    (h : NotifyEvent.fromKeyword keyword = .other other) : other = keyword := by
  unfold NotifyEvent.fromKeyword at h
  split at h <;> cases h
  rfl

theorem NotifyEvent.canonical_fromKeyword (keyword : String) :
    (NotifyEvent.fromKeyword keyword).Canonical := by
  cases h : NotifyEvent.fromKeyword keyword with
  | other k =>
    obtain rfl := NotifyEvent.fromKeyword_other h
    exact h
  | printerStateChanged | printerStopped | jobCreated | jobStateChanged | jobCompleted
  | jobStopped | all => rfl

/-- Events that keywords are read as are read back. -/
theorem NotifyEvent.map_keyword {events : List NotifyEvent} (h : ∀ e ∈ events, e.Canonical) :
    (events.map NotifyEvent.keyword).map NotifyEvent.fromKeyword = events := by
  rw [List.map_map]
  exact (List.map_congr_left fun e he => h e he).trans (List.map_id events)

/-- What holds of the subscriptions that the decoder returns, and of no others. -/
structure Subscription.Readable (s : Subscription) : Prop where
  events : ∀ e ∈ s.events, e.Canonical
  lease : ∀ d, s.lease = some d → IsSpan d

/-- The group a server sends for a subscription. -/
def Subscription.toGroup (s : Subscription) : IppAttributeGroup :=
  .ofTable .subscriptionAttributes
    [("notify-subscription-id", some (.integer s.id)),
      ("notify-events", manyValues ((s.events.map NotifyEvent.keyword).map .textWithoutLanguage)),
      ("notify-lease-duration", (s.lease.map wireSeconds).map .integer),
      ("notify-subscriber-user-name", s.subscriber.map .textWithoutLanguage)]

theorem Subscription.decode_toGroup {s : Subscription} (h : s.Readable) :
    Subscription.decode s.toGroup = .ok s := by
  have hvalue (n : String) : Attrs.value ⟨s.toGroup⟩ n = _ :=
    IppAttributeGroup.value_ofTable (by simp) n
  have hid : Attrs.int ⟨s.toGroup⟩ "notify-subscription-id" = some s.id := by
    simp [Attrs.int, hvalue, Attrs.asInt]
  have hevents : Attrs.texts ⟨s.toGroup⟩ "notify-events" = s.events.map NotifyEvent.keyword :=
    Attrs.texts_of_value (by simp [hvalue, List.lookup_cons])
  have hlease : Attrs.int ⟨s.toGroup⟩ "notify-lease-duration" = s.lease.map wireSeconds :=
    Attrs.int_of_value (f := .integer) (fun _ => rfl) (by simp [hvalue, List.lookup_cons])
  have huser : Attrs.text ⟨s.toGroup⟩ "notify-subscriber-user-name" = s.subscriber :=
    Attrs.text_of_value (by simp [hvalue, List.lookup_cons])
  simp only [Subscription.decode, bind, Except.bind, pure, Except.pure,
    Attrs.requireInt_eq_ok.mpr hid, hevents, NotifyEvent.map_keyword h.events, hlease,
    spans_wire h.lease, huser]

/-- The group a server sends for a notification. -/
def Notification.toGroup (n : Notification) : IppAttributeGroup :=
  .ofTable .eventNotificationAttributes
    [("notify-subscription-id", some (.integer n.subscriptionId)),
      ("notify-subscribed-event", some (.textWithoutLanguage n.event.keyword)),
      ("notify-job-id", n.jobId.map .integer),
      ("notify-text", n.text.map .textWithoutLanguage),
      ("notify-sequence-number", n.sequence.map .integer)]

theorem Notification.decode_toGroup {n : Notification} (h : n.event.Canonical) :
    Notification.decode n.toGroup = .ok n := by
  have hvalue (name : String) : Attrs.value ⟨n.toGroup⟩ name = _ :=
    IppAttributeGroup.value_ofTable (by simp) name
  have hid : Attrs.int ⟨n.toGroup⟩ "notify-subscription-id" = some n.subscriptionId := by
    simp [Attrs.int, hvalue, Attrs.asInt]
  have hevent : Attrs.text ⟨n.toGroup⟩ "notify-subscribed-event" = some n.event.keyword := by
    simp [Attrs.text, hvalue, List.lookup_cons, Attrs.asText]
  have hjob : Attrs.int ⟨n.toGroup⟩ "notify-job-id" = n.jobId :=
    Attrs.int_of_value (f := .integer) (fun _ => rfl) (by simp [hvalue, List.lookup_cons])
  have htext : Attrs.text ⟨n.toGroup⟩ "notify-text" = n.text :=
    Attrs.text_of_value (by simp [hvalue, List.lookup_cons])
  have hsequence : Attrs.int ⟨n.toGroup⟩ "notify-sequence-number" = n.sequence :=
    Attrs.int_of_value (f := .integer) (fun _ => rfl) (by simp [hvalue, List.lookup_cons])
  have hcanonical : NotifyEvent.fromKeyword n.event.keyword = n.event := h
  simp only [Notification.decode, bind, Except.bind, pure, Except.pure,
    Attrs.requireInt_eq_ok.mpr hid, hevent, Option.map_some, Option.getD_some, hcanonical, hjob,
    htext, hsequence]

end Ipp
