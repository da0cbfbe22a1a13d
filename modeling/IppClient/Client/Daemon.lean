import IppClient.Client.Core

/-!
# Questions to the daemon (`client.rs`)

The default printer and its cache, and the lists a print server answers: printers, jobs, classes
and drivers. The request of each method is a definition of its own, so that its shape can be
stated; the methods send it and decode the reply.

* `printersRequest_ok`, `jobsRequest_ok`, ..: what a built request asks for, and as whom.
* `IppClient.printers_ok`, `IppClient.jobs_ok`: the exchanges of a successful call, and its result
  from the replies.
-/

namespace Ipp

open Base

/-- `client::WhichJobs`. -/
inductive WhichJobs where
  | notCompleted
  | completed
  deriving DecidableEq

/-- `WhichJobs::as_keyword`. -/
def WhichJobs.asKeyword : WhichJobs → String
  | .notCompleted => "not-completed"
  | .completed => "completed"

/-- `client::PpdFilter`. -/
inductive PpdFilter where
  | deviceId (v : String)
  | makeAndModel (v : String)
  | make (v : String)
  deriving DecidableEq

/-- `PpdFilter::as_attribute`. -/
def PpdFilter.asAttribute : PpdFilter → String × String
  | .deviceId v => ("ppd-device-id", v)
  | .makeAndModel v => ("ppd-make-and-model", v)
  | .make v => ("ppd-make", v)

/-- `IppClient::PRINTER_ATTRIBUTES`. -/
def printerAttributes : List String :=
  ["printer-name", "printer-uri-supported", "device-uri", "printer-info", "printer-location",
    "printer-state", "printer-state-reasons", "printer-is-accepting-jobs", "marker-names",
    "marker-levels", "marker-types", "marker-colors", "marker-low-levels", "media-supported",
    "media-default", "sides-supported", "sides-default", "print-color-mode-supported",
    "print-color-mode-default", "print-quality-supported", "print-quality-default",
    "output-bin-supported", "output-bin-default"]

/-- `IppClient::JOB_ATTRIBUTES`. -/
def jobAttributes : List String :=
  ["job-id", "job-state", "job-state-reasons", "job-name", "job-printer-uri",
    "job-originating-user-name", "time-at-creation", "time-at-completed", "job-impressions",
    "job-impressions-completed"]

/-- The attributes `classes` asks for. -/
def classAttributes : List String := ["printer-name", "member-names"]

/-- The attributes `ppds` asks for. -/
def ppdAttributes : List String := ["ppd-name", "ppd-make-and-model", "ppd-device-id"]

/-- `IppClient::decode_printers`: every printer group that decodes, in order. -/
def decodePrinters (resp : IppRequestResponse) (default : Option String) : List Printer :=
  (resp.groupsOf .printerAttributes).filterMap fun group =>
    (decoded Printer.decode group).map fun printer =>
      { printer with isDefault := default == some printer.name }

/-- `IppClient::decode_jobs`: every job group that decodes, in order. -/
def decodeJobs (resp : IppRequestResponse) : List Job :=
  (resp.groupsOf .jobAttributes).filterMap (decoded Job.decode)

/-- The queue a `CUPS-Get-Default` reply names. -/
def decodeDefault (resp : IppRequestResponse) : Option String :=
  (resp.groupsOf .printerAttributes).head?.bind fun g => Attrs.text ⟨g⟩ "printer-name"

/-- `lpoptions::default_printer`, of the files in the world. -/
def World.lpoptions (w : World) : Option String :=
  Lpoptions.defaultPrinterFrom w.userLpoptions w.systemLpoptions

variable [IppCrate]

/-- The `CUPS-Get-Default` request. -/
def getDefaultRequest : Except Error IppRequestResponse := do
  let request ← transport (IppCrate.newRequest .cupsGetDefault none)
  addAttribute request .operationAttributes "requested-attributes" (.keyword "printer-name")

/-- The `CUPS-Get-Printers` request. -/
def printersRequest : Except Error IppRequestResponse :=
  requestAttributes IppCrate.cupsGetPrinters printerAttributes

/-- The `CUPS-Get-Classes` request. -/
def classesRequest : Except Error IppRequestResponse := do
  let request ← transport (IppCrate.newRequest .cupsGetClasses none)
  requestAttributes request classAttributes

/-- The `CUPS-Get-PPDs` request, with the filter if there is one. -/
def ppdsRequest (filter : Option PpdFilter) : Except Error IppRequestResponse := do
  let request ← transport (IppCrate.newRequest .cupsGetPPDs none)
  let request ← match filter with
    | some filter => do
      let (name, value) := filter.asAttribute
      let value ← bounded .text .textWithoutLanguage value name "filter value too long"
      addAttribute request .operationAttributes name value
    | none => pure request
  requestAttributes request ppdAttributes

namespace IppClient

variable (c : IppClient)

/-- `IppClient::server_default`. -/
def serverDefault : Net (Option String) := do
  let request ← Act.ofExcept getDefaultRequest
  let resp ← c.send request "CUPS-Get-Default"
  return decodeDefault resp

/-- The value `default_printer` resolves on a miss: the `lpoptions` choice, else the server's
default, else nothing; a failure to ask the server is logged and reads as nothing. -/
def resolveDefault : Net (Option String) := do
  match ← Act.read World.lpoptions with
  | some chosen => return some chosen
  | none =>
    match ← c.serverDefault.attempt with
    | .ok name => return name
    | .error _ => return none

/-- `IppClient::default_printer`. -/
def defaultPrinter : Net (Option String) := do
  match ← Act.getCell with
  | some cached => return cached
  | none =>
    let resolved ← c.resolveDefault
    Act.setCell (some resolved)
    return resolved

omit [IppCrate] in
/-- `IppClient::invalidate_default_printer_cache`. -/
def invalidateDefaultPrinterCache : Net Unit := Act.setCell none

/-- `IppClient::printers`. -/
def printers : Net (List Printer) := do
  let default ← c.defaultPrinter
  let request ← Act.ofExcept printersRequest
  let resp ← c.send request "CUPS-Get-Printers"
  return decodePrinters resp default

/-- `IppClient::jobs_request`. -/
def jobsRequest (which : WhichJobs) : Except Error IppRequestResponse := do
  let root ← (IppCrate.parseUri c.base).mapError fun e => Error.transportMsg s!"bad CUPS uri: {e}"
  let request ← transport (IppCrate.getJobs root (some c.user))
  let request ← requestAttributes request jobAttributes
  let which ← bounded .keyword .keyword which.asKeyword "which-jobs" "keyword too long"
  let request ← addAttribute request .operationAttributes "which-jobs" which
  addAttribute request .operationAttributes "my-jobs" (.boolean true)

/-- `IppClient::jobs`. -/
def jobs (which : WhichJobs) : Net (List Job) := do
  let request ← Act.ofExcept (c.jobsRequest which)
  let resp ← c.send request "Get-Jobs"
  return decodeJobs resp

/-- `IppClient::classes`. -/
def classes : Net (List Class) := do
  let request ← Act.ofExcept classesRequest
  let resp ← c.send request "CUPS-Get-Classes"
  return decodeAll resp .printerAttributes Class.decode

/-- `IppClient::ppds`. -/
def ppds (filter : Option PpdFilter) : Net (List Ppd) := do
  let request ← Act.ofExcept (ppdsRequest filter)
  let resp ← c.send request "CUPS-Get-PPDs"
  return decodeAll resp .printerAttributes Ppd.decode

/-- `IppClient::job_request`. -/
def jobRequest (printer : String) (id : JobId) : Except Error IppRequestResponse := do
  let uri ← c.printerUri printer
  let request ← transport (IppCrate.getJobAttributes uri id (some c.user))
  requestAttributes request jobAttributes

/-- `IppClient::job`: `none` when the daemon no longer knows the job. -/
def job (printer : String) (id : JobId) : Net (Option Job) := do
  let request ← Act.ofExcept (c.jobRequest printer id)
  let resp ← c.post request
  if resp.operationOrStatus = clientErrorNotFound then
    return none
  Act.ofExcept (checkStatus resp "Get-Job-Attributes")
  return (decodeJobs resp).head?

end IppClient

/-! ## The requests -/

/-- The attributes a request asks for. -/
def IppRequestResponse.requested (m : IppRequestResponse) : List String :=
  match m.operation "requested-attributes" with
  | some (.array items) => items.filterMap Attrs.asText
  | _ => []

section Requests

variable [LawfulIppCrate] {m m' : IppRequestResponse}

/-- `request_attributes` on a request that asks for nothing yet. -/
theorem requestAttributes_requested {names : List String}
    (hm : m.operation "requested-attributes" = none)
    (h : requestAttributes m names = .ok m') :
    m'.operationOrStatus = m.operationOrStatus ∧ m'.requested = names ∧
      ∀ name, name ≠ "requested-attributes" → m'.operation name = m.operation name := by
  obtain rfl := requestAttributes_ok h
  refine ⟨rfl, ?_, fun name hn => ?_⟩
  · have hf : (names.map IppValue.keyword).filterMap Attrs.asText = names := by
      rw [List.filterMap_map]
      exact List.filterMap_some
    rw [IppRequestResponse.requested, IppRequestResponse.operation_add, hm]
    exact hf
  · rw [IppRequestResponse.operation_add, if_neg (Ne.symm hn), Option.or_none]

theorem getDefaultRequest_code (h : getDefaultRequest = .ok m) :
    m.operationOrStatus = Operation.cupsGetDefault.code := by
  obtain ⟨m0, h0, h⟩ := bind_eq_ok.mp h
  rw [addAttribute_ok h]
  exact (LawfulIppCrate.newRequest_ok (mapError_eq_ok.mp h0)).code

theorem printersRequest_ok (h : printersRequest = .ok m) :
    m.operationOrStatus = Operation.cupsGetPrinters.code ∧ m.requested = printerAttributes := by
  have hn := LawfulIppCrate.cupsGetPrinters_within "requested-attributes" (by decide)
  obtain ⟨hc, hr, -⟩ := requestAttributes_requested hn h
  exact ⟨hc.trans LawfulIppCrate.cupsGetPrinters_code, hr⟩

theorem classesRequest_ok (h : classesRequest = .ok m) : m.requested = classAttributes := by
  obtain ⟨m0, h0, h⟩ := bind_eq_ok.mp h
  have hn := LawfulIppCrate.newRequest_within (mapError_eq_ok.mp h0) "requested-attributes"
    (by decide)
  exact (requestAttributes_requested hn h).2.1

theorem ppdsRequest_ok {filter : Option PpdFilter} (h : ppdsRequest filter = .ok m) :
    m.requested = ppdAttributes := by
  obtain ⟨m0, h0, h⟩ := bind_eq_ok.mp h
  have hn := LawfulIppCrate.newRequest_within (mapError_eq_ok.mp h0) "requested-attributes"
    (by decide)
  cases filter with
  | none => exact (requestAttributes_requested (m := m0) hn h).2.1
  | some filter =>
    -- The filter goes under its own name.
    have hname : filter.asAttribute.1 ≠ "requested-attributes" := by
      cases filter <;> simp [PpdFilter.asAttribute]
    obtain ⟨v, hv, h⟩ := bind_eq_ok.mp h
    obtain ⟨m1, h1, h⟩ := bind_eq_ok.mp h
    obtain rfl := addAttribute_ok h1
    refine (requestAttributes_requested ?_ h).2.1
    show (m0.add .operationAttributes ⟨filter.asAttribute.1, v⟩).operation _ = none
    rw [IppRequestResponse.operation_add, if_neg hname, hn]
    rfl

theorem jobsRequest_ok {c : IppClient} {which : WhichJobs} (h : c.jobsRequest which = .ok m) :
    (∃ root, m.IsFor .getJobs (some (IppCrate.uriText root)) (some c.user)) ∧ m.requested = jobAttributes ∧
      m.operation "my-jobs" = some (.boolean true) := by
  obtain ⟨root, hroot, h⟩ := bind_eq_ok.mp h
  obtain ⟨m0, h0, h⟩ := bind_eq_ok.mp h
  obtain ⟨m1, h1, h⟩ := bind_eq_ok.mp h
  obtain ⟨v, hv, h⟩ := bind_eq_ok.mp h
  obtain ⟨m2, h2, h⟩ := bind_eq_ok.mp h
  have f0 := LawfulIppCrate.getJobs_ok (mapError_eq_ok.mp h0)
  have hn := LawfulIppCrate.getJobs_within (mapError_eq_ok.mp h0)
  obtain ⟨hc, hr, ho⟩ := requestAttributes_requested (hn _ (by decide)) h1
  obtain rfl := addAttribute_ok h2
  obtain rfl := addAttribute_ok h
  refine ⟨⟨root, hc.trans f0.code, ?_, ?_⟩, ?_, ?_⟩
  · simp [IppRequestResponse.operation_add, ho, f0.printer]
  · simp [IppRequestResponse.operation_add, ho, f0.user]
  · simpa [IppRequestResponse.requested, IppRequestResponse.operation_add] using hr
  · simp [IppRequestResponse.operation_add, ho, hn "my-jobs" (by decide)]

theorem jobRequest_ok {c : IppClient} {printer : String} {id : JobId}
    (h : c.jobRequest printer id = .ok m) : m.requested = jobAttributes := by
  obtain ⟨uri, huri, h⟩ := bind_eq_ok.mp h
  obtain ⟨m0, h0, h⟩ := bind_eq_ok.mp h
  have hn := LawfulIppCrate.getJobAttributes_within (mapError_eq_ok.mp h0)
    "requested-attributes" (by decide)
  exact (requestAttributes_requested hn h).2.1

end Requests

/-! ## The default printer, case by case -/

namespace IppClient

section DefaultPrinter

variable {c : IppClient} {w : World} {past : List (Exchange Post Reply)} {cell : Cache}
  {m : IppRequestResponse}

/-- A failure to read the server's default reads as no default. -/
def orNothing : Except Error (Option String) → Option String
  | .ok name => name
  | .error _ => none

/-- What the default printer is after the server was asked. -/
def answeredDefault (reply : Reply) : Option String :=
  orNothing ((accept "CUPS-Get-Default" reply).map decodeDefault)

theorem serverDefault_unbuilt {e : Error} (h : getDefaultRequest = .error e) :
    c.serverDefault w past cell = ⟨.error e, [], cell⟩ := by
  unfold serverDefault
  rw [Act.ofExcept_error_bind h]
  rfl

theorem serverDefault_built (h : getDefaultRequest = .ok m) :
    c.serverDefault w past cell =
      ⟨(accept "CUPS-Get-Default" (c.exchange w past m).reply).map decodeDefault,
        [c.exchange w past m], cell⟩ := by
  unfold serverDefault
  rw [Act.ofExcept_ok_bind h]
  exact send_map m "CUPS-Get-Default" decodeDefault

theorem serverDefault_cell : (c.serverDefault w past cell).cell = cell := by
  cases hr : getDefaultRequest with
  | error e => rw [serverDefault_unbuilt hr]
  | ok m => rw [serverDefault_built hr]

theorem resolveDefault_lpoptions {chosen : String} (h : w.lpoptions = some chosen) :
    c.resolveDefault w past cell = ⟨.ok (some chosen), [], cell⟩ := by
  have hr := Act.read_apply (ε := Error) (τ := Post) (ρ := Reply) w past cell World.lpoptions
  rw [h] at hr
  exact (Act.bind_ok w past cell hr).trans rfl

theorem resolveDefault_server (h : w.lpoptions = none) :
    c.resolveDefault w past cell =
      ⟨.ok (orNothing (c.serverDefault w past cell).result),
        (c.serverDefault w past cell).trace, cell⟩ := by
  have hr := Act.read_apply (ε := Error) (τ := Post) (ρ := Reply) w past cell World.lpoptions
  rw [h] at hr
  refine (Act.bind_ok w past cell hr).trans ?_
  rw [List.append_nil]
  have ha := Act.attempt_apply w past cell c.serverDefault
  rw [serverDefault_cell] at ha
  cases hd : (c.serverDefault w past cell).result with
  | error e =>
    rw [hd] at ha
    simp only [List.nil_append, Act.bind_ok w past cell ha, Act.pure_apply, List.append_nil,
      orNothing]
  | ok name =>
    rw [hd] at ha
    simp only [List.nil_append, Act.bind_ok w past cell ha, Act.pure_apply, List.append_nil,
      orNothing]

/-- A cached value is returned without asking. -/
theorem defaultPrinter_hit (cached : Option String) :
    c.defaultPrinter w past (some cached) = ⟨.ok cached, [], some cached⟩ := by
  have hg := Act.getCell_apply (ε := Error) (τ := Post) (ρ := Reply) w past (some cached)
  exact (Act.bind_ok w past (some cached) hg).trans rfl

/-- A miss resolves, and stores what it resolved. -/
theorem defaultPrinter_miss {v : Option String} {t : List (Exchange Post Reply)}
    (h : c.resolveDefault w past none = ⟨.ok v, t, none⟩) :
    c.defaultPrinter w past none = ⟨.ok v, t, some v⟩ := by
  have hg := Act.getCell_apply (ε := Error) (τ := Post) (ρ := Reply) w past (none : Cache)
  refine (Act.bind_ok w past none hg).trans ?_
  rw [List.append_nil]
  have hs := Act.setCell_apply (ε := Error) w (past ++ t) (none : Cache) (some v)
  simp only [List.nil_append, Act.bind_ok w past none h, Act.bind_ok w (past ++ t) none hs,
    Act.pure_apply, List.append_nil]

theorem defaultPrinter_lpoptions {chosen : String} (h : w.lpoptions = some chosen) :
    c.defaultPrinter w past none = ⟨.ok (some chosen), [], some (some chosen)⟩ :=
  defaultPrinter_miss (resolveDefault_lpoptions h)

/-- Without `lpoptions` the server is asked, and its answer or the lack of one is stored. -/
theorem defaultPrinter_server (h : w.lpoptions = none) :
    c.defaultPrinter w past none =
      ⟨.ok (orNothing (c.serverDefault w past none).result), (c.serverDefault w past none).trace,
        some (orNothing (c.serverDefault w past none).result)⟩ :=
  defaultPrinter_miss (resolveDefault_server h)

theorem defaultPrinter_unbuilt {e : Error} (h : w.lpoptions = none)
    (hr : getDefaultRequest = .error e) :
    c.defaultPrinter w past none = ⟨.ok none, [], some none⟩ := by
  rw [defaultPrinter_server h, serverDefault_unbuilt hr]
  rfl

theorem defaultPrinter_asked (h : w.lpoptions = none) (hm : getDefaultRequest = .ok m) :
    c.defaultPrinter w past none =
      ⟨.ok (answeredDefault (c.exchange w past m).reply), [c.exchange w past m],
        some (answeredDefault (c.exchange w past m).reply)⟩ := by
  rw [defaultPrinter_server h, serverDefault_built hm]
  rfl

end DefaultPrinter

end IppClient

/-! ## What the methods did if they succeeded -/

namespace IppClient

variable (c : IppClient)

theorem serverDefault_emits {P : Exchange Post Reply → Prop}
    (h : ∀ m, getDefaultRequest = .ok m → ∀ r, P ⟨⟨c.inner.uri, m⟩, r⟩) :
    Act.Emits P c.serverDefault :=
  Act.Emits.bind_ofExcept fun m hm =>
    Act.Emits.bind (send_emits c _ (h m hm)) fun _ => Act.Emits.pure _

/-- The default printer costs `CUPS-Get-Default` requests only. -/
theorem defaultPrinter_emits {P : Exchange Post Reply → Prop}
    (h : ∀ m, getDefaultRequest = .ok m → ∀ r, P ⟨⟨c.inner.uri, m⟩, r⟩) :
    Act.Emits P c.defaultPrinter := by
  have hresolve : Act.Emits P c.resolveDefault := by
    refine Act.Emits.bind (Act.Emits.read _) fun chosen => ?_
    cases chosen with
    | some chosen => exact Act.Emits.pure _
    | none =>
      refine Act.Emits.bind (Act.Emits.attempt (c.serverDefault_emits h)) fun answer => ?_
      cases answer with
      | ok name => exact Act.Emits.pure _
      | error e => exact Act.Emits.pure _
  refine Act.Emits.bind Act.Emits.getCell fun cached => ?_
  cases cached with
  | some cached => exact Act.Emits.pure _
  | none =>
    refine Act.Emits.bind hresolve fun resolved => ?_
    exact Act.Emits.bind (Act.Emits.setCell _) fun _ => Act.Emits.pure _

variable {w : World} {past t : List (Exchange Post Reply)} {cell cell' : Cache}

/-- A successful `printers`: the default printer, then one request. -/
theorem printers_ok {printers : List Printer}
    (h : c.printers w past cell = ⟨.ok printers, t, cell'⟩) :
    ∃ default t₀ m resp, c.defaultPrinter w past cell = ⟨.ok default, t₀, cell'⟩ ∧
      printersRequest = .ok m ∧ t = t₀ ++ [⟨⟨c.inner.uri, m⟩, .ok resp⟩] ∧
      printers = decodePrinters resp default := by
  obtain ⟨default, t₀, c₀, t₁, hd, h₁, ht⟩ := Act.bind_eq_ok _ _ _ h
  obtain ⟨m, hm, h₂⟩ := Act.ofExcept_bind_eq_ok _ _ _ h₁
  obtain ⟨resp, t₂, c₂, t₃, hs, h₃, ht'⟩ := Act.bind_eq_ok _ _ _ h₂
  obtain ⟨rfl, -, rfl⟩ := send_eq_ok c hs
  cases h₃
  exact ⟨default, t₀, m, resp, hd, hm, by rw [ht, ht']; rfl, rfl⟩

/-- A successful `jobs`: one request. -/
theorem jobs_ok {which : WhichJobs} {jobs : List Job}
    (h : c.jobs which w past cell = ⟨.ok jobs, t, cell'⟩) :
    ∃ m resp, c.jobsRequest which = .ok m ∧ t = [⟨⟨c.inner.uri, m⟩, .ok resp⟩] ∧
      jobs = decodeJobs resp := by
  obtain ⟨m, hm, h₁⟩ := Act.ofExcept_bind_eq_ok _ _ _ h
  obtain ⟨resp, t₁, c₁, t₂, hs, h₂, ht⟩ := Act.bind_eq_ok _ _ _ h₁
  obtain ⟨rfl, -, rfl⟩ := send_eq_ok c hs
  cases h₂
  exact ⟨m, resp, hm, ht, rfl⟩

end IppClient

end Ipp
