import IppClient.Proofs.Plans

/-!
# What an answer says about the requests

An application that gets `Error::Ipp { operation, status }` from a call wants to know what was
refused; one that gets `Ok` wants to rely on it. Here is what either can conclude, for every call
of the client and of its handles, whatever the server does.

* `Refused`: the server answered the request with that status, and the label is the registered
  name of the operation the request asked for, be it one the `ipp` crate has no variant for.
* `refusal_blames`: **an `Error::Ipp` names an operation that this call sent and the server
  refused**, with the status it gave.
* `success_accepted`: **after `Ok` every request of the call was accepted**, two apart: the default
  printer, which may stay unknown, and a job that the server does not know.

Both follow from `Act.Reports`, which holds of every call (`Call.run_reports`).
-/

namespace Ipp

open Base

/-- Operation codes by their registered names: RFC 8011 and its extensions, and the ones of CUPS. -/
def registry : List (Int16 × String) :=
  [(0x0002, "Print-Job"), (0x0004, "Validate-Job"), (0x0005, "Create-Job"),
    (0x0006, "Send-Document"), (0x0008, "Cancel-Job"), (0x0009, "Get-Job-Attributes"),
    (0x000A, "Get-Jobs"), (0x000B, "Get-Printer-Attributes"), (0x000C, "Hold-Job"),
    (0x000D, "Release-Job"), (0x000E, "Restart-Job"), (0x0010, "Pause-Printer"),
    (0x0011, "Resume-Printer"), (0x0012, "Purge-Jobs"), (0x0013, "Set-Printer-Attributes"),
    (0x0014, "Set-Job-Attributes"), (0x0016, "Create-Printer-Subscriptions"),
    (0x0018, "Get-Subscription-Attributes"), (0x0019, "Get-Subscriptions"),
    (0x001A, "Renew-Subscription"), (0x001B, "Cancel-Subscription"), (0x001C, "Get-Notifications"),
    (0x0022, "Enable-Printer"), (0x0023, "Disable-Printer"), (0x0025, "Hold-New-Jobs"),
    (0x0026, "Release-Held-New-Jobs"), (0x0035, "Get-Documents"), (0x0038, "Cancel-Jobs"),
    (0x0039, "Cancel-My-Jobs"), (0x003A, "Resubmit-Job"), (0x003B, "Close-Job"),
    (0x003C, "Identify-Printer"), (0x003D, "Validate-Document"), (0x4001, "CUPS-Get-Default"),
    (0x4002, "CUPS-Get-Printers"), (0x4005, "CUPS-Get-Classes"), (0x400C, "CUPS-Get-PPDs"),
    (0x400D, "CUPS-Move-Job")]

/-- The registered name of an operation. -/
def registeredName (code : Int16) : Option String := registry.lookup code

/-- An error that blames no server. -/
def OwnFailure (e : Error) : Prop := ∀ operation status, e ≠ .ipp operation status

/-- The computation fails on this side only. -/
abbrev FailsAlone {α : Type} (x : Except Error α) : Prop := Fails OwnFailure x

section Own

variable {α : Type}

theorem own_decode (name detail : String) : OwnFailure (.decode name detail) := nofun

theorem own_transportMsg (message : String) : OwnFailure (.transportMsg message) := nofun

theorem own_ofTransport (e : ForeignError) : OwnFailure (.ofTransport e) := nofun

theorem transport_alone (x : Except ForeignError α) : FailsAlone (transport x) :=
  Fails.mapError own_ofTransport

end Own

section Rules

variable [IppCrate]

/-- The server refused the request of the exchange with this status, and the label is the
registered name of the operation. -/
def Refused (e : Exchange Post Reply) (label status : String) : Prop :=
  registeredName (sentCode e) = some label ∧
    ∃ resp, e.reply = .ok resp ∧ IppCrate.isSuccess resp.operationOrStatus = false ∧
      status = IppCrate.statusText resp.operationOrStatus

/-- The server accepted the request of the exchange. -/
def Accepted (e : Exchange Post Reply) : Prop :=
  ∃ resp, e.reply = .ok resp ∧ IppCrate.isSuccess resp.operationOrStatus = true

/-- The exchange may fail and the call still succeed: the question for the default printer, and
the question for a job when the server does not know it. -/
def Excused (e : Exchange Post Reply) : Prop :=
  sentCode e = Operation.cupsGetDefault.code ∨
    sentCode e = Operation.getJobAttributes.code ∧
      ∃ resp, e.reply = .ok resp ∧ resp.operationOrStatus = clientErrorNotFound

/-- The exchange explains the error. -/
def Explains (err : Error) (e : Exchange Post Reply) : Prop :=
  ∃ label status, err = .ipp label status ∧ Refused e label status

/-- What the result of the action says of its requests is so. -/
abbrev Reports {α : Type} (x : Net α) : Prop :=
  Act.Reports (fun e => Accepted e ∨ Excused e) Explains OwnFailure x

/-! ## Building a request blames no server -/

section Build

variable {m : IppRequestResponse}

theorem addAttribute_alone (m : IppRequestResponse) (tag : DelimiterTag) (name : String)
    (value : IppValue) : FailsAlone (addAttribute m tag name value) :=
  (Fails.mapError fun _ => own_decode _ _).bind fun _ => Fails.ok _

theorem bounded_alone (kind : StringKind) (mk : String → IppValue) (text name detail : String) :
    FailsAlone (bounded kind mk text name detail) := by
  unfold bounded
  split
  · exact Fails.ok _
  · exact Fails.error (own_decode _ _)

theorem addUser_alone (m : IppRequestResponse) (user : String) : FailsAlone (addUser m user) :=
  (bounded_alone _ _ _ _ _).bind fun _ => addAttribute_alone _ _ _ _

theorem requestAttributes_alone (m : IppRequestResponse) (names : List String) :
    FailsAlone (requestAttributes m names) :=
  (Fails.mapM (fun _ => bounded_alone _ _ _ _ _) names).bind fun _ => addAttribute_alone _ _ _ _

theorem addAll_alone (m : IppRequestResponse) (tag : DelimiterTag) (attributes : NamedValues) :
    FailsAlone (addAll m tag attributes) :=
  Fails.foldlM (fun _ _ => addAttribute_alone _ _ _ _) m attributes

theorem addLease_alone (m : IppRequestResponse) (lease : Option Duration) :
    FailsAlone (addLease m lease) := by
  cases lease with
  | none => exact Fails.ok _
  | some lease => exact addAttribute_alone _ _ _ _

theorem rawOperation_alone (opcode : Int16) (uri : Uri) : FailsAlone (rawOperation opcode uri) :=
  (transport_alone _).bind fun _ => Fails.ok _

theorem parsePrinterUri_alone (uri : String) : FailsAlone (IppClient.parsePrinterUri uri) :=
  Fails.mapError fun _ => own_transportMsg _

section Handle

variable (p : IppPrinter)

theorem rawRequest_alone (opcode : Int16) : FailsAlone (p.rawRequest opcode) :=
  (rawOperation_alone opcode p.uri).bind fun _ => addUser_alone _ _

theorem rawIntRequest_alone (opcode : Int16) (name : String) (value : Int32) :
    FailsAlone (p.rawIntRequest opcode name value) :=
  (rawRequest_alone p opcode).bind fun _ => addAttribute_alone _ _ _ _

theorem printerActionRequest_alone (op : Operation) : FailsAlone (p.printerActionRequest op) :=
  (transport_alone _).bind fun _ => addUser_alone _ _

theorem validateDocumentRequest_alone (job : JobId) (format : String) :
    FailsAlone (p.validateDocumentRequest job format) :=
  (rawIntRequest_alone p _ _ _).bind fun _ =>
    (bounded_alone _ _ _ _ _).bind fun _ => addAttribute_alone _ _ _ _

theorem subscribeRequest_alone (events : List NotifyEvent) (lease : Option Duration) :
    FailsAlone (p.subscribeRequest events lease) :=
  (rawRequest_alone p _).bind fun _ =>
    (Fails.mapM (fun _ => bounded_alone _ _ _ _ _) events).bind fun _ =>
      (addAttribute_alone _ _ _ _).bind fun _ => (bounded_alone _ _ _ _ _).bind fun _ =>
        (addAttribute_alone _ _ _ _).bind fun _ => addLease_alone _ _

theorem notificationsRequest_alone (ids : List Int32) : FailsAlone (p.notificationsRequest ids) :=
  (rawRequest_alone p _).bind fun _ =>
    (addAttribute_alone _ _ _ _).bind fun _ => addAttribute_alone _ _ _ _

end Handle

section Client

variable (c : IppClient)

theorem printerUri_alone (queue : String) : FailsAlone (c.printerUri queue) :=
  Fails.mapError fun _ => own_transportMsg _

theorem jobActionRequest_alone (op : Operation) (uri : Uri) (id : JobId) :
    FailsAlone (c.jobActionRequest op uri id) :=
  (transport_alone _).bind fun _ => (bounded_alone _ _ _ _ _).bind fun _ =>
    (addAttribute_alone _ _ _ _).bind fun _ => addAttribute_alone _ _ _ _

theorem moveJobRequest_alone (queue : String) (id : JobId) (destination : String) :
    FailsAlone (c.moveJobRequest queue id destination) :=
  (printerUri_alone c _).bind fun _ => (jobActionRequest_alone c _ _ _).bind fun _ =>
    (printerUri_alone c _).bind fun _ => (bounded_alone _ _ _ _ _).bind fun _ =>
      addAttribute_alone _ _ _ _

theorem identifyPrinterRequest_alone (uri : Uri) (action : IdentifyAction) :
    FailsAlone (c.identifyPrinterRequest uri action) := by
  refine (rawOperation_alone _ _).bind fun _ => (addUser_alone _ _).bind fun _ =>
    (bounded_alone _ _ _ _ _).bind fun _ => (addAttribute_alone _ _ _ _).bind fun _ => ?_
  cases action with
  | display message => exact (bounded_alone _ _ _ _ _).bind fun _ => addAttribute_alone _ _ _ _
  | flash | sound => exact Fails.ok _

theorem validateJobRequest_alone (uri : Uri) (format : String) :
    FailsAlone (c.validateJobRequest uri format) :=
  (transport_alone _).bind fun _ => (bounded_alone _ _ _ _ _).bind fun _ =>
    (bounded_alone _ _ _ _ _).bind fun _ => (addAttribute_alone _ _ _ _).bind fun _ =>
      addAttribute_alone _ _ _ _

theorem jobsRequest_alone (which : WhichJobs) : FailsAlone (c.jobsRequest which) :=
  (Fails.mapError fun _ => own_transportMsg _).bind fun _ => (transport_alone _).bind fun _ =>
    (requestAttributes_alone _ _).bind fun _ => (bounded_alone _ _ _ _ _).bind fun _ =>
      (addAttribute_alone _ _ _ _).bind fun _ => addAttribute_alone _ _ _ _

theorem jobRequest_alone (queue : String) (id : JobId) : FailsAlone (c.jobRequest queue id) :=
  (printerUri_alone c _).bind fun _ => (transport_alone _).bind fun _ =>
    requestAttributes_alone _ _

end Client

theorem classesRequest_alone : FailsAlone classesRequest :=
  (transport_alone _).bind fun _ => requestAttributes_alone _ _

theorem ppdsRequest_alone (filter : Option PpdFilter) : FailsAlone (ppdsRequest filter) := by
  refine (transport_alone _).bind fun _ => ?_
  cases filter with
  | none => exact requestAttributes_alone _ _
  | some filter =>
    exact (bounded_alone _ _ _ _ _).bind fun _ => (addAttribute_alone _ _ _ _).bind fun _ =>
      requestAttributes_alone _ _

end Build

/-! ## Reading a reply blames no server -/

section Decode

omit [IppCrate] in
theorem decodeJobId_alone (resp : IppRequestResponse) : FailsAlone (decodeJobId resp) := by
  unfold decodeJobId
  split
  · exact Fails.ok _
  · exact Fails.error (own_decode _ _)

omit [IppCrate] in
theorem printerDecode_alone (group : IppAttributeGroup) : FailsAlone (Printer.decode group) := by
  have hname (a : Attrs) (name : String) : FailsAlone (a.requireText name) := by
    unfold Attrs.requireText
    cases a.text name with
    | none => exact Fails.error (own_decode _ _)
    | some v => exact Fails.ok v
  have hint (a : Attrs) (name : String) : FailsAlone (a.requireInt name) := by
    unfold Attrs.requireInt
    cases a.int name with
    | none => exact Fails.error (own_decode _ _)
    | some v => exact Fails.ok v
  have hstate (value : Int32) : FailsAlone (PrinterState.fromIpp value) := by
    unfold PrinterState.fromIpp
    split_ifs
    · exact Fails.ok _
    · exact Fails.ok _
    · exact Fails.ok _
    · exact Fails.error (own_decode _ _)
  exact (hname _ _).bind fun _ => (hint _ _).bind fun _ => (hstate _).bind fun _ => Fails.ok _

omit [IppCrate] in
theorem decodePrinter_alone (resp : IppRequestResponse) : FailsAlone (decodePrinter resp) := by
  unfold decodePrinter
  split
  · exact printerDecode_alone _
  · exact Fails.error (own_decode _ _)

omit [IppCrate] in
theorem firstSubscription_alone (resp : IppRequestResponse) :
    FailsAlone (firstSubscription resp) := by
  unfold firstSubscription
  split
  · exact Fails.ok _
  · exact Fails.error (own_decode _ _)

end Decode

/-! ## Sending -/

section Send

variable {α : Type} {c : IppClient} {p : IppPrinter} {d : Heading} {label : String}
  {m : IppRequestResponse} {request : Except Error IppRequestResponse}

/-- A request, and a verdict on the response to it. What never arrives is nobody's refusal. -/
theorem post_reports {verdict : IppRequestResponse → Except Error α}
    (hok : ∀ resp a, verdict resp = .ok a →
      Accepted ⟨⟨c.inner.uri, m⟩, .ok resp⟩ ∨ Excused ⟨⟨c.inner.uri, m⟩, .ok resp⟩)
    (herr : ∀ resp err, verdict resp = .error err →
      OwnFailure err ∨ Explains err ⟨⟨c.inner.uri, m⟩, .ok resp⟩) :
    Reports (c.post m >>= fun resp => Act.ofExcept (verdict resp)) where
  success w past cell a h e he := by
    have hp := c.post_apply m w past cell
    cases hr : w.reply past ⟨c.inner.uri, m⟩ with
    | error err =>
      rw [hr] at hp
      rw [Act.bind_error w past cell hp] at h
      cases h
    | ok resp =>
      rw [hr] at hp
      rw [Act.bind_ok w past cell hp] at h he
      obtain rfl := List.mem_singleton.mp he
      exact hok resp a h
  failure w past cell err h := by
    have hp := c.post_apply m w past cell
    cases hr : w.reply past ⟨c.inner.uri, m⟩ with
    | error e =>
      rw [hr] at hp
      rw [Act.bind_error w past cell hp] at h
      cases h
      exact .inl (own_ofTransport e)
    | ok resp =>
      rw [hr] at hp
      rw [Act.bind_ok w past cell hp] at h ⊢
      obtain hg | hF := herr resp err h
      · exact .inl hg
      · exact .inr ⟨_, List.mem_singleton.mpr rfl, hF⟩

theorem refused_of_status {resp : IppRequestResponse}
    (h : registeredName m.operationOrStatus = some label)
    (hs : ¬ IppCrate.isSuccess resp.operationOrStatus = true) :
    Explains (.ipp label (IppCrate.statusText resp.operationOrStatus))
      ⟨⟨c.inner.uri, m⟩, .ok resp⟩ :=
  ⟨label, _, rfl, h, resp, rfl, Bool.eq_false_iff.mpr hs, rfl⟩

/-- A request under its own name: an error names what was refused. -/
theorem send_reports (h : registeredName m.operationOrStatus = some label) :
    Reports (c.send m label) := by
  have hsend : c.send m label = c.post m >>= fun resp =>
      Act.ofExcept (if IppCrate.isSuccess resp.operationOrStatus then .ok resp
        else .error (.ipp label (IppCrate.statusText resp.operationOrStatus))) := by
    unfold IppClient.send IppClient.checkStatus
    congr 1
    funext resp
    split
    · exact Act.ofExcept_ok_bind rfl _
    · exact Act.ofExcept_error_bind rfl _
  rw [hsend]
  refine post_reports (fun resp a ha => ?_) fun resp err he => ?_
  · split at ha
    · rename_i hs
      exact .inl ⟨resp, rfl, hs⟩
    · cases ha
  · split at he
    · cases he
    · rename_i hs
      cases he
      exact .inr (refused_of_status h hs)

theorem request_reports {f : IppRequestResponse → Net α} (hr : FailsAlone request)
    (h : ∀ m, request = .ok m → m.heading = d) (hl : registeredName d.code = some label)
    (hf : ∀ resp, Reports (f resp)) :
    Reports (do
      let request ← Act.ofExcept request
      let resp ← c.send request label
      f resp) := by
  refine Act.Reports.bind_ofExcept hr fun m hm => (send_reports ?_).bind hf
  have hc : m.operationOrStatus = d.code := congrArg Heading.code (h m hm)
  rw [hc, hl]

theorem perform_reports (hr : FailsAlone request) (h : ∀ m, request = .ok m → m.heading = d)
    (hl : registeredName d.code = some label) : Reports (p.perform request label) :=
  request_reports hr h hl fun _ => Act.Reports.pure _

theorem ask_reports {decode : IppRequestResponse → Except Error α} (hr : FailsAlone request)
    (h : ∀ m, request = .ok m → m.heading = d) (hl : registeredName d.code = some label)
    (hdec : ∀ resp, FailsAlone (decode resp)) : Reports (p.ask request label decode) :=
  request_reports hr h hl fun resp => Act.Reports.ofExcept (hdec resp)

theorem onUri_reports {queue : String} {g : Uri → Net α} (h : ∀ uri, Reports (g uri)) :
    Reports (Act.ofExcept (c.printerUri queue) >>= g) :=
  Act.Reports.bind_ofExcept (printerUri_alone c queue) fun uri _ => h uri

omit [IppCrate] in
theorem openFile_alone (path : Path) (w : World) (past : List (Exchange Post Reply))
    (cell : Cache) {err : Error} (h : (IppClient.openFile path w past cell).result = .error err) :
    OwnFailure err := by
  unfold IppClient.openFile at h
  rw [Act.bind_ok w past cell (Act.read_apply w past cell _)] at h
  refine Fails.mapError (P := OwnFailure) (fun _ => ?_) err h
  exact nofun

theorem openFile_reports (path : Path) : Reports (IppClient.openFile path) where
  success w past cell file h e he := absurd he (by
    have := openFile_emits (P := fun _ => False) path w past cell e
    exact this)
  failure w past cell err h := .inl (openFile_alone path w past cell h)

end Send

variable [LawfulIppCrate]

/-! ## The shared methods -/

section Shared

variable {c : IppClient} {uri : Uri}

theorem jobActionAt_reports {op : Operation} {label : String} (id : JobId)
    (hop : op.code ∉ structOperations) (hl : registeredName op.code = some label) :
    Reports (c.jobActionAt op label uri id) :=
  request_reports (d := .about uri (some c.user) op.code) (jobActionRequest_alone c _ _ _)
    (fun _ hm => heading_of_new (jobActionRequest_ok hm).1 hop) hl fun _ => Act.Reports.pure _

/-- The cleanup of a streaming submission does not hide what went wrong. -/
theorem printStreamAt_reports (reader : Payload) (format : Option String) (name : String) :
    Reports (c.printStreamAt uri reader format name) := by
  refine request_reports (d := .about uri none Operation.createJob.code) (transport_alone _)
    (fun m hm => ?_) rfl fun resp => ?_
  · exact heading_of_struct (LawfulIppCrate.createJob_ok (mapError_eq_ok.mp hm)) (by decide)
  refine Act.Reports.bind_ofExcept (decodeJobId_alone resp) fun job _ =>
    Act.Reports.bind_ofExcept (transport_alone _) fun m hm => ?_
  refine Act.Reports.attempt_bind (send_reports ?_) (fun _ => Act.Reports.pure job)
    fun err w past cell => ?_
  · rw [(LawfulIppCrate.sendDocument_ok (mapError_eq_ok.mp hm)).1.code]
    rfl
  · exact Act.attempt_fail_result _ err w past cell

theorem printerAttributesAt_reports : Reports (c.printerAttributesAt uri) := by
  refine request_reports (d := .about uri none Operation.getPrinterAttributes.code)
    (transport_alone _) (fun m hm => ?_) rfl fun resp =>
      Act.Reports.ofExcept (decodePrinter_alone resp)
  exact heading_of_struct (LawfulIppCrate.getPrinterAttributes_ok (mapError_eq_ok.mp hm)) (by decide)

theorem printerAt_reports (uri : String) : Reports (c.printerAt uri) :=
  Act.Reports.bind_ofExcept (parsePrinterUri_alone uri) fun _ _ => printerAttributesAt_reports

theorem identifyPrinterAt_reports (action : IdentifyAction) :
    Reports (c.identifyPrinterAt uri action) :=
  request_reports (identifyPrinterRequest_alone c _ _)
    (fun _ hm => heading_identifyPrinterRequest hm) rfl fun _ => Act.Reports.pure _

theorem validateJobAt_reports (format : String) : Reports (c.validateJobAt uri format) :=
  request_reports (validateJobRequest_alone c _ _) (fun _ hm => heading_validateJobRequest hm) rfl
    fun _ => Act.Reports.pure _

end Shared

/-! ## The methods of the handles -/

theorem PrinterMethod.run_reports (p : IppPrinter) (method : PrinterMethod) :
    Reports (method.run p) := by
  have hok {α : Type} (f : IppRequestResponse → α) (resp : IppRequestResponse) :
      FailsAlone (.ok (f resp)) := Fails.ok _
  cases method with
  | attributes => exact printerAttributesAt_reports.void
  | createJob name =>
    refine (ask_reports (d := .about p.uri none Operation.createJob.code) (transport_alone _)
      (fun m hm => ?_) rfl fun resp => (decodeJobId_alone resp).bind fun _ => Fails.ok _).void
    exact heading_of_struct (LawfulIppCrate.createJob_ok (mapError_eq_ok.mp hm)) (by decide)
  | printStream reader format name => exact (printStreamAt_reports reader format name).void
  | printFile path =>
    exact ((openFile_reports path).bind fun file => printStreamAt_reports file _ _).void
  | cancelJob id | holdJob id | releaseJob id | restartJob id =>
    exact perform_reports (jobActionRequest_alone p.client _ _ _)
      (fun _ hm => heading_of_new (jobActionRequest_ok hm).1 (by decide)) rfl
  | purgeJobs => exact perform_reports (transport_alone _) (fun _ hm => purgeJobs_heading hm) rfl
  | validate format => exact validateJobAt_reports format
  | identify action => exact identifyPrinterAt_reports action
  | pause | resume =>
    exact perform_reports (printerActionRequest_alone p _)
      (fun _ hm => heading_printerActionRequest (by decide) hm) rfl
  | documents job =>
    exact (ask_reports (rawIntRequest_alone p _ _ _)
      (fun _ hm => heading_rawIntRequest (by decide) (by decide) hm) rfl (hok _)).void
  | validateDocument job format =>
    exact perform_reports (validateDocumentRequest_alone p _ _)
      (fun _ hm => heading_validateDocumentRequest hm) rfl
  | disable | enable | holdNewJobs | releaseHeldNewJobs | cancelMyJobs | cancelAllJobs =>
    exact perform_reports (rawRequest_alone p _) (fun _ hm => heading_rawRequest (by decide) hm) rfl
  | resubmitJob id =>
    exact (ask_reports (rawIntRequest_alone p _ _ _)
      (fun _ hm => heading_rawIntRequest (by decide) (by decide) hm) rfl decodeJobId_alone).void
  | setJobAttributes id values =>
    exact perform_reports ((rawIntRequest_alone p _ _ _).bind fun _ => addAll_alone _ _ _)
      (fun _ hm => heading_setJobAttributesRequest hm) rfl
  | setAttributes values =>
    exact perform_reports ((rawRequest_alone p _).bind fun _ => addAll_alone _ _ _)
      (fun _ hm => heading_setAttributesRequest hm) rfl
  | subscribe events lease =>
    exact (ask_reports (subscribeRequest_alone p _ _) (fun _ hm => heading_subscribeRequest hm) rfl
      firstSubscription_alone).void
  | subscriptions =>
    exact (ask_reports (rawRequest_alone p _) (fun _ hm => heading_rawRequest (by decide) hm) rfl (hok _)).void
  | subscription id =>
    exact (ask_reports (rawIntRequest_alone p _ _ _)
      (fun _ hm => heading_rawIntRequest (by decide) (by decide) hm) rfl firstSubscription_alone).void
  | notifications ids =>
    exact (ask_reports (notificationsRequest_alone p _)
      (fun _ hm => heading_notificationsRequest hm) rfl (hok _)).void
  | renewSubscription id lease =>
    exact perform_reports ((rawIntRequest_alone p _ _ _).bind fun _ => addLease_alone _ _)
      (fun _ hm => heading_renewSubscriptionRequest hm) rfl
  | cancelSubscription id =>
    exact perform_reports (rawIntRequest_alone p _ _ _)
      (fun _ hm => heading_rawIntRequest (by decide) (by decide) hm) rfl

theorem JobMethod.run_reports (j : IppJob) (method : JobMethod) : Reports (method.run j) := by
  cases method with
  | addDocument reader format last =>
    refine (request_reports (d := .about j.printer.uri (some j.printer.client.user)
      Operation.sendDocument.code) (transport_alone _) (fun m hm => ?_) rfl fun _ =>
        Act.Reports.pure _).void
    exact heading_of_struct (LawfulIppCrate.sendDocument_ok (mapError_eq_ok.mp hm)).1 (by decide)
  | close =>
    refine Act.Reports.void ?_
    unfold IppJob.close
    split
    · exact Act.Reports.pure _
    · exact request_reports ((jobActionRequest_alone _ _ _ _).bind fun _ => Fails.ok _)
        (fun _ hm => heading_closeRequest hm) rfl fun _ => Act.Reports.pure _
  | cancel =>
    exact perform_reports (jobActionRequest_alone _ _ _ _)
      (fun _ hm => heading_of_new (jobActionRequest_ok hm).1 (by decide)) rfl

/-! ## The methods of the client -/

section Client

variable (c : IppClient)

omit [LawfulIppCrate] in
/-- `default_printer` never fails. -/
theorem defaultPrinter_succeeds (w : World) (past : List (Exchange Post Reply)) (cell : Cache) :
    ∃ d, (c.defaultPrinter w past cell).result = .ok d := by
  cases cell with
  | some cached => exact ⟨cached, by rw [IppClient.defaultPrinter_hit]⟩
  | none =>
    cases hl : w.lpoptions with
    | some chosen => exact ⟨some chosen, by rw [IppClient.defaultPrinter_lpoptions hl]⟩
    | none => exact ⟨_, by rw [IppClient.defaultPrinter_server hl]⟩

theorem defaultPrinter_reports : Reports c.defaultPrinter := by
  refine Act.Reports.of_emits (fun w past cell e he => ?_) (defaultPrinter_succeeds c)
  have hm := (defaultPrinter_follows c).mem he
  exact .inr (.inl (congrArg Heading.code (List.mem_singleton.mp hm)))

theorem printers_reports : Reports c.printers :=
  (defaultPrinter_reports c).bind fun _ =>
    request_reports (requestAttributes_alone _ _) (fun _ hm => heading_printersRequest hm) rfl
      fun _ => Act.Reports.pure _

theorem jobs_reports (which : WhichJobs) : Reports (c.jobs which) := by
  refine Act.Reports.bind_ofExcept (jobsRequest_alone c which) fun m hm =>
    (send_reports ?_).bind fun _ => Act.Reports.pure _
  obtain ⟨⟨root, hf⟩, -, -⟩ := jobsRequest_ok hm
  rw [hf.code]
  rfl

/-- A job that the server does not know is no failure of `job`. -/
theorem job_reports (queue : String) (id : JobId) : Reports (c.job queue id) := by
  refine Act.Reports.bind_ofExcept (jobRequest_alone c queue id) fun m hm => ?_
  obtain ⟨uri, huri, -⟩ := bind_eq_ok.mp hm
  have hcode : m.operationOrStatus = Operation.getJobAttributes.code :=
    congrArg Heading.code (heading_jobRequest huri hm)
  have hrest (resp : IppRequestResponse) : (do
      if resp.operationOrStatus = clientErrorNotFound then
        return none
      Act.ofExcept (IppClient.checkStatus resp "Get-Job-Attributes")
      return (decodeJobs resp).head? : Net (Option Job)) =
      Act.ofExcept (if resp.operationOrStatus = clientErrorNotFound then .ok none
        else if IppCrate.isSuccess resp.operationOrStatus then .ok (decodeJobs resp).head?
        else .error (.ipp "Get-Job-Attributes" (IppCrate.statusText resp.operationOrStatus))) := by
    by_cases hn : resp.operationOrStatus = clientErrorNotFound
    · rw [if_pos hn, if_pos hn]
      rfl
    · rw [if_neg hn, if_neg hn, IppClient.checkStatus]
      split
      · exact Act.ofExcept_ok_bind rfl _
      · exact Act.ofExcept_error_bind rfl _
  simp only [hrest]
  refine post_reports (fun resp a ha => ?_) fun resp err he => ?_
  · split at ha
    · rename_i hn
      exact .inr (.inr ⟨hcode, resp, rfl, hn⟩)
    · split at ha
      · rename_i hs
        exact .inl ⟨resp, rfl, hs⟩
      · cases ha
  · split at he
    · cases he
    · split at he
      · cases he
      · rename_i hs
        cases he
        exact .inr (refused_of_status (by rw [hcode]; rfl) hs)

theorem ClientMethod.run_reports (method : ClientMethod) : Reports (method.run c) := by
  have hok {α : Type} (f : IppRequestResponse → α) (resp : IppRequestResponse) :
      Reports (pure (f resp)) := Act.Reports.pure _
  cases method with
  | defaultPrinter => exact (defaultPrinter_reports c).void
  | printers => exact (printers_reports c).void
  | jobs which => exact (jobs_reports c which).void
  | job queue id => exact (job_reports c queue id).void
  | classes =>
    exact (request_reports classesRequest_alone (fun _ hm => heading_classesRequest hm) rfl
      (hok _)).void
  | ppds filter =>
    exact (request_reports (ppdsRequest_alone filter) (fun _ hm => heading_ppdsRequest hm) rfl
      (hok _)).void
  | printer name => exact (onUri_reports fun uri => printerAt_reports _).void
  | printerAt uri => exact (printerAt_reports uri).void
  | cancelJob queue id | holdJob queue id | releaseJob queue id | restartJob queue id =>
    exact onUri_reports fun _ => jobActionAt_reports id (by decide) rfl
  | moveJob queue id destination =>
    refine Act.Reports.bind_ofExcept (moveJobRequest_alone c _ _ _) fun m hm =>
      (send_reports ?_).bind fun _ => Act.Reports.pure _
    obtain ⟨uri, huri, -⟩ := moveJobRequest_ok hm
    have hc := congrArg Heading.code (heading_moveJobRequest huri hm)
    exact congrArg registeredName hc
  | purgeJobs queue =>
    exact onUri_reports fun _ =>
      request_reports (transport_alone _) (fun _ hm => purgeJobs_heading hm) rfl (hok _)
  | identifyPrinter queue action => exact onUri_reports fun _ => identifyPrinterAt_reports action
  | validateJob queue format => exact onUri_reports fun _ => validateJobAt_reports format
  | printBytes queue bytes format name =>
    refine (onUri_reports fun uri => request_reports (d := .about uri (some c.user)
      Operation.printJob.code) (transport_alone _) (fun m hm => ?_) rfl fun resp =>
        Act.Reports.ofExcept (decodeJobId_alone resp)).void
    exact heading_of_struct (LawfulIppCrate.printJob_ok (mapError_eq_ok.mp hm)) (by decide)
  | printStream queue reader format name =>
    exact (onUri_reports fun _ => printStreamAt_reports reader format name).void
  | printFile queue path =>
    exact ((openFile_reports path).bind fun file =>
      onUri_reports fun _ => printStreamAt_reports file _ _).void

theorem Call.run_reports (call : Call) : Reports (call.run c) := by
  cases call with
  | client method => exact method.run_reports c
  | printer uri method => exact method.run_reports ⟨c, uri⟩
  | job uri id closed method => exact method.run_reports ⟨⟨c, uri⟩, id, closed⟩

theorem poll_reports (l : EventLoop) : Reports (c.poll l) := by
  have hs : Reports c.snapshot :=
    (printers_reports c).bind fun _ => (jobs_reports c _).bind fun _ => Act.Reports.pure _
  refine ⟨fun w past cell a h => ?_, fun w past cell err h => ?_⟩
  · rw [IppClient.poll_apply] at h ⊢
    exact hs.success w past _ a h
  · rw [IppClient.poll_apply] at h ⊢
    exact hs.failure w past _ err h

end Client

/-! ## What an application may conclude -/

/-- The calls that can do without an answer to one of their requests. -/
def Call.Tolerates : Call → Prop
  | .client .defaultPrinter => True
  | .client .printers => True
  | .client (.job _ _) => True
  | _ => False

/-- The operations of requests that can be excused. -/
def IsExcusable (code : Int16) : Prop :=
  code = Operation.cupsGetDefault.code ∨ code = Operation.getJobAttributes.code

instance (code : Int16) : Decidable (IsExcusable code) := inferInstanceAs (Decidable (_ ∨ _))

omit [IppCrate] [LawfulIppCrate] in
/-- Only the tolerant calls ask for an operation that can be excused. -/
theorem codes_not_excusable {call : Call} (h : ¬ call.Tolerates) :
    ∀ code ∈ call.codes, ¬ IsExcusable code := by
  refine Call.forall_codes (fun call => ¬ call.Tolerates) (fun m h => ?_) (fun uri m _ => ?_)
    (fun uri id closed m _ => ?_) h
  · cases m <;> first | rfl | exact absurd trivial h
  · cases m <;> rfl
  · cases m <;> rfl

/-- **An error blames what was refused.** If a call, or the poll of an event stream, fails with
`Error::Ipp { operation, status }`, then in this call the server refused a request with that
status, and the error gives the registered name of the operation that the request asked for. -/
theorem refusal_blames (c : IppClient) (w : World) (past : List (Exchange Post Reply))
    (cell : Cache) (label status : String) :
    (∀ call : Call, (call.run c w past cell).result = .error (.ipp label status) →
      ∃ e ∈ (call.run c w past cell).trace, Refused e label status) ∧
    ∀ l : EventLoop, (c.poll l w past cell).result = .error (.ipp label status) →
      ∃ e ∈ (c.poll l w past cell).trace, Refused e label status := by
  have hblame {α : Type} {x : Net α} (hx : Reports x)
      (h : (x w past cell).result = .error (.ipp label status)) :
      ∃ e ∈ (x w past cell).trace, Refused e label status := by
    obtain hown | ⟨e, he, label', status', heq, hr⟩ := hx.failure w past cell _ h
    · exact absurd rfl (hown label status)
    · cases heq
      exact ⟨e, he, hr⟩
  exact ⟨fun call => hblame (call.run_reports c), fun l => hblame (poll_reports c l)⟩

/-- **After `Ok` everything was accepted.** If a call succeeds, the server accepted every request
it made. Three methods of the client make do with less: `default_printer` and `printers` without
the server's default, and `job` where the server does not know the job. -/
theorem success_accepted (c : IppClient) (call : Call) (w : World)
    (past : List (Exchange Post Reply)) (cell : Cache)
    (h : (call.run c w past cell).result = .ok ()) :
    ∀ e ∈ (call.run c w past cell).trace, Accepted e ∨ call.Tolerates ∧ Excused e := by
  intro e he
  obtain ha | hx := (call.run_reports c).success w past cell () h e he
  · exact .inl ha
  · by_cases ht : call.Tolerates
    · exact .inr ⟨ht, hx⟩
    · have hn : ¬ IsExcusable (sentCode e) := codes_not_excusable ht _ (call.sentCode_mem he)
      obtain hc | ⟨hc, -⟩ := hx
      · exact absurd (.inl hc) hn
      · exact absurd (.inr hc) hn

end Rules

/-! ## A server that refuses, and one that accepts -/

section Reference

attribute [local instance] Reference.crate

/-- A server that refuses everything with `client-error-not-authorized`. -/
def unwilling : World := .answering fun _ => .ok ⟨0x0403, [], []⟩

/-- Closing a job goes out under an operation code of its own, and is refused under its name. -/
theorem refusal_blames_close :
    ∃ e ∈ (Call.run localClient (.job localClient.inner.uri 7 false .close) unwilling []
        none).trace,
      Refused e "Close-Job" (Reference.statusText 0x0403) :=
  have := Reference.lawful
  (refusal_blames localClient unwilling [] none "Close-Job" (Reference.statusText 0x0403)).1
    (.job localClient.inner.uri 7 false .close) (by decide)

/-- A queue that is paused was paused by a request that was accepted. -/
theorem success_accepted_pause :
    ∃ e ∈ (Call.run localClient (.printer localClient.inner.uri .pause)
      (.answering fun _ => accepted []) [] none).trace,
        Accepted e ∨ (Call.printer localClient.inner.uri .pause).Tolerates ∧ Excused e := by
  have := Reference.lawful
  obtain ⟨e, he⟩ : ∃ e, e ∈ (Call.run localClient (.printer localClient.inner.uri .pause)
      (.answering fun _ => accepted []) [] none).trace := ⟨_, .head _⟩
  exact ⟨e, he, success_accepted localClient (.printer localClient.inner.uri .pause)
    (.answering fun _ => accepted []) [] none rfl e he⟩

end Reference

end Ipp
