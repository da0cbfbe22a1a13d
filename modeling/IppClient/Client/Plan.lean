import IppClient.Base.Report
import IppClient.Client.Session

/-!
# What a call may transmit

The `Heading` of a request is the operation, the printer and the user it names. `Call.plan` lists
the headings of the requests a call may transmit, in order: an application that knows the plan
knows what the call can do to a server, whatever the server answers.

* `Call.plan_codes`: the operations of a plan depend on the method alone.
* `heading_of_struct`, `heading_of_new`, `heading_addUser`, ..: what the builders of a request do to
  its heading.
-/

namespace Ipp

open Base

/-- What a request names: the operation, the printer (`printer-uri`) and the user
(`requesting-user-name`). -/
structure Heading where
  code : Int16
  printer : Option IppValue
  user : Option IppValue

/-- The heading of a request. -/
def IppRequestResponse.heading (m : IppRequestResponse) : Heading where
  code := m.operationOrStatus
  printer := m.operation "printer-uri"
  user := m.operation "requesting-user-name"

/-- The heading of the request of an exchange. -/
def sentHeading (e : Exchange Post Reply) : Heading := e.call.request.heading

/-- The requests of `f`, if the URI they are about can be parsed. -/
def onUri (uri : Except Error Uri) (f : Uri → List Heading) : List Heading :=
  match uri with
  | .ok uri => f uri
  | .error _ => []

variable [IppCrate]

/-- A request about a printer, for a user or for none. -/
def Heading.about (uri : Uri) (user : Option String) (code : Int16) : Heading where
  code
  printer := some (.uri (requestUri code uri))
  user := user.map .nameWithoutLanguage

/-! ## The plans -/

/-- A streaming submission. `Create-Job` names no user. -/
def submissionPlan (uri : Uri) (user : String) : List Heading :=
  [.about uri none Operation.createJob.code, .about uri (some user) Operation.sendDocument.code,
    .about uri (some user) Operation.cancelJob.code]

/-- The operation code of a method that makes one request for the client's user. -/
def PrinterMethod.code : PrinterMethod → Option Int16
  | .cancelJob _ => some Operation.cancelJob.code
  | .holdJob _ => some Operation.holdJob.code
  | .releaseJob _ => some Operation.releaseJob.code
  | .restartJob _ => some Operation.restartJob.code
  | .purgeJobs => some Operation.purgeJobs.code
  | .validate _ => some Operation.validateJob.code
  | .identify _ => some Ipp.identifyPrinter
  | .pause => some Operation.pausePrinter.code
  | .resume => some Operation.resumePrinter.code
  | .documents _ => some getDocuments
  | .validateDocument _ _ => some Ipp.validateDocument
  | .disable => some disablePrinter
  | .enable => some enablePrinter
  | .holdNewJobs => some Ipp.holdNewJobs
  | .releaseHeldNewJobs => some Ipp.releaseHeldNewJobs
  | .cancelMyJobs => some Ipp.cancelMyJobs
  | .cancelAllJobs => some cancelJobs
  | .resubmitJob _ => some Ipp.resubmitJob
  | .setJobAttributes _ _ => some Ipp.setJobAttributes
  | .setAttributes _ => some setPrinterAttributes
  | .subscribe _ _ => some createPrinterSubscriptions
  | .subscriptions => some getSubscriptions
  | .subscription _ => some getSubscriptionAttributes
  | .notifications _ => some getNotifications
  | .renewSubscription _ _ => some Ipp.renewSubscription
  | .cancelSubscription _ => some Ipp.cancelSubscription
  | .attributes => none
  | .printStream _ _ _ => none
  | .printFile _ => none
  | .createJob _ => none

/-- The requests of a method of a printer handle. -/
def PrinterMethod.plan (p : IppPrinter) (method : PrinterMethod) : List Heading :=
  match method with
  | .attributes => [.about p.uri none Operation.getPrinterAttributes.code]
  | .createJob _ => [.about p.uri none Operation.createJob.code]
  | .printStream _ _ _ => submissionPlan p.uri p.client.user
  | .printFile _ => submissionPlan p.uri p.client.user
  | _ => (method.code.map (Heading.about p.uri (some p.client.user))).toList

/-- The requests of a method of a job handle. -/
def JobMethod.plan (j : IppJob) : JobMethod → List Heading
  | .addDocument _ _ _ =>
    [.about j.printer.uri (some j.printer.client.user) Operation.sendDocument.code]
  | .close => [.about j.printer.uri (some j.printer.client.user) closeJob]
  | .cancel => [.about j.printer.uri (some j.printer.client.user) Operation.cancelJob.code]

/-- The request for the server's default printer. -/
def defaultPlan : List Heading := [⟨Operation.cupsGetDefault.code, none, none⟩]

/-- The requests of `printers`. -/
def printersPlan : List Heading :=
  defaultPlan ++
    [⟨Operation.cupsGetPrinters.code, IppCrate.cupsGetPrinters.operation "printer-uri", none⟩]

/-- The request of `jobs`. -/
def jobsPlan (c : IppClient) : List Heading :=
  onUri ((IppCrate.parseUri c.base).mapError fun e => Error.transportMsg s!"bad CUPS uri: {e}")
    fun root => [.about root (some c.user) Operation.getJobs.code]

/-- The requests of a method of the client. -/
def ClientMethod.plan (c : IppClient) : ClientMethod → List Heading
  | .defaultPrinter => defaultPlan
  | .printers => printersPlan
  | .jobs _ => jobsPlan c
  | .job queue _ => named queue Operation.getJobAttributes.code
  | .classes => [⟨Operation.cupsGetClasses.code, none, none⟩]
  | .ppds _ => [⟨Operation.cupsGetPPDs.code, none, none⟩]
  | .printer name => onUri (c.printerUri name) fun uri => attributesOf (IppCrate.uriText uri)
  | .printerAt uri => attributesOf uri
  | .cancelJob queue _ => named queue Operation.cancelJob.code
  | .holdJob queue _ => named queue Operation.holdJob.code
  | .releaseJob queue _ => named queue Operation.releaseJob.code
  | .restartJob queue _ => named queue Operation.restartJob.code
  | .moveJob queue _ _ => named queue Operation.cupsMoveJob.code
  | .purgeJobs queue => named queue Operation.purgeJobs.code
  | .identifyPrinter queue _ => named queue Ipp.identifyPrinter
  | .validateJob queue _ => named queue Operation.validateJob.code
  | .printBytes queue _ _ _ => named queue Operation.printJob.code
  | .printStream queue _ _ _ => onUri (c.printerUri queue) fun uri => submissionPlan uri c.user
  | .printFile queue _ => onUri (c.printerUri queue) fun uri => submissionPlan uri c.user
where
  /-- One request about a queue, for the client's user. -/
  named (queue : String) (code : Int16) : List Heading :=
    onUri (c.printerUri queue) fun uri => [.about uri (some c.user) code]
  /-- The request for the attributes of the printer at a URI. -/
  attributesOf (uri : String) : List Heading :=
    onUri (IppClient.parsePrinterUri uri) fun uri =>
      [.about uri none Operation.getPrinterAttributes.code]

/-- The requests of a call. -/
def Call.plan (c : IppClient) : Call → List Heading
  | .client method => method.plan c
  | .printer uri method => method.plan ⟨c, uri⟩
  | .job uri id closed method => method.plan ⟨⟨c, uri⟩, id, closed⟩

/-- The requests of a poll. -/
def pollPlan (c : IppClient) : List Heading := printersPlan ++ jobsPlan c

/-! ## The operations of a plan -/

/-- The operations of a streaming submission. -/
def submissionCodes : List Int16 :=
  [Operation.createJob.code, Operation.sendDocument.code, Operation.cancelJob.code]

def PrinterMethod.codes (method : PrinterMethod) : List Int16 :=
  match method with
  | .attributes => [Operation.getPrinterAttributes.code]
  | .createJob _ => [Operation.createJob.code]
  | .printStream _ _ _ => submissionCodes
  | .printFile _ => submissionCodes
  | _ => method.code.toList

def JobMethod.codes : JobMethod → List Int16
  | .addDocument _ _ _ => [Operation.sendDocument.code]
  | .close => [closeJob]
  | .cancel => [Operation.cancelJob.code]

def ClientMethod.codes : ClientMethod → List Int16
  | .defaultPrinter => [Operation.cupsGetDefault.code]
  | .printers => [Operation.cupsGetDefault.code, Operation.cupsGetPrinters.code]
  | .jobs _ => [Operation.getJobs.code]
  | .job _ _ => [Operation.getJobAttributes.code]
  | .classes => [Operation.cupsGetClasses.code]
  | .ppds _ => [Operation.cupsGetPPDs.code]
  | .printer _ => [Operation.getPrinterAttributes.code]
  | .printerAt _ => [Operation.getPrinterAttributes.code]
  | .cancelJob _ _ => [Operation.cancelJob.code]
  | .holdJob _ _ => [Operation.holdJob.code]
  | .releaseJob _ _ => [Operation.releaseJob.code]
  | .restartJob _ _ => [Operation.restartJob.code]
  | .moveJob _ _ _ => [Operation.cupsMoveJob.code]
  | .purgeJobs _ => [Operation.purgeJobs.code]
  | .identifyPrinter _ _ => [Ipp.identifyPrinter]
  | .validateJob _ _ => [Operation.validateJob.code]
  | .printBytes _ _ _ _ => [Operation.printJob.code]
  | .printStream _ _ _ _ => submissionCodes
  | .printFile _ _ => submissionCodes

/-- The operations that a call may ask for, in order. -/
def Call.codes : Call → List Int16
  | .client method => method.codes
  | .printer _ method => method.codes
  | .job _ _ _ method => method.codes

/-- The operations that a poll asks for. -/
def pollCodes : List Int16 :=
  [Operation.cupsGetDefault.code, Operation.cupsGetPrinters.code, Operation.getJobs.code]

section Codes

variable {c : IppClient} {codes : List Int16}

omit [IppCrate] in
/-- A property of every code of a list, checked one by one. -/
theorem forall_codes {P : Int16 → Prop} [DecidablePred P]
    (h : codes.all (fun code => decide (P code)) = true) : ∀ code ∈ codes, P code :=
  fun code hm => of_decide_eq_true (List.all_eq_true.mp h code hm)

omit [IppCrate] in
/-- A property of the operations of the calls that meet `Q`, checked method by method. -/
theorem Call.forall_codes (Q : Call → Prop) {P : Int16 → Prop} [DecidablePred P] {call : Call}
    (hclient : ∀ m : ClientMethod, Q (.client m) →
      m.codes.all (fun code => decide (P code)) = true)
    (hprinter : ∀ (uri : Uri) (m : PrinterMethod), Q (.printer uri m) →
      m.codes.all (fun code => decide (P code)) = true)
    (hjob : ∀ (uri : Uri) (id : JobId) (closed : Bool) (m : JobMethod), Q (.job uri id closed m) →
      m.codes.all (fun code => decide (P code)) = true)
    (h : Q call) : ∀ code ∈ call.codes, P code := by
  cases call with
  | client m => exact Ipp.forall_codes (hclient m h)
  | printer uri m => exact Ipp.forall_codes (hprinter uri m h)
  | job uri id closed m => exact Ipp.forall_codes (hjob uri id closed m h)

omit [IppCrate] in
theorem onUri_codes {uri : Except Error Uri} {f : Uri → List Heading}
    (h : ∀ u, ((f u).map Heading.code).Sublist codes) :
    ((onUri uri f).map Heading.code).Sublist codes := by
  cases uri with
  | error e => exact List.nil_sublist _
  | ok u => exact h u

theorem ClientMethod.plan_codes (method : ClientMethod) :
    ((method.plan c).map Heading.code).Sublist method.codes := by
  cases method with
  | defaultPrinter | printers | classes | ppds _ => exact List.Sublist.refl _
  | printer name => exact onUri_codes fun _ => onUri_codes fun _ => List.Sublist.refl _
  | _ => exact onUri_codes fun _ => List.Sublist.refl _

theorem Call.plan_codes (call : Call) : ((call.plan c).map Heading.code).Sublist call.codes := by
  cases call with
  | client method => exact method.plan_codes
  | printer uri method => cases method <;> exact List.Sublist.refl _
  | job uri id closed method => cases method <;> exact List.Sublist.refl _

theorem poll_codes : ((pollPlan c).map Heading.code).Sublist pollCodes := by
  rw [pollPlan, List.map_append]
  exact (List.Sublist.refl [_, _]).append (onUri_codes fun _ => List.Sublist.refl _)

end Codes

/-! ## The headings of the requests -/

section Headings

variable [LawfulIppCrate] {m m' : IppRequestResponse}

omit [LawfulIppCrate] in
/-- An operation struct writes the URI as it is. -/
theorem heading_of_struct {op : Operation} {uri : Uri} {user : Option String}
    (h : m.IsFor op (some (IppCrate.uriText uri)) user) (hop : op.code ∈ structOperations) :
    m.heading = .about uri user op.code := by
  rw [IppRequestResponse.heading, h.code, h.printer, h.user, Heading.about, requestUri_struct hop]
  rfl

omit [LawfulIppCrate] in
/-- `IppRequestResponse::new` writes its `ipp` form. -/
theorem heading_of_new {op : Operation} {uri : Uri} {user : Option String}
    (h : m.IsFor op (some (IppCrate.printerUri uri)) user) (hop : op.code ∉ structOperations) :
    m.heading = .about uri user op.code := by
  rw [IppRequestResponse.heading, h.code, h.printer, h.user, Heading.about, requestUri_new hop]
  rfl

omit [LawfulIppCrate] in
/-- An operation code that is written over another leaves the printer and the user. -/
theorem heading_overwritten {op : Operation} {uri : Uri} {user : Option String} {code : Int16}
    (h : m.IsFor op (some (IppCrate.printerUri uri)) user) (hop : code ∉ structOperations) :
    { m with operationOrStatus := code }.heading = .about uri user code := by
  rw [Heading.about, requestUri_new hop]
  show Heading.mk code (m.operation _) (m.operation _) = _
  rw [h.printer, h.user]
  rfl

omit [IppCrate] [LawfulIppCrate] in
theorem heading_of_isFor_none {op : Operation} (h : m.IsFor op none none) :
    m.heading = ⟨op.code, none, none⟩ := by
  rw [IppRequestResponse.heading, h.code, h.printer, h.user]
  rfl

/-- An attribute of another name, or in another group, leaves the heading as it is. -/
theorem heading_addAttribute {tag : DelimiterTag} {name : String} {value : IppValue}
    (h : addAttribute m tag name value = .ok m')
    (hn : tag ≠ .operationAttributes ∨ name ≠ "printer-uri" ∧ name ≠ "requesting-user-name") :
    m'.heading = m.heading := by
  obtain rfl := addAttribute_ok h
  obtain ht | ⟨hp, hu⟩ := hn
  · simp only [IppRequestResponse.heading, IppRequestResponse.operation,
      IppRequestResponse.lookup_add_ne (Ne.symm ht)]
    rfl
  · by_cases ht : tag = .operationAttributes
    · subst ht
      simp only [IppRequestResponse.heading, IppRequestResponse.operation_add, if_neg hp,
        if_neg hu, Option.or_none]
      rfl
    · simp only [IppRequestResponse.heading, IppRequestResponse.operation,
        IppRequestResponse.lookup_add_ne (Ne.symm ht)]
      rfl

/-- The user of a request that names none. -/
theorem heading_addUser {uri : Uri} {code : Int16} {user : String}
    (hm : m.heading = .about uri none code) (h : addUser m user = .ok m') :
    m'.heading = .about uri (some user) code := by
  obtain rfl := addUser_ok h
  obtain ⟨hc, hp, hu⟩ := Heading.mk.inj hm
  rw [IppRequestResponse.heading, IppRequestResponse.operation_add,
    IppRequestResponse.operation_add, hp, hu]
  exact congrArg (Heading.mk · _ _) hc

theorem heading_requestAttributes {names : List String}
    (h : requestAttributes m names = .ok m') : m'.heading = m.heading := by
  obtain ⟨wanted, -, h⟩ := bind_eq_ok.mp h
  exact heading_addAttribute h (.inr (by decide))

theorem heading_addAll {tag : DelimiterTag} {attributes : NamedValues}
    (ht : tag ≠ .operationAttributes) (h : addAll m tag attributes = .ok m') :
    m'.heading = m.heading := by
  induction attributes generalizing m with
  | nil =>
    cases h
    rfl
  | cons a attributes ih =>
    obtain ⟨m₁, h₁, h⟩ := bind_eq_ok.mp h
    rw [ih h, heading_addAttribute h₁ (.inl ht)]

theorem heading_addLease {lease : Option Duration} (h : addLease m lease = .ok m') :
    m'.heading = m.heading := by
  cases lease with
  | none =>
    cases h
    rfl
  | some lease => exact heading_addAttribute h (.inl (by decide))

theorem heading_rawOperation {opcode : Int16} {uri : Uri} (hop : opcode ∉ structOperations)
    (h : rawOperation opcode uri = .ok m) : m.heading = .about uri none opcode := by
  obtain ⟨m₀, h₀, h⟩ := bind_eq_ok.mp h
  cases h
  exact heading_overwritten (LawfulIppCrate.newRequest_ok (mapError_eq_ok.mp h₀)) hop

section Handle

variable {p : IppPrinter}

theorem heading_rawRequest {opcode : Int16} (hop : opcode ∉ structOperations)
    (h : p.rawRequest opcode = .ok m) :
    m.heading = .about p.uri (some p.client.user) opcode := by
  obtain ⟨m₀, h₀, h⟩ := bind_eq_ok.mp h
  exact heading_addUser (heading_rawOperation hop h₀) h

/-- `raw_request` and one integer, of another name. -/
theorem heading_rawIntRequest {opcode : Int16} {name : String} {value : Int32}
    (hop : opcode ∉ structOperations)
    (hn : name ≠ "printer-uri" ∧ name ≠ "requesting-user-name")
    (h : p.rawIntRequest opcode name value = .ok m) :
    m.heading = .about p.uri (some p.client.user) opcode := by
  obtain ⟨m₀, h₀, h⟩ := bind_eq_ok.mp h
  rw [heading_addAttribute h (.inr hn), heading_rawRequest hop h₀]

theorem heading_printerActionRequest {op : Operation} (hop : op.code ∉ structOperations)
    (h : p.printerActionRequest op = .ok m) :
    m.heading = .about p.uri (some p.client.user) op.code := by
  obtain ⟨m₀, h₀, h⟩ := bind_eq_ok.mp h
  have hf := LawfulIppCrate.newRequest_ok (mapError_eq_ok.mp h₀)
  exact heading_addUser (heading_of_new hf hop) h

theorem heading_validateDocumentRequest {job : JobId} {format : String}
    (h : p.validateDocumentRequest job format = .ok m) :
    m.heading = .about p.uri (some p.client.user) validateDocument := by
  obtain ⟨m₀, h₀, h⟩ := bind_eq_ok.mp h
  obtain ⟨v, -, h⟩ := bind_eq_ok.mp h
  rw [heading_addAttribute h (.inr (by decide)), heading_rawIntRequest (by decide) (by decide) h₀]

theorem heading_setJobAttributesRequest {id : JobId} {attributes : NamedValues}
    (h : p.setJobAttributesRequest id attributes = .ok m) :
    m.heading = .about p.uri (some p.client.user) setJobAttributes := by
  obtain ⟨m₀, h₀, h⟩ := bind_eq_ok.mp h
  rw [heading_addAll (by decide) h, heading_rawIntRequest (by decide) (by decide) h₀]

theorem heading_setAttributesRequest {attributes : NamedValues}
    (h : p.setAttributesRequest attributes = .ok m) :
    m.heading = .about p.uri (some p.client.user) setPrinterAttributes := by
  obtain ⟨m₀, h₀, h⟩ := bind_eq_ok.mp h
  rw [heading_addAll (by decide) h, heading_rawRequest (by decide) h₀]

theorem heading_subscribeRequest {events : List NotifyEvent} {lease : Option Duration}
    (h : p.subscribeRequest events lease = .ok m) :
    m.heading = .about p.uri (some p.client.user) createPrinterSubscriptions := by
  obtain ⟨m₀, h₀, h⟩ := bind_eq_ok.mp h
  obtain ⟨keywords, -, h⟩ := bind_eq_ok.mp h
  obtain ⟨m₁, h₁, h⟩ := bind_eq_ok.mp h
  obtain ⟨method, -, h⟩ := bind_eq_ok.mp h
  obtain ⟨m₂, h₂, h⟩ := bind_eq_ok.mp h
  rw [heading_addLease h, heading_addAttribute h₂ (.inl (by decide)),
    heading_addAttribute h₁ (.inl (by decide)), heading_rawRequest (by decide) h₀]

theorem heading_notificationsRequest {ids : List Int32} (h : p.notificationsRequest ids = .ok m) :
    m.heading = .about p.uri (some p.client.user) getNotifications := by
  obtain ⟨m₀, h₀, h⟩ := bind_eq_ok.mp h
  obtain ⟨m₁, h₁, h⟩ := bind_eq_ok.mp h
  rw [heading_addAttribute h (.inr (by decide)), heading_addAttribute h₁ (.inr (by decide)),
    heading_rawRequest (by decide) h₀]

theorem heading_renewSubscriptionRequest {id : Int32} {lease : Option Duration}
    (h : p.renewSubscriptionRequest id lease = .ok m) :
    m.heading = .about p.uri (some p.client.user) renewSubscription := by
  obtain ⟨m₀, h₀, h⟩ := bind_eq_ok.mp h
  rw [heading_addLease h, heading_rawIntRequest (by decide) (by decide) h₀]

/-- `close` overwrites the operation of a request to act on the job. -/
theorem heading_closeRequest {j : IppJob} (h : j.closeRequest = .ok m) :
    m.heading = .about j.printer.uri (some j.printer.client.user) closeJob := by
  obtain ⟨m₀, h₀, h⟩ := bind_eq_ok.mp h
  cases h
  exact heading_overwritten (jobActionRequest_ok h₀).1 (by decide)

end Handle

section Client

variable {c : IppClient} {uri : Uri}

theorem heading_identifyPrinterRequest {action : IdentifyAction}
    (h : c.identifyPrinterRequest uri action = .ok m) :
    m.heading = .about uri (some c.user) identifyPrinter := by
  obtain ⟨m₀, h₀, h⟩ := bind_eq_ok.mp h
  obtain ⟨m₁, h₁, h⟩ := bind_eq_ok.mp h
  obtain ⟨keyword, -, h⟩ := bind_eq_ok.mp h
  obtain ⟨m₂, h₂, h⟩ := bind_eq_ok.mp h
  have hm₂ : m₂.heading = .about uri (some c.user) identifyPrinter := by
    rw [heading_addAttribute h₂ (.inr (by decide))]
    exact heading_addUser (heading_rawOperation (by decide) h₀) h₁
  cases action with
  | display message =>
    obtain ⟨v, -, h⟩ := bind_eq_ok.mp h
    rw [heading_addAttribute h (.inr (by decide)), hm₂]
  | flash | sound =>
    cases h
    exact hm₂

theorem heading_validateJobRequest {format : String}
    (h : c.validateJobRequest uri format = .ok m) :
    m.heading = .about uri (some c.user) Operation.validateJob.code := by
  obtain ⟨m₀, h₀, h⟩ := bind_eq_ok.mp h
  obtain ⟨user, hu, h⟩ := bind_eq_ok.mp h
  obtain ⟨v, -, h⟩ := bind_eq_ok.mp h
  obtain ⟨m₁, h₁, h⟩ := bind_eq_ok.mp h
  have hf := LawfulIppCrate.newRequest_ok (mapError_eq_ok.mp h₀)
  have hu₁ : addUser m₀ c.user = .ok m₁ := by
    rw [addUser, hu]
    exact h₁
  rw [heading_addAttribute h (.inr (by decide)), heading_addUser (heading_of_new hf (by decide)) hu₁]

theorem heading_moveJobRequest {queue destination : String} {id : JobId}
    (hu : c.printerUri queue = .ok uri) (h : c.moveJobRequest queue id destination = .ok m) :
    m.heading = .about uri (some c.user) Operation.cupsMoveJob.code := by
  obtain ⟨uri', hu', hf, -⟩ := moveJobRequest_ok h
  obtain rfl : uri = uri' := Except.ok.inj (hu.symm.trans hu')
  exact heading_of_new hf (by decide)

theorem heading_jobRequest {queue : String} {id : JobId} (hu : c.printerUri queue = .ok uri)
    (h : c.jobRequest queue id = .ok m) :
    m.heading = .about uri (some c.user) Operation.getJobAttributes.code := by
  obtain ⟨uri', hu', h⟩ := bind_eq_ok.mp h
  obtain rfl : uri = uri' := Except.ok.inj (hu.symm.trans hu')
  obtain ⟨m₀, h₀, h⟩ := bind_eq_ok.mp h
  rw [heading_requestAttributes h]
  exact heading_of_struct (LawfulIppCrate.getJobAttributes_ok (mapError_eq_ok.mp h₀)).1 (by decide)

theorem heading_jobsRequest {which : WhichJobs}
    (hu : ((IppCrate.parseUri c.base).mapError fun e =>
      Error.transportMsg s!"bad CUPS uri: {e}") = .ok uri) (h : c.jobsRequest which = .ok m) :
    m.heading = .about uri (some c.user) Operation.getJobs.code := by
  obtain ⟨uri', hu', h⟩ := bind_eq_ok.mp h
  obtain rfl : uri = uri' := Except.ok.inj (hu.symm.trans hu')
  obtain ⟨m₀, h₀, h⟩ := bind_eq_ok.mp h
  obtain ⟨m₁, h₁, h⟩ := bind_eq_ok.mp h
  obtain ⟨v, -, h⟩ := bind_eq_ok.mp h
  obtain ⟨m₂, h₂, h⟩ := bind_eq_ok.mp h
  rw [heading_addAttribute h (.inr (by decide)), heading_addAttribute h₂ (.inr (by decide)),
    heading_requestAttributes h₁]
  exact heading_of_struct (LawfulIppCrate.getJobs_ok (mapError_eq_ok.mp h₀)) (by decide)

end Client

theorem heading_getDefaultRequest (h : getDefaultRequest = .ok m) :
    m.heading = ⟨Operation.cupsGetDefault.code, none, none⟩ := by
  obtain ⟨m₀, h₀, h⟩ := bind_eq_ok.mp h
  rw [heading_addAttribute h (.inr (by decide))]
  exact heading_of_isFor_none (LawfulIppCrate.newRequest_ok (mapError_eq_ok.mp h₀))

theorem heading_printersRequest (h : printersRequest = .ok m) :
    m.heading =
      ⟨Operation.cupsGetPrinters.code, IppCrate.cupsGetPrinters.operation "printer-uri", none⟩ := by
  rw [heading_requestAttributes h, IppRequestResponse.heading, LawfulIppCrate.cupsGetPrinters_code,
    LawfulIppCrate.cupsGetPrinters_within "requesting-user-name" (by decide)]

theorem heading_classesRequest (h : classesRequest = .ok m) :
    m.heading = ⟨Operation.cupsGetClasses.code, none, none⟩ := by
  obtain ⟨m₀, h₀, h⟩ := bind_eq_ok.mp h
  rw [heading_requestAttributes h]
  exact heading_of_isFor_none (LawfulIppCrate.newRequest_ok (mapError_eq_ok.mp h₀))

theorem heading_ppdsRequest {filter : Option PpdFilter} (h : ppdsRequest filter = .ok m) :
    m.heading = ⟨Operation.cupsGetPPDs.code, none, none⟩ := by
  obtain ⟨m₀, h₀, h⟩ := bind_eq_ok.mp h
  have hm₀ := heading_of_isFor_none (LawfulIppCrate.newRequest_ok (mapError_eq_ok.mp h₀))
  cases filter with
  | none => exact (heading_requestAttributes h).trans hm₀
  | some filter =>
    obtain ⟨v, -, h⟩ := bind_eq_ok.mp h
    obtain ⟨m₁, h₁, h⟩ := bind_eq_ok.mp h
    have hn : filter.asAttribute.1 ≠ "printer-uri" ∧
        filter.asAttribute.1 ≠ "requesting-user-name" := by
      cases filter <;> simp [PpdFilter.asAttribute]
    rw [heading_requestAttributes h, heading_addAttribute h₁ (.inr hn), hm₀]

end Headings

end Ipp
