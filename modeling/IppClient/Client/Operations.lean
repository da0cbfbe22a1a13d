import IppClient.Client.Handle

/-!
# The operations of a handle, and what they transmit

`PrinterMethod` and `JobMethod` are the methods of `IppPrinter` and `IppJob` with their arguments,
so that a statement can be about every operation. `Opened` is how a job handle comes from a
printer handle: `create_job`, then documents.

* `perform_emits`, `ask_emits`, `printStreamAt_emits`, ..: what holds of every request a method
  builds holds of every request it transmits. A caller supplies the fact about the requests.
* `PrinterMethod.run_posts`, `JobMethod.run_posts`: every request goes to the client's URI.
-/

namespace Ipp

open Base

/-- A method of `IppPrinter`, with its arguments. -/
inductive PrinterMethod where
  | attributes
  | printStream (reader : Payload) (documentFormat : Option String) (jobName : String)
  | printFile (path : Path)
  | cancelJob (id : JobId)
  | holdJob (id : JobId)
  | releaseJob (id : JobId)
  | restartJob (id : JobId)
  | purgeJobs
  | validate (documentFormat : String)
  | identify (action : IdentifyAction)
  | pause
  | resume
  | createJob (jobName : String)
  | documents (job : JobId)
  | validateDocument (job : JobId) (documentFormat : String)
  | disable
  | enable
  | holdNewJobs
  | releaseHeldNewJobs
  | cancelMyJobs
  | cancelAllJobs
  | resubmitJob (id : JobId)
  | setJobAttributes (id : JobId) (attributes : NamedValues)
  | setAttributes (attributes : NamedValues)
  | subscribe (events : List NotifyEvent) (lease : Option Duration)
  | subscriptions
  | subscription (id : Int32)
  | notifications (subscriptionIds : List Int32)
  | renewSubscription (id : Int32) (lease : Option Duration)
  | cancelSubscription (id : Int32)

/-- A method of `IppJob`, with its arguments. -/
inductive JobMethod where
  | addDocument (reader : Payload) (documentFormat : Option String) (last : Bool)
  | close
  | cancel

variable [IppCrate]

/-- The method, without its result. -/
def PrinterMethod.run (p : IppPrinter) : PrinterMethod → Net Unit
  | .attributes => Act.void p.attributes
  | .printStream reader format name => Act.void (p.printStream reader format name)
  | .printFile path => Act.void (p.printFile path)
  | .cancelJob id => p.cancelJob id
  | .holdJob id => p.holdJob id
  | .releaseJob id => p.releaseJob id
  | .restartJob id => p.restartJob id
  | .purgeJobs => p.purgeJobs
  | .validate format => p.validate format
  | .identify action => p.identify action
  | .pause => p.pause
  | .resume => p.resume
  | .createJob name => Act.void (p.createJob name)
  | .documents job => Act.void (p.documents job)
  | .validateDocument job format => p.validateDocument job format
  | .disable => p.disable
  | .enable => p.enable
  | .holdNewJobs => p.holdNewJobs
  | .releaseHeldNewJobs => p.releaseHeldNewJobs
  | .cancelMyJobs => p.cancelMyJobs
  | .cancelAllJobs => p.cancelAllJobs
  | .resubmitJob id => Act.void (p.resubmitJob id)
  | .setJobAttributes id values => p.setJobAttributes id values
  | .setAttributes values => p.setAttributes values
  | .subscribe events lease => Act.void (p.subscribe events lease)
  | .subscriptions => Act.void p.subscriptions
  | .subscription id => Act.void (p.subscription id)
  | .notifications ids => Act.void (p.notifications ids)
  | .renewSubscription id lease => p.renewSubscription id lease
  | .cancelSubscription id => p.cancelSubscription id

/-- The method, without its result. -/
def JobMethod.run (j : IppJob) : JobMethod → Net Unit
  | .addDocument reader format last => Act.void (j.addDocument reader format last)
  | .close => Act.void j.close
  | .cancel => j.cancel

/-- The job handles that a printer handle opens: `create_job`, then documents added. -/
inductive Opened (p : IppPrinter) : IppJob → Prop where
  | created {name : String} {w : World} {past : List (Exchange Post Reply)} {cell : Cache}
      {j : IppJob} (h : (p.createJob name w past cell).result = .ok j) : Opened p j
  | added {j j' : IppJob} {reader : Payload} {format : Option String} {last : Bool} {w : World}
      {past : List (Exchange Post Reply)} {cell : Cache} (hj : Opened p j)
      (h : (j.addDocument reader format last w past cell).result = .ok j') : Opened p j'

/-! ## A request and its reply -/

section Ask

variable {α : Type} {p : IppPrinter} {request : Except Error IppRequestResponse} {label : String}
  {decode : IppRequestResponse → Except Error α}

/-- A request that cannot be built is not sent. -/
theorem ask_unbuilt {e : Error} (h : request = .error e) (w : World)
    (past : List (Exchange Post Reply)) (cell : Cache) :
    p.ask request label decode w past cell = ⟨.error e, [], cell⟩ := by
  unfold IppPrinter.ask
  rw [Act.ofExcept_error_bind h]
  rfl

/-- One that is built is sent once, whatever becomes of it. -/
theorem ask_trace {m : IppRequestResponse} (h : request = .ok m) (w : World)
    (past : List (Exchange Post Reply)) (cell : Cache) :
    (p.ask request label decode w past cell).trace = [p.client.exchange w past m] := by
  have hs : p.client.send m label w past cell =
      ⟨IppClient.accept label (p.client.exchange w past m).reply, [p.client.exchange w past m],
        cell⟩ := IppClient.send_exchange m label
  unfold IppPrinter.ask
  rw [Act.ofExcept_ok_bind h]
  cases hr : IppClient.accept label (p.client.exchange w past m).reply with
  | error e =>
    rw [hr] at hs
    rw [Act.bind_error w past cell hs]
  | ok resp =>
    rw [hr] at hs
    rw [Act.bind_ok w past cell hs]
    exact List.append_nil _

/-- A call that succeeds sent its request, had it accepted, and decoded the response. -/
theorem ask_accepted {a : α} {w : World} {past : List (Exchange Post Reply)} {cell : Cache}
    (h : (p.ask request label decode w past cell).result = .ok a) :
    ∃ m resp, request = .ok m ∧
      IppClient.accept label (p.client.exchange w past m).reply = .ok resp ∧
      decode resp = .ok a := by
  cases hm : request with
  | error e =>
    rw [ask_unbuilt hm] at h
    cases h
  | ok m =>
    unfold IppPrinter.ask at h
    rw [Act.ofExcept_ok_bind hm] at h
    obtain ⟨resp, t, cell', hs, h⟩ := Act.bind_result_ok _ _ _ h
    rw [IppClient.send_exchange] at hs
    injection hs with hr _ _
    exact ⟨m, resp, rfl, hr, h⟩

theorem ask_ok {a : α} {w : World} {past : List (Exchange Post Reply)} {cell : Cache}
    (h : (p.ask request label decode w past cell).result = .ok a) :
    ∃ m resp, request = .ok m ∧ (p.client.exchange w past m).reply = .ok resp ∧
      decode resp = .ok a := by
  obtain ⟨m, resp, hm, ha, hd⟩ := ask_accepted h
  exact ⟨m, resp, hm, (IppClient.accept_eq_ok.mp ha).1, hd⟩

theorem perform_unbuilt {e : Error} (h : request = .error e) (w : World)
    (past : List (Exchange Post Reply)) (cell : Cache) :
    p.perform request label w past cell = ⟨.error e, [], cell⟩ := by
  unfold IppPrinter.perform
  rw [Act.ofExcept_error_bind h]
  rfl

theorem perform_built {m : IppRequestResponse} (h : request = .ok m) (w : World)
    (past : List (Exchange Post Reply)) (cell : Cache) :
    p.perform request label w past cell =
      ⟨(IppClient.accept label (p.client.exchange w past m).reply).map fun _ => (),
        [p.client.exchange w past m], cell⟩ := by
  unfold IppPrinter.perform
  rw [Act.ofExcept_ok_bind h, IppClient.send_map]

theorem perform_trace {m : IppRequestResponse} (h : request = .ok m) (w : World)
    (past : List (Exchange Post Reply)) (cell : Cache) :
    (p.perform request label w past cell).trace = [p.client.exchange w past m] := by
  rw [perform_built h]

end Ask

/-! ## What the methods transmit -/

section Emits

variable {P : Exchange Post Reply → Prop} {α : Type}

variable (c : IppClient) (p : IppPrinter)

/-- A request that is built, sent, and its reply decoded. -/
theorem request_emits {request : Except Error IppRequestResponse} {label : String}
    {f : IppRequestResponse → Net α}
    (h : ∀ m, request = .ok m → ∀ r, P ⟨⟨c.inner.uri, m⟩, r⟩) (hf : ∀ resp, Act.Emits P (f resp)) :
    Act.Emits P (do
      let request ← Act.ofExcept request
      let resp ← c.send request label
      f resp) :=
  Act.Emits.bind_ofExcept fun m hm =>
    Act.Emits.bind (IppClient.send_emits c label (h m hm)) hf

theorem perform_emits {request : Except Error IppRequestResponse} {label : String}
    (h : ∀ m, request = .ok m → ∀ r, P ⟨⟨p.client.inner.uri, m⟩, r⟩) :
    Act.Emits P (p.perform request label) :=
  request_emits p.client h fun _ => Act.Emits.pure ()

theorem ask_emits {request : Except Error IppRequestResponse} {label : String}
    {decode : IppRequestResponse → Except Error α}
    (h : ∀ m, request = .ok m → ∀ r, P ⟨⟨p.client.inner.uri, m⟩, r⟩) :
    Act.Emits P (p.ask request label decode) :=
  request_emits p.client h fun _ => Act.Emits.ofExcept _

theorem jobActionAt_emits {operation : Operation} {label : String} {uri : Uri} {id : JobId}
    (h : ∀ m, c.jobActionRequest operation uri id = .ok m → ∀ r, P ⟨⟨c.inner.uri, m⟩, r⟩) :
    Act.Emits P (c.jobActionAt operation label uri id) :=
  request_emits c h fun _ => Act.Emits.pure ()

/-- The streaming submission transmits a `Create-Job`, a `Send-Document` and a `Cancel-Job`. -/
theorem printStreamAt_emits {uri : Uri} {reader : Payload} {format : Option String}
    {name : String}
    (hcreate : ∀ m, IppCrate.createJob uri (some name) = .ok m → ∀ r, P ⟨⟨c.inner.uri, m⟩, r⟩)
    (hsend : ∀ job m, IppCrate.sendDocument uri job reader (some c.user) format true = .ok m →
      ∀ r, P ⟨⟨c.inner.uri, m⟩, r⟩)
    (hcancel : ∀ job m, c.jobActionRequest .cancelJob uri job = .ok m →
      ∀ r, P ⟨⟨c.inner.uri, m⟩, r⟩) :
    Act.Emits P (c.printStreamAt uri reader format name) := by
  refine request_emits c (fun m hm => hcreate m (mapError_eq_ok.mp hm)) fun resp => ?_
  refine Act.Emits.bind_ofExcept fun job _ => Act.Emits.bind_ofExcept fun m hm => ?_
  refine Act.Emits.bind (Act.Emits.attempt ?_) fun sent => ?_
  · exact IppClient.send_emits c _ (hsend job m (mapError_eq_ok.mp hm))
  · cases sent with
    | ok resp => exact Act.Emits.pure job
    | error e =>
      refine Act.Emits.bind (Act.Emits.attempt ?_) fun _ => Act.Emits.fail e
      exact jobActionAt_emits c (hcancel job)

omit [IppCrate] in
theorem openFile_emits (path : Path) : Act.Emits P (IppClient.openFile path) :=
  Act.Emits.bind (Act.Emits.read _) fun _ => Act.Emits.ofExcept _

end Emits

/-! ## Every request goes to the client's URI -/

section Posts

/-- Every request of the method goes to the URI the client was built with. -/
def Posts {α : Type} (c : IppClient) (x : Net α) : Prop :=
  Act.Emits (fun e => e.call.uri = c.inner.uri) x

variable {α : Type} (c : IppClient) (p : IppPrinter) (j : IppJob)

theorem perform_posts (request : Except Error IppRequestResponse) (label : String) :
    Posts p.client (p.perform request label) := perform_emits p fun _ _ _ => rfl

theorem ask_posts (request : Except Error IppRequestResponse) (label : String)
    (decode : IppRequestResponse → Except Error α) :
    Posts p.client (p.ask request label decode) := ask_emits p fun _ _ _ => rfl

theorem printStreamAt_posts (uri : Uri) (reader : Payload) (format : Option String)
    (name : String) : Posts c (c.printStreamAt uri reader format name) :=
  printStreamAt_emits c (fun _ _ _ => rfl) (fun _ _ _ _ => rfl) fun _ _ _ _ => rfl

theorem printerAttributesAt_posts (uri : Uri) : Posts c (c.printerAttributesAt uri) :=
  request_emits c (fun _ _ _ => rfl) fun _ => Act.Emits.ofExcept _

theorem printerAt_posts (uri : String) : Posts c (c.printerAt uri) :=
  Act.Emits.bind_ofExcept fun parsed _ => printerAttributesAt_posts c parsed

theorem validateJobAt_posts (uri : Uri) (format : String) : Posts c (c.validateJobAt uri format) :=
  request_emits c (fun _ _ _ => rfl) fun _ => Act.Emits.pure ()

theorem identifyPrinterAt_posts (uri : Uri) (action : IdentifyAction) :
    Posts c (c.identifyPrinterAt uri action) :=
  request_emits c (fun _ _ _ => rfl) fun _ => Act.Emits.pure ()

theorem PrinterMethod.run_posts (method : PrinterMethod) : Posts p.client (method.run p) := by
  cases method with
  | attributes => exact Act.Emits.void (printerAttributesAt_posts p.client p.uri)
  | printStream reader format name =>
    exact Act.Emits.void (printStreamAt_posts p.client p.uri reader format name)
  | printFile path =>
    exact Act.Emits.void <| Act.Emits.bind (openFile_emits path) fun file =>
      printStreamAt_posts p.client p.uri file _ _
  | validate format => exact validateJobAt_posts p.client p.uri format
  | identify action => exact identifyPrinterAt_posts p.client p.uri action
  | createJob | documents | resubmitJob | subscribe | subscriptions | subscription
  | notifications => exact Act.Emits.void (ask_posts p _ _ _)
  | _ => exact perform_posts p _ _

theorem JobMethod.run_posts (method : JobMethod) : Posts j.printer.client (method.run j) := by
  cases method with
  | addDocument reader format last =>
    exact Act.Emits.void (request_emits _ (fun _ _ _ => rfl) fun _ => Act.Emits.pure _)
  | close =>
    refine Act.Emits.void ?_
    unfold IppJob.close
    split
    · exact Act.Emits.pure _
    · exact request_emits _ (fun _ _ _ => rfl) fun _ => Act.Emits.pure _
  | cancel => exact perform_posts j.printer _ _

/-- An opened job keeps the handle it was opened from. -/
theorem Opened.printer_eq {p : IppPrinter} {j : IppJob} (h : Opened p j) : j.printer = p := by
  induction h with
  | created h =>
    obtain ⟨m, t, c', -, h⟩ := Act.bind_result_ok _ _ _ h
    obtain ⟨resp, t', c'', -, h⟩ := Act.bind_result_ok _ _ _ h
    obtain ⟨id, -, h⟩ := bind_eq_ok.mp h
    cases h
    rfl
  | added _ h ih =>
    obtain ⟨m, t, c', -, h⟩ := Act.bind_result_ok _ _ _ h
    obtain ⟨resp, t', c'', -, h⟩ := Act.bind_result_ok _ _ _ h
    cases h
    exact ih

end Posts

end Ipp
