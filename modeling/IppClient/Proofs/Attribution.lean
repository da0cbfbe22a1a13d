import IppClient.Client.Operations

/-!
# Whose jobs they are

A server attributes a job to the `requesting-user-name` of the request that creates it. Every
request about a job carries the client's user, except `Create-Job`: the `ipp` crate's `CreateJob`
takes no user, and the code adds none.

* `JobCall`: the methods that create, fill, close or act on a job, of the client, of a printer
  handle and of a job handle.
* `JobCall.run_user`: without a `Create-Job`, every request carries the user.
* `JobCall.run_create`: with one, the `Create-Job` carries none.
* `attributed_iff`: **the requests of a call are attributed to the client's user exactly when the
  call does not come to send a `Create-Job`.**
-/

namespace Ipp

open Base

/-- A method that creates, fills, closes or acts on a job, with its arguments. The methods of a
handle (`uri`) and of a job opened from one (`job`, `closed`) say which. -/
inductive JobCall where
  | printBytes (printer : String) (bytes : Payload) (format name : String)
  | printStream (printer : String) (reader : Payload) (format : Option String) (name : String)
  | printFile (printer : String) (path : Path)
  | cancelJob (printer : String) (id : JobId)
  | holdJob (printer : String) (id : JobId)
  | releaseJob (printer : String) (id : JobId)
  | restartJob (printer : String) (id : JobId)
  | moveJob (printer : String) (id : JobId) (destination : String)
  | handlePrintStream (uri : Uri) (reader : Payload) (format : Option String) (name : String)
  | handlePrintFile (uri : Uri) (path : Path)
  | handleCreateJob (uri : Uri) (name : String)
  | handleCancelJob (uri : Uri) (id : JobId)
  | handleHoldJob (uri : Uri) (id : JobId)
  | handleReleaseJob (uri : Uri) (id : JobId)
  | handleRestartJob (uri : Uri) (id : JobId)
  | jobAddDocument (uri : Uri) (job : JobId) (closed : Bool) (reader : Payload)
      (format : Option String) (last : Bool)
  | jobClose (uri : Uri) (job : JobId) (closed : Bool)
  | jobCancel (uri : Uri) (job : JobId) (closed : Bool)

section

variable [IppCrate]

/-- The call, without its result. -/
def JobCall.run (c : IppClient) : JobCall → Net Unit
  | .printBytes printer bytes format name => Act.void (c.printBytes printer bytes format name)
  | .printStream printer reader format name => Act.void (c.printStream printer reader format name)
  | .printFile printer path => Act.void (c.printFile printer path)
  | .cancelJob printer id => c.cancelJob printer id
  | .holdJob printer id => c.holdJob printer id
  | .releaseJob printer id => c.releaseJob printer id
  | .restartJob printer id => c.restartJob printer id
  | .moveJob printer id destination => c.moveJob printer id destination
  | .handlePrintStream uri reader format name =>
    Act.void (IppPrinter.printStream ⟨c, uri⟩ reader format name)
  | .handlePrintFile uri path => Act.void (IppPrinter.printFile ⟨c, uri⟩ path)
  | .handleCreateJob uri name => Act.void (IppPrinter.createJob ⟨c, uri⟩ name)
  | .handleCancelJob uri id => IppPrinter.cancelJob ⟨c, uri⟩ id
  | .handleHoldJob uri id => IppPrinter.holdJob ⟨c, uri⟩ id
  | .handleReleaseJob uri id => IppPrinter.releaseJob ⟨c, uri⟩ id
  | .handleRestartJob uri id => IppPrinter.restartJob ⟨c, uri⟩ id
  | .jobAddDocument uri job closed reader format last =>
    Act.void (IppJob.addDocument ⟨⟨c, uri⟩, job, closed⟩ reader format last)
  | .jobClose uri job closed => Act.void (IppJob.close ⟨⟨c, uri⟩, job, closed⟩)
  | .jobCancel uri job closed => IppJob.cancel ⟨⟨c, uri⟩, job, closed⟩

/-- The `Create-Job` the call sends first, if it is one that creates a job by `Create-Job` and it
gets that far: the queue's URI parses, the file opens, and the request can be built. -/
def JobCall.CreateRequest (c : IppClient) (w : World) (m : IppRequestResponse) : JobCall → Prop
  | .printStream printer _ _ name =>
    ∃ uri, c.printerUri printer = .ok uri ∧ IppCrate.createJob uri (some name) = .ok m
  | .printFile printer path =>
    (∃ file, w.openFile path = .ok file) ∧
      ∃ uri, c.printerUri printer = .ok uri ∧ IppCrate.createJob uri (some path.jobName) = .ok m
  | .handlePrintStream uri _ _ name => IppCrate.createJob uri (some name) = .ok m
  | .handlePrintFile uri path =>
    (∃ file, w.openFile path = .ok file) ∧ IppCrate.createJob uri (some path.jobName) = .ok m
  | .handleCreateJob uri name => IppCrate.createJob uri (some name) = .ok m
  | _ => False

/-- The user a request is made for. -/
def requestUser (e : Exchange Post Reply) : Option IppValue :=
  e.call.request.operation "requesting-user-name"

/-- The request creates a job. -/
def Creates (e : Exchange Post Reply) : Prop :=
  e.call.request.operationOrStatus = Operation.createJob.code ∨
    e.call.request.operationOrStatus = Operation.printJob.code

/-- Every request is made for the client's user, and a job that it creates is one that `jobs`
asks for: its `my-jobs` request is made for the same user. -/
structure Attributed (c : IppClient) (t : List (Exchange Post Reply)) : Prop where
  user : ∀ e ∈ t, requestUser e = some (.nameWithoutLanguage c.user)
  listed : ∀ e ∈ t, Creates e → ∀ which m, c.jobsRequest which = .ok m →
    m.operation "my-jobs" = some (.boolean true) ∧
      m.operation "requesting-user-name" = requestUser e

/-! ## The `Create-Job` of a call -/

section Create

variable {c : IppClient} {w : World} {past : List (Exchange Post Reply)} {cell : Cache}
  {m : IppRequestResponse} {uri : Uri} {name : String}

theorem printStreamAt_create (reader : Payload) (format : Option String)
    (hm : IppCrate.createJob uri (some name) = .ok m) :
    c.exchange w past m ∈ (c.printStreamAt uri reader format name w past cell).trace := by
  unfold IppClient.printStreamAt
  rw [Act.ofExcept_ok_bind (transport_ok hm)]
  refine Act.mem_trace_bind w past cell _ ?_
  rw [IppClient.send_exchange]
  exact List.mem_singleton.mpr rfl

theorem printStreamAt_unbuilt (reader : Payload) (format : Option String)
    (hm : ¬ ∃ m, IppCrate.createJob uri (some name) = .ok m) :
    (c.printStreamAt uri reader format name w past cell).trace = [] := by
  cases hc : IppCrate.createJob uri (some name) with
  | ok m => exact absurd ⟨m, hc⟩ hm
  | error e =>
    unfold IppClient.printStreamAt
    rw [Act.ofExcept_error_bind (transport_error hc)]
    rfl

omit [IppCrate] in
theorem openFile_apply (path : Path) :
    IppClient.openFile path w past cell = ⟨(w.openFile path).mapError Error.io, [], cell⟩ := by
  unfold IppClient.openFile
  rw [Act.bind_ok w past cell (Act.read_apply w past cell _)]
  rfl

omit [IppCrate] in
/-- A file that opens is handed on; one that does not ends the call. -/
theorem openFile_bind {path : Path} {file : Payload} (h : w.openFile path = .ok file)
    (f : Payload → Net JobId) :
    (IppClient.openFile path >>= f) w past cell = f file w past cell := by
  have ho : IppClient.openFile path w past cell = ⟨.ok file, [], cell⟩ := by
    rw [openFile_apply, h]
    rfl
  rw [Act.bind_ok w past cell ho, List.append_nil]
  rfl

omit [IppCrate] in
theorem openFile_bind_error {path : Path} {e : ForeignError} (h : w.openFile path = .error e)
    (f : Payload → Net JobId) : ((IppClient.openFile path >>= f) w past cell).trace = [] := by
  have ho : IppClient.openFile path w past cell = ⟨.error (.io e), [], cell⟩ := by
    rw [openFile_apply, h]
    rfl
  rw [Act.bind_error w past cell ho]

/-- The same of a queue: its URI parses and the handle's method runs, or nothing is sent. -/
theorem printStream_uri (reader : Payload) (format : Option String) {queue : String}
    (h : c.printerUri queue = .ok uri) :
    c.printStream queue reader format name = c.printStreamAt uri reader format name :=
  Act.ofExcept_ok_bind h _

theorem printStream_noUri (reader : Payload) (format : Option String) {queue : String} {e : Error}
    (h : c.printerUri queue = .error e) :
    (c.printStream queue reader format name w past cell).trace = [] := by
  unfold IppClient.printStream
  rw [Act.ofExcept_error_bind h]
  rfl

end Create

/-- A call that comes to its `Create-Job` sends it. -/
theorem JobCall.create_mem {c : IppClient} {w : World} {m : IppRequestResponse} {call : JobCall}
    (past : List (Exchange Post Reply)) (cell : Cache) (h : call.CreateRequest c w m) :
    c.exchange w past m ∈ (call.run c w past cell).trace := by
  cases call with
  | printStream printer reader format name =>
    obtain ⟨uri, huri, hm⟩ := h
    refine Act.mem_trace_bind w past cell _ ?_
    rw [printStream_uri reader format huri]
    exact printStreamAt_create reader format hm
  | printFile printer path =>
    obtain ⟨⟨file, hfile⟩, uri, huri, hm⟩ := h
    refine Act.mem_trace_bind w past cell _ ?_
    unfold IppClient.printFile
    rw [openFile_bind hfile, printStream_uri file _ huri]
    exact printStreamAt_create file _ hm
  | handlePrintStream uri reader format name =>
    exact Act.mem_trace_bind w past cell _ (printStreamAt_create reader format h)
  | handlePrintFile uri path =>
    obtain ⟨⟨file, hfile⟩, hm⟩ := h
    refine Act.mem_trace_bind w past cell _ ?_
    unfold IppPrinter.printFile
    rw [openFile_bind hfile]
    exact printStreamAt_create file _ hm
  | handleCreateJob uri name =>
    refine Act.mem_trace_bind w past cell _ ?_
    have hm : IppCrate.createJob uri (some name) = .ok m := h
    unfold IppPrinter.createJob
    rw [ask_trace (transport_ok hm)]
    exact List.mem_singleton.mpr rfl
  | _ => exact h.elim

/-! ## Attribution -/

variable [LawfulIppCrate]

section Attribution

variable {c : IppClient} {w : World} {m : IppRequestResponse}

/-- The requests of the action are made for the client's user. -/
def ForUser {α : Type} (c : IppClient) (x : Net α) : Prop :=
  Act.Emits (fun e => requestUser e = some (.nameWithoutLanguage c.user)) x

theorem jobActionAt_forUser (op : Operation) (label : String) (uri : Uri) (id : JobId) :
    ForUser c (c.jobActionAt op label uri id) :=
  jobActionAt_emits c fun _ hm _ => (jobActionRequest_ok hm).1.user

theorem jobAction_forUser (op : Operation) (label queue : String) (id : JobId) :
    ForUser c (c.jobAction op label queue id) :=
  Act.Emits.bind_ofExcept fun uri _ => jobActionAt_forUser op label uri id

theorem handleJobAction_forUser (op : Operation) (label : String) (uri : Uri) (id : JobId) :
    ForUser c (IppPrinter.jobAction ⟨c, uri⟩ op label id) :=
  perform_emits ⟨c, uri⟩ fun _ hm _ => (jobActionRequest_ok hm).1.user

theorem moveJob_forUser (queue : String) (id : JobId) (destination : String) :
    ForUser c (c.moveJob queue id destination) := by
  refine request_emits c (fun m hm _ => ?_) fun _ => Act.Emits.pure ()
  obtain ⟨uri, -, hf, -⟩ := moveJobRequest_ok hm
  exact hf.user

theorem printBytes_forUser (queue : String) (bytes : Payload) (format name : String) :
    ForUser c (c.printBytes queue bytes format name) := by
  refine Act.Emits.bind_ofExcept fun uri _ => ?_
  refine request_emits c (fun m hm _ => ?_) fun _ => Act.Emits.ofExcept _
  exact (LawfulIppCrate.printJob_ok (mapError_eq_ok.mp hm)).user

theorem addDocument_forUser (uri : Uri) (job : JobId) (closed : Bool) (reader : Payload)
    (format : Option String) (last : Bool) :
    ForUser c (IppJob.addDocument ⟨⟨c, uri⟩, job, closed⟩ reader format last) := by
  refine request_emits c (fun m hm _ => ?_) fun _ => Act.Emits.pure _
  exact (LawfulIppCrate.sendDocument_ok (mapError_eq_ok.mp hm)).1.user

/-- `close` overwrites the operation code of a request to act on the job, not its user. -/
theorem close_forUser (uri : Uri) (job : JobId) (closed : Bool) :
    ForUser c (IppJob.close ⟨⟨c, uri⟩, job, closed⟩) := by
  unfold IppJob.close
  split
  · exact Act.Emits.pure _
  · refine request_emits c (fun m hm _ => ?_) fun _ => Act.Emits.pure _
    obtain ⟨m0, h0, hm⟩ := bind_eq_ok.mp hm
    cases hm
    exact (jobActionRequest_ok h0).1.user

/-- Without a `Create-Job`, every request of a call is made for the client's user. -/
theorem JobCall.run_user {call : JobCall} (past : List (Exchange Post Reply)) (cell : Cache)
    (h : ¬ ∃ m, call.CreateRequest c w m) :
    ∀ e ∈ (call.run c w past cell).trace, requestUser e = some (.nameWithoutLanguage c.user) := by
  cases call with
  | printBytes queue bytes format name =>
    exact Act.Emits.void (printBytes_forUser queue bytes format name) w past cell
  | printStream queue reader format name =>
    suffices ht : (c.printStream queue reader format name w past cell).trace = [] by
      simp [JobCall.run, Act.void_trace, ht]
    cases hu : c.printerUri queue with
    | error e => exact printStream_noUri reader format hu
    | ok uri =>
      rw [printStream_uri reader format hu]
      exact printStreamAt_unbuilt reader format fun ⟨m, hm⟩ => h ⟨m, uri, hu, hm⟩
  | printFile queue path =>
    suffices ht : (c.printFile queue path w past cell).trace = [] by
      simp [JobCall.run, Act.void_trace, ht]
    unfold IppClient.printFile
    cases hf : w.openFile path with
    | error e => exact openFile_bind_error hf _
    | ok file =>
      rw [openFile_bind hf]
      cases hu : c.printerUri queue with
      | error e => exact printStream_noUri file _ hu
      | ok uri =>
        rw [printStream_uri file _ hu]
        exact printStreamAt_unbuilt file _ fun ⟨m, hm⟩ => h ⟨m, ⟨file, hf⟩, uri, hu, hm⟩
  | cancelJob queue id | holdJob queue id | releaseJob queue id | restartJob queue id =>
    exact jobAction_forUser _ _ queue id w past cell
  | moveJob queue id destination => exact moveJob_forUser queue id destination w past cell
  | handlePrintStream uri reader format name =>
    suffices ht : (c.printStreamAt uri reader format name w past cell).trace = [] by
      simp [JobCall.run, Act.void_trace, IppPrinter.printStream, ht]
    exact printStreamAt_unbuilt reader format h
  | handlePrintFile uri path =>
    suffices ht : (IppPrinter.printFile ⟨c, uri⟩ path w past cell).trace = [] by
      simp [JobCall.run, Act.void_trace, ht]
    unfold IppPrinter.printFile
    cases hf : w.openFile path with
    | error e => exact openFile_bind_error hf _
    | ok file =>
      rw [openFile_bind hf]
      exact printStreamAt_unbuilt file _ fun ⟨m, hm⟩ => h ⟨m, ⟨file, hf⟩, hm⟩
  | handleCreateJob uri name =>
    refine Act.Emits.void (ask_emits ⟨c, uri⟩ fun m hm _ => ?_) w past cell
    exact absurd ⟨m, mapError_eq_ok.mp hm⟩ h
  | handleCancelJob uri id | handleHoldJob uri id | handleReleaseJob uri id
  | handleRestartJob uri id | jobCancel uri id closed =>
    exact handleJobAction_forUser _ _ uri id w past cell
  | jobAddDocument uri job closed reader format last =>
    exact Act.Emits.void (addDocument_forUser uri job closed reader format last) w past cell
  | jobClose uri job closed => exact Act.Emits.void (close_forUser uri job closed) w past cell

/-- A `Create-Job` is made for no user. -/
theorem JobCall.CreateRequest.no_user {call : JobCall} (h : call.CreateRequest c w m) :
    m.operation "requesting-user-name" = none := by
  cases call with
  | printStream queue reader format name =>
    obtain ⟨uri, -, hm⟩ := h
    exact (LawfulIppCrate.createJob_ok hm).user
  | printFile queue path =>
    obtain ⟨-, uri, -, hm⟩ := h
    exact (LawfulIppCrate.createJob_ok hm).user
  | handlePrintStream uri reader format name => exact (LawfulIppCrate.createJob_ok h).user
  | handlePrintFile uri path => exact (LawfulIppCrate.createJob_ok h.2).user
  | handleCreateJob uri name => exact (LawfulIppCrate.createJob_ok h).user
  | _ => exact h.elim

/-- **Attribution.** Every request of a call about a job is made for the client's user, and a job
that it creates is one that `jobs` asks for, exactly when the call does not come to send a
`Create-Job`. -/
theorem attributed_iff (c : IppClient) (call : JobCall) (w : World)
    (past : List (Exchange Post Reply)) (cell : Cache) :
    Attributed c (call.run c w past cell).trace ↔ ¬ ∃ m, call.CreateRequest c w m := by
  constructor
  · rintro ⟨huser, -⟩ ⟨m, hm⟩
    have hu : m.operation "requesting-user-name" = some (.nameWithoutLanguage c.user) :=
      huser _ (JobCall.create_mem past cell hm)
    rw [hm.no_user] at hu
    cases hu
  · intro h
    have huser := JobCall.run_user past cell h
    refine ⟨huser, fun e he _ which m hm => ?_⟩
    obtain ⟨⟨root, hf⟩, -, hmine⟩ := jobsRequest_ok hm
    exact ⟨hmine, hf.user.trans (huser e he).symm⟩

end Attribution

end

/-! ## A queue's job, and a job by its number -/

section Reference

attribute [local instance] Reference.crate

/-- A submission to the queue `HP` by stream creates a job for nobody. -/
theorem printStream_unattributed :
    ¬ ∀ (c : IppClient) (call : JobCall) (w : World) (past : List (Exchange Post Reply))
      (cell : Cache), Attributed c (call.run c w past cell).trace := by
  intro h
  have := Reference.lawful
  have ha := h localClient (.printStream "HP" [] none "report") (.answering fun _ => refused) []
    none
  obtain ⟨m, hm⟩ : ∃ m, (JobCall.printStream "HP" [] none "report").CreateRequest localClient
      (.answering fun _ => refused) m := ⟨_, _, rfl, rfl⟩
  have hu : m.operation "requesting-user-name" = some (.nameWithoutLanguage "tester") :=
    ha.user _ (JobCall.create_mem [] none hm)
  rw [hm.no_user] at hu
  cases hu

/-- Cancelling job 42 is the client's user's doing, and the streaming submission is nobody's. -/
theorem attributed_iff_cancelJob :
    (Attributed localClient ((JobCall.cancelJob "HP" 42).run localClient
        (.answering fun _ => refused) [] none).trace ↔
      ¬ ∃ m, (JobCall.cancelJob "HP" 42).CreateRequest localClient (.answering fun _ => refused)
        m) :=
  have := Reference.lawful
  attributed_iff localClient (.cancelJob "HP" 42) (.answering fun _ => refused) [] none

end Reference

end Ipp
