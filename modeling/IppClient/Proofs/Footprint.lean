import IppClient.Proofs.JobHandle
import IppClient.Proofs.Notifications
import IppClient.Proofs.PrintStream
import IppClient.Proofs.Refusals

/-!
# What a call may touch

Two bounds on what an application can do to a server by mistake.

* `observers_only_read`: **a session of questions and polls sends no operation that changes
  anything**, whatever the server answers.
* `own_jobs_only`: **every request about one job is about the job that the call was given, or about
  one that the same call created.** A streaming submission cancels nobody else's job.
-/

namespace Ipp

open Base

/-! ## Questions -/

/-- The operations that leave a server's queues, jobs and subscriptions as they are. -/
def readOperations : List Int16 :=
  [Operation.validateJob.code, Operation.getJobAttributes.code, Operation.getJobs.code,
    Operation.getPrinterAttributes.code, Operation.cupsGetDefault.code,
    Operation.cupsGetPrinters.code, Operation.cupsGetClasses.code, Operation.cupsGetPPDs.code,
    getSubscriptionAttributes, getSubscriptions, getNotifications, getDocuments, validateDocument]

def ChangesNothing (code : Int16) : Prop := code ∈ readOperations

instance (code : Int16) : Decidable (ChangesNothing code) := inferInstanceAs (Decidable (_ ∈ _))

/-- The methods that ask. -/
def Call.Asks : Call → Prop
  | .client method =>
    match method with
    | .defaultPrinter | .printers | .jobs _ | .job _ _ | .classes | .ppds _ | .printer _
    | .printerAt _ | .validateJob _ _ => True
    | _ => False
  | .printer _ method =>
    match method with
    | .attributes | .validate _ | .documents _ | .validateDocument _ _ | .subscriptions
    | .subscription _ | .notifications _ => True
    | _ => False
  | .job _ _ _ _ => False

theorem codes_changeNothing {call : Call} (h : call.Asks) :
    ∀ code ∈ call.codes, ChangesNothing code := by
  refine Call.forall_codes Call.Asks (fun m h => ?_) (fun uri m h => ?_)
    (fun _ _ _ _ h => h.elim) h
  · cases m <;> first | rfl | exact h.elim
  · cases m <;> first | rfl | exact h.elim

section Rules

variable [IppCrate] [LawfulIppCrate]

/-- **Observers only read.** In a session whose calls all ask, with any polls of any event streams
in between, no request is for an operation that changes anything. -/
theorem observers_only_read (c : IppClient) (s : Session) (ls : List SessionStep)
    (hasks : ∀ w call, SessionStep.call w call ∈ ls → call.Asks) :
    (sessions c).Throughout (Session.Since (fun e => ChangesNothing (sentCode e)) s) s ls := by
  have hmeets : (sessions c).Meets (fun _ l => ∀ w call, l = .call w call → call.Asks) s ls :=
    Sys.meets_of_mem fun l hl _ w call heq => hasks w call (heq ▸ hl)
  refine Sys.throughout_of_meets (fun u l u' hu hl hs => ?_) (Session.Since.refl _ s) hmeets
  refine hu.step hs (fun w call heq e he => ?_) fun w stream _ e he => ?_
  · exact codes_changeNothing (hl w call heq) _ (call.sentCode_mem he)
  · have hmem := (poll_sentCodes c w u.past u.cell (u.streams stream)).subset
      (List.mem_map_of_mem he)
    have hpoll : ∀ code ∈ pollCodes, ChangesNothing code :=
      forall_codes (by decide)
    exact hpoll _ hmem

/-! ## One job -/

/-- The operations about one job, which is named by its id. -/
def jobOperations : List Int16 :=
  [Operation.sendDocument.code, Operation.cancelJob.code, Operation.getJobAttributes.code,
    Operation.holdJob.code, Operation.releaseJob.code, Operation.restartJob.code,
    Operation.cupsMoveJob.code, Ipp.setJobAttributes, Ipp.resubmitJob, getDocuments,
    Ipp.validateDocument, closeJob]

def IsJobOperation (code : Int16) : Prop := code ∈ jobOperations

instance (code : Int16) : Decidable (IsJobOperation code) := inferInstanceAs (Decidable (_ ∈ _))

def ClientMethod.job? : ClientMethod → Option JobId
  | .job _ id | .cancelJob _ id | .holdJob _ id | .releaseJob _ id | .restartJob _ id
  | .moveJob _ id _ => some id
  | _ => none

def PrinterMethod.job? : PrinterMethod → Option JobId
  | .cancelJob id | .holdJob id | .releaseJob id | .restartJob id | .documents id
  | .validateDocument id _ | .resubmitJob id | .setJobAttributes id _ => some id
  | _ => none

/-- The job that a call is given. -/
def Call.job? : Call → Option JobId
  | .client method => method.job?
  | .printer _ method => method.job?
  | .job _ id _ _ => some id

/-- The request of the exchange names the job. -/
def Names (id : JobId) (e : Exchange Post Reply) : Prop :=
  e.call.request.operation "job-id" = some (.integer id)

/-- The exchange created the job. -/
structure Opens (id : JobId) (e : Exchange Post Reply) : Prop where
  code : sentCode e = Operation.createJob.code
  accepted : ∃ resp, IppClient.accept "Create-Job" e.reply = .ok resp ∧ decodeJobId resp = .ok id

/-! ### Requests -/

section Requests

variable {c : IppClient} {p : IppPrinter} {m m' : IppRequestResponse} {id : JobId}

/-- A request to which an attribute of another name is added, or one of another group. -/
theorem addAttribute_job {tag : DelimiterTag} {name : String} {value : IppValue}
    (h : addAttribute m tag name value = .ok m')
    (hn : tag ≠ .operationAttributes ∨ name ≠ "job-id") :
    m'.operation "job-id" = m.operation "job-id" := by
  obtain rfl := addAttribute_ok h
  by_cases ht : tag = .operationAttributes
  · subst ht
    rw [IppRequestResponse.operation_add, if_neg (hn.resolve_left (not_not_intro rfl)),
      Option.or_none]
  · exact IppRequestResponse.lookup_add_ne (Ne.symm ht) _ _ _

theorem addAll_job {tag : DelimiterTag} {attributes : NamedValues}
    (ht : tag ≠ .operationAttributes) (h : addAll m tag attributes = .ok m') :
    m'.operation "job-id" = m.operation "job-id" := by
  induction attributes generalizing m with
  | nil =>
    cases h
    rfl
  | cons a attributes ih =>
    obtain ⟨m₁, h₁, h⟩ := bind_eq_ok.mp h
    rw [ih h, addAttribute_job h₁ (.inl ht)]

theorem rawIntRequest_job {opcode : Int16} (h : p.rawIntRequest opcode "job-id" id = .ok m) :
    m.operation "job-id" = some (.integer id) := by
  obtain ⟨m₀, h₀, h⟩ := bind_eq_ok.mp h
  obtain rfl := addAttribute_ok h
  rw [IppRequestResponse.operation_add, rawRequest_within h₀ _ (by decide)]
  rfl

theorem validateDocumentRequest_job {format : String}
    (h : p.validateDocumentRequest id format = .ok m) :
    m.operation "job-id" = some (.integer id) := by
  obtain ⟨m₀, h₀, h⟩ := bind_eq_ok.mp h
  obtain ⟨v, -, h⟩ := bind_eq_ok.mp h
  rw [addAttribute_job h (.inr (by decide)), rawIntRequest_job h₀]

theorem setJobAttributesRequest_job {attributes : NamedValues}
    (h : p.setJobAttributesRequest id attributes = .ok m) :
    m.operation "job-id" = some (.integer id) := by
  obtain ⟨m₀, h₀, h⟩ := bind_eq_ok.mp h
  rw [addAll_job (by decide) h, rawIntRequest_job h₀]

theorem jobRequest_job {queue : String} (h : c.jobRequest queue id = .ok m) :
    m.operation "job-id" = some (.integer id) := by
  obtain ⟨uri, -, h⟩ := bind_eq_ok.mp h
  obtain ⟨m₀, h₀, h⟩ := bind_eq_ok.mp h
  obtain ⟨wanted, -, h⟩ := bind_eq_ok.mp h
  rw [addAttribute_job h (.inr (by decide))]
  exact (LawfulIppCrate.getJobAttributes_ok (mapError_eq_ok.mp h₀)).2

end Requests

/-! ### Calls -/

variable {c : IppClient} {uri : Uri} {id : JobId}

theorem jobActionAt_names (op : Operation) (label : String) :
    Act.Emits (Names id) (c.jobActionAt op label uri id) :=
  jobActionAt_emits c fun _ hm _ => (jobActionRequest_ok hm).2

theorem job_names (queue : String) : Act.Emits (Names id) (c.job queue id) := by
  refine Act.Emits.bind_ofExcept fun m hm =>
    Act.Emits.bind (fun w past cell e he => ?_) fun resp => ?_
  · rw [IppClient.post_apply, List.mem_singleton] at he
    rw [he]
    exact jobRequest_job hm
  · split
    · exact Act.Emits.pure _
    · exact Act.Emits.bind (Act.Emits.ofExcept _) fun _ => Act.Emits.pure _

theorem ClientMethod.run_names {method : ClientMethod} (h : method.job? = some id) :
    Act.Emits (Names id) (method.run c) := by
  cases method with
  | job queue _ =>
    cases h
    exact (job_names queue).void
  | cancelJob _ _ | holdJob _ _ | releaseJob _ _ | restartJob _ _ =>
    cases h
    exact Act.Emits.bind_ofExcept fun _ _ => jobActionAt_names _ _
  | moveJob queue _ destination =>
    cases h
    refine Act.Emits.bind_ofExcept fun m hm => ?_
    obtain ⟨_, -, -, hid⟩ := moveJobRequest_ok hm
    exact Act.Emits.bind (IppClient.send_emits c _ fun _ => hid) fun _ => Act.Emits.pure _
  | _ => cases h

theorem PrinterMethod.run_names {p : IppPrinter} {method : PrinterMethod}
    (h : method.job? = some id) : Act.Emits (Names id) (method.run p) := by
  cases method with
  | cancelJob _ | holdJob _ | releaseJob _ | restartJob _ =>
    cases h
    exact perform_emits p fun _ hm _ => (jobActionRequest_ok hm).2
  | documents _ | resubmitJob _ =>
    cases h
    exact (ask_emits p fun _ hm _ => rawIntRequest_job hm).void
  | validateDocument _ format =>
    cases h
    exact perform_emits p fun _ hm _ => validateDocumentRequest_job hm
  | setJobAttributes _ attributes =>
    cases h
    exact perform_emits p fun _ hm _ => setJobAttributesRequest_job hm
  | _ => cases h

theorem JobMethod.run_names (j : IppJob) (method : JobMethod) :
    Act.Emits (Names j.id) (method.run j) := by
  cases method with
  | addDocument reader format last =>
    refine (request_emits _ (fun m hm _ => ?_) fun _ => Act.Emits.pure _).void
    exact (LawfulIppCrate.sendDocument_ok (mapError_eq_ok.mp hm)).2.1
  | close =>
    refine Act.Emits.void ?_
    unfold IppJob.close
    split
    · exact Act.Emits.pure _
    · exact request_emits _ (fun _ hm _ => (IppJob.closeRequest_ok hm).2.2) fun _ =>
        Act.Emits.pure _
  | cancel => exact perform_emits j.printer fun _ hm _ => (jobActionRequest_ok hm).2

theorem fill_names (reader : Payload) (format : Option String) :
    Act.Emits (Names id) (c.fill uri reader format id) := by
  refine Act.Emits.bind_ofExcept fun m hm => ?_
  have hid : m.operation "job-id" = some (.integer id) :=
    (LawfulIppCrate.sendDocument_ok (mapError_eq_ok.mp hm)).2.1
  refine Act.Emits.bind (Act.Emits.attempt (IppClient.send_emits c _ fun _ => hid)) fun sent => ?_
  cases sent with
  | ok resp => exact Act.Emits.pure id
  | error e =>
    exact Act.Emits.bind (Act.Emits.attempt (jobActionAt_names _ _)) fun _ => Act.Emits.fail e

/-! ### Submissions -/

/-- The requests of the action are about no job, or about one that the same run created. -/
def KeepsToItsOwn {α : Type} (x : Net α) : Prop := ∀ w past cell, ∀ e ∈ (x w past cell).trace,
  IsJobOperation (sentCode e) → ∃ id, Names id e ∧ ∃ e₀ ∈ (x w past cell).trace, Opens id e₀

namespace KeepsToItsOwn

variable {α β : Type}

omit [LawfulIppCrate] in
theorem void {x : Net α} (hx : KeepsToItsOwn x) : KeepsToItsOwn x.void := by
  intro w past cell
  rw [Act.void_trace]
  exact hx w past cell

omit [LawfulIppCrate] in
/-- What sends nothing may come first. -/
theorem after_silent {x : Net β} {f : β → Net α} (hx : ∀ w past cell, (x w past cell).trace = [])
    (hf : ∀ b, KeepsToItsOwn (f b)) : KeepsToItsOwn (x >>= f) := by
  intro w past cell
  have ht := hx w past cell
  rcases h : x w past cell with ⟨e | b, t, cell'⟩
  · rw [h] at ht
    rw [Act.bind_error w past cell h]
    exact ht ▸ nofun
  · rw [h] at ht
    obtain rfl : t = [] := ht
    rw [Act.bind_ok w past cell h]
    exact hf b w _ cell'

end KeepsToItsOwn

omit [IppCrate] [LawfulIppCrate] in
theorem openFile_trace (path : Path) (w : World) (past : List (Exchange Post Reply))
    (cell : Cache) : (IppClient.openFile path w past cell).trace = [] :=
  List.eq_nil_iff_forall_not_mem.mpr fun e he =>
    (openFile_emits path : Act.Emits (fun _ => False) _) w past cell e he

/-- A streaming submission acts on the job that it created. -/
theorem printStreamAt_keepsToItsOwn (reader : Payload) (format : Option String) (name : String) :
    KeepsToItsOwn (c.printStreamAt uri reader format name) := by
  intro w past cell
  have hopens {m : IppRequestResponse} (hm : IppCrate.createJob uri (some name) = .ok m) :
      sentCode (c.exchange w past m) = Operation.createJob.code :=
    (LawfulIppCrate.createJob_ok hm).code
  have hother {m : IppRequestResponse} (hm : IppCrate.createJob uri (some name) = .ok m) :
      ¬ IsJobOperation (sentCode (c.exchange w past m)) := by
    rw [hopens hm]
    decide
  have ho : IppClient.StreamOutcome c uri reader format w past cell name
      (c.printStreamAt uri reader format name w past cell) := IppClient.printStreamAt_outcome name
  generalize c.printStreamAt uri reader format name w past cell = r at ho ⊢
  intro e he hop
  cases ho with
  | unbuilt _ => cases he
  -- Without a job there is the `Create-Job` alone.
  | refused hm _ | unnamed hm _ _ => exact absurd (List.mem_singleton.mp he ▸ hop) (hother hm)
  | created hm hr hj =>
    -- All that follows is about the created job: its document, or its removal.
    obtain rfl | he := List.mem_cons.mp he
    · exact absurd hop (hother hm)
    · exact ⟨_, fill_names reader format w _ cell e he, _, List.mem_cons_self, hopens hm, _, hr, hj⟩

/-! ### All calls -/

/-- The streaming submissions. -/
def Call.Submits : Call → Prop
  | .client (.printStream _ _ _ _) => True
  | .client (.printFile _ _) => True
  | .printer _ (.printStream _ _ _) => True
  | .printer _ (.printFile _) => True
  | _ => False

omit [IppCrate] [LawfulIppCrate] in
theorem codes_noJob {call : Call} (hj : call.job? = none) (hs : ¬ call.Submits) :
    ∀ code ∈ call.codes, ¬ IsJobOperation code := by
  refine Call.forall_codes (fun call => call.job? = none ∧ ¬ call.Submits) (fun m h => ?_)
    (fun uri m h => ?_) (fun _ _ _ _ h => nomatch h.1) ⟨hj, hs⟩
  · cases m <;> first | rfl | exact absurd trivial h.2 | exact nomatch h.1
  · cases m <;> first | rfl | exact absurd trivial h.2 | exact nomatch h.1

theorem Call.run_keepsToItsOwn {call : Call} (h : call.Submits) : KeepsToItsOwn (call.run c) := by
  cases call with
  | client method =>
    cases method with
    | printStream queue reader format name =>
      exact (KeepsToItsOwn.after_silent (fun _ _ _ => rfl) fun _ =>
        printStreamAt_keepsToItsOwn reader format name).void
    | printFile queue path =>
      exact (KeepsToItsOwn.after_silent (openFile_trace path) fun _ =>
        KeepsToItsOwn.after_silent (fun _ _ _ => rfl) fun _ =>
          printStreamAt_keepsToItsOwn _ _ _).void
    | _ => exact absurd h id
  | printer uri method =>
    cases method with
    | printStream reader format name => exact (printStreamAt_keepsToItsOwn reader format name).void
    | printFile path =>
      exact (KeepsToItsOwn.after_silent (openFile_trace path) fun _ =>
        printStreamAt_keepsToItsOwn _ _ _).void
    | _ => exact absurd h id
  | job _ _ _ _ => exact absurd h id

theorem Call.run_names {call : Call} (h : call.job? = some id) :
    Act.Emits (Names id) (call.run c) := by
  cases call with
  | client method => exact method.run_names h
  | printer uri method => exact method.run_names h
  | job uri id' closed method =>
    cases h
    exact method.run_names ⟨⟨c, uri⟩, id, closed⟩

/-- **Only its own jobs.** A request about one job names it. It is the job that the call was given,
or one that the server created for this same call; a poll sends no such request. -/
theorem own_jobs_only (c : IppClient) (w : World) (past : List (Exchange Post Reply))
    (cell : Cache) :
    (∀ call : Call, ∀ e ∈ (call.run c w past cell).trace, IsJobOperation (sentCode e) →
      ∃ id, Names id e ∧
        (call.job? = some id ∨ ∃ e₀ ∈ (call.run c w past cell).trace, Opens id e₀)) ∧
    ∀ l : EventLoop, ∀ e ∈ (c.poll l w past cell).trace, ¬ IsJobOperation (sentCode e) := by
  refine ⟨fun call e he hop => ?_, fun l e he => ?_⟩
  · cases hj : call.job? with
    | some id => exact ⟨id, call.run_names hj w past cell e he, .inl rfl⟩
    | none =>
      by_cases hs : call.Submits
      · obtain ⟨id, hid, hcreated⟩ := call.run_keepsToItsOwn hs w past cell e he hop
        exact ⟨id, hid, .inr hcreated⟩
      · exact absurd hop (codes_noJob hj hs _ (call.sentCode_mem he))
  · have hmem := (poll_sentCodes c w past cell l).subset (List.mem_map_of_mem he)
    have hpoll : ∀ code ∈ pollCodes, ¬ IsJobOperation code :=
      forall_codes (by decide)
    exact hpoll _ hmem

end Rules

/-! ## A session that only looks, and a submission that is taken back -/

section Reference

attribute [local instance] Reference.crate

/-- Listing the printers of a server that refuses everything, and polling it. -/
theorem observers_only_read_unwilling :
    (sessions localClient).Throughout
      (Session.Since (fun e => ChangesNothing (sentCode e)) Session.start) Session.start
      [.call unwilling (.client .printers), .poll unwilling 0] := by
  have := Reference.lawful
  refine observers_only_read localClient _ _ fun w call h => ?_
  simp only [List.mem_cons, SessionStep.call.injEq, reduceCtorEq, List.not_mem_nil, or_false] at h
  rw [h.2]
  trivial

/-- A server that creates the job 42, and refuses its document. -/
def refusesDocuments : World :=
  .answering fun op =>
    if op = Operation.createJob.code then accepted [⟨.jobAttributes, [⟨"job-id", .integer 42⟩]⟩]
    else refused

/-- The last request of a submission that is refused cancels the job 42, which it created. -/
theorem own_jobs_only_takenBack :
    ∃ e ∈ (Call.run localClient (.client (.printStream "HP" [1] none "report")) refusesDocuments []
        none).trace, sentCode e = Operation.cancelJob.code ∧ ∃ id, Names id e ∧
      ((Call.client (.printStream "HP" [1] none "report")).job? = some id ∨
        ∃ e₀ ∈ (Call.run localClient (.client (.printStream "HP" [1] none "report"))
          refusesDocuments [] none).trace, Opens id e₀) := by
  have := Reference.lawful
  obtain ⟨e, he, hcode⟩ : ∃ e ∈ (Call.run localClient
      (.client (.printStream "HP" [1] none "report")) refusesDocuments [] none).trace,
      sentCode e = Operation.cancelJob.code := ⟨_, .tail _ (.tail _ (.head _)), rfl⟩
  have hop : IsJobOperation (sentCode e) := by
    rw [hcode]
    decide
  exact ⟨e, he, hcode, (own_jobs_only localClient refusesDocuments [] none).1 _ e he hop⟩

end Reference

end Ipp
