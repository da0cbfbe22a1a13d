import IppClient.Client.Jobs

/-!
# What the streaming submission leaves behind

`IppClient::print_stream_at` creates a job, sends the document, and cancels the job if the document
was refused. It does not cancel the job if the `Send-Document` request cannot be built: that error
returns at once.

* `fill_unbuilt`, `fill_accepted`, `fill_refused`: the run after the job was created, by what became
  of the document.
* `printStreamAt_noOrphan_iff`: **the job is filled, or taken back with exactly one `Cancel-Job`,
  exactly when the `Send-Document` request can be built and, if it is refused, so can the
  `Cancel-Job`.**
-/

namespace Ipp

open Base

section

variable [IppCrate]

/-- The exchange is a request of this operation for this job of this printer. -/
structure IsRequestFor (op : Operation) (uri : Uri) (job : JobId) (e : Exchange Post Reply) :
    Prop where
  code : e.call.request.operationOrStatus = op.code
  printer : e.call.request.operation "printer-uri" = some (.uri (requestUri op.code uri))
  job : e.call.request.operation "job-id" = some (.integer job)

/-- The `Cancel-Job` requests among the exchanges. -/
def cancels (t : List (Exchange Post Reply)) : List (Exchange Post Reply) :=
  t.filter fun e => e.call.request.operationOrStatus = Operation.cancelJob.code

/-- The job was returned: its document was accepted, and nothing was cancelled. -/
structure Submitted (uri : Uri) (job : JobId) (r : Ran Post Reply Cache Error JobId) : Prop where
  result : r.result = .ok job
  sent : ∃ e ∈ r.trace, IsRequestFor .sendDocument uri job e ∧
    ∃ resp, IppClient.accept "Send-Document" e.reply = .ok resp
  kept : cancels r.trace = []

/-- The job was taken back: the error is that of the step that failed, and one `Cancel-Job` was
sent, for this job. -/
structure TakenBack (uri : Uri) (job : JobId) (failure : Except Error IppRequestResponse)
    (r : Ran Post Reply Cache Error JobId) : Prop where
  result : ∃ e, r.result = .error e ∧ failure = .error e
  cancelled : ∃ e, cancels r.trace = [e] ∧ IsRequestFor .cancelJob uri job e

namespace IppClient

variable (c : IppClient) (uri : Uri) (reader : Payload) (format : Option String) (w : World)
  (past : List (Exchange Post Reply)) (cell : Cache)

/-- The `Send-Document` of a submission. -/
def documentRequest (job : JobId) : Except ForeignError IppRequestResponse :=
  IppCrate.sendDocument uri job reader (some c.user) format true

/-- The step after the job was created: the document is sent. -/
def sendStep (job : JobId) : Except Error IppRequestResponse := do
  let m ← transport (c.documentRequest uri reader format job)
  accept "Send-Document" (c.exchange w past m).reply

/-- `print_stream_at` from the point where the job exists. -/
def fill (job : JobId) : Net JobId := do
  let send ← Act.ofExcept (transport (c.documentRequest uri reader format job))
  match ← (c.send send "Send-Document").attempt with
  | .ok _ => return job
  | .error e =>
    let _ ← (c.jobActionAt .cancelJob "Cancel-Job" uri job).attempt
    Act.fail e

/-! ## The run, step by step -/

variable {c uri reader format w past cell} {m : IppRequestResponse} {job : JobId}

/-- Once the job exists, `fill` is what is left. -/
theorem printStreamAt_created {name : String} {resp : IppRequestResponse}
    (hm : IppCrate.createJob uri (some name) = .ok m)
    (hr : accept "Create-Job" (c.exchange w past m).reply = .ok resp)
    (hj : decodeJobId resp = .ok job) :
    c.printStreamAt uri reader format name w past cell =
      ⟨(c.fill uri reader format job w (past ++ [c.exchange w past m]) cell).result,
        c.exchange w past m ::
          (c.fill uri reader format job w (past ++ [c.exchange w past m]) cell).trace,
        (c.fill uri reader format job w (past ++ [c.exchange w past m]) cell).cell⟩ := by
  have hs : c.send m "Create-Job" w past cell = ⟨.ok resp, [c.exchange w past m], cell⟩ := by
    rw [send_exchange, hr]
  unfold printStreamAt
  rw [Act.ofExcept_ok_bind (transport_ok hm), Act.bind_ok w past cell hs, Act.ofExcept_ok_bind hj]
  rfl

variable (c uri reader format w past cell) in
/-- What a submission can come to: no request, a `Create-Job` that fails or is refused, one whose
response names no job, or a job. -/
inductive StreamOutcome (name : String) : Ran Post Reply Cache Error JobId → Prop
  | unbuilt {e : ForeignError} (hm : IppCrate.createJob uri (some name) = .error e) :
    StreamOutcome name ⟨.error (.ofTransport e), [], cell⟩
  | refused {m : IppRequestResponse} {e : Error}
      (hm : IppCrate.createJob uri (some name) = .ok m)
      (hr : accept "Create-Job" (c.exchange w past m).reply = .error e) :
    StreamOutcome name ⟨.error e, [c.exchange w past m], cell⟩
  | unnamed {m resp : IppRequestResponse} {e : Error}
      (hm : IppCrate.createJob uri (some name) = .ok m)
      (hr : accept "Create-Job" (c.exchange w past m).reply = .ok resp)
      (hj : decodeJobId resp = .error e) :
    StreamOutcome name ⟨.error e, [c.exchange w past m], cell⟩
  | created {m resp : IppRequestResponse} {job : JobId}
      (hm : IppCrate.createJob uri (some name) = .ok m)
      (hr : accept "Create-Job" (c.exchange w past m).reply = .ok resp)
      (hj : decodeJobId resp = .ok job) :
    StreamOutcome name
      ⟨(c.fill uri reader format job w (past ++ [c.exchange w past m]) cell).result,
        c.exchange w past m ::
          (c.fill uri reader format job w (past ++ [c.exchange w past m]) cell).trace,
        (c.fill uri reader format job w (past ++ [c.exchange w past m]) cell).cell⟩

theorem printStreamAt_outcome (name : String) :
    StreamOutcome c uri reader format w past cell name
      (c.printStreamAt uri reader format name w past cell) := by
  cases hm : IppCrate.createJob uri (some name) with
  | error e =>
    unfold printStreamAt
    rw [Act.ofExcept_error_bind (transport_error hm)]
    exact .unbuilt hm
  | ok m =>
    have hs : c.send m "Create-Job" w past cell =
        ⟨accept "Create-Job" (c.exchange w past m).reply, [c.exchange w past m], cell⟩ :=
      send_exchange m "Create-Job"
    cases hr : accept "Create-Job" (c.exchange w past m).reply with
    | error e =>
      rw [hr] at hs
      unfold printStreamAt
      rw [Act.ofExcept_ok_bind (transport_ok hm), Act.bind_error w past cell hs]
      exact .refused hm hr
    | ok resp =>
      cases hj : decodeJobId resp with
      | error e =>
        rw [hr] at hs
        unfold printStreamAt
        rw [Act.ofExcept_ok_bind (transport_ok hm), Act.bind_ok w past cell hs,
          Act.ofExcept_error_bind hj]
        exact .unnamed hm hr hj
      | ok job =>
        rw [printStreamAt_created hm hr hj]
        exact .created hm hr hj

theorem jobActionAt_unbuilt {op : Operation} {label : String} {e : Error}
    (h : c.jobActionRequest op uri job = .error e) :
    c.jobActionAt op label uri job w past cell = ⟨.error e, [], cell⟩ := by
  unfold jobActionAt
  rw [Act.ofExcept_error_bind h]
  rfl

theorem jobActionAt_built {op : Operation} {label : String}
    (h : c.jobActionRequest op uri job = .ok m) :
    ∃ r, c.jobActionAt op label uri job w past cell = ⟨r, [c.exchange w past m], cell⟩ := by
  unfold jobActionAt
  rw [Act.ofExcept_ok_bind h]
  exact ⟨_, send_map m label fun _ => ()⟩

/-- The request cannot be built: the error returns, and nothing more is sent. -/
theorem fill_unbuilt {e : ForeignError} (h : c.documentRequest uri reader format job = .error e) :
    c.fill uri reader format job w past cell = ⟨.error (.ofTransport e), [], cell⟩ := by
  unfold fill
  rw [Act.ofExcept_error_bind (transport_error h)]
  rfl

/-- The document is accepted. -/
theorem fill_accepted {resp : IppRequestResponse}
    (h : c.documentRequest uri reader format job = .ok m)
    (ha : accept "Send-Document" (c.exchange w past m).reply = .ok resp) :
    c.fill uri reader format job w past cell = ⟨.ok job, [c.exchange w past m], cell⟩ := by
  have hs : (c.send m "Send-Document").attempt w past cell =
      ⟨.ok (.ok resp), [c.exchange w past m], cell⟩ := by
    rw [Act.attempt_apply, send_exchange, ha]
  unfold fill
  rw [Act.ofExcept_ok_bind (transport_ok h), Act.bind_ok w past cell hs]
  rfl

/-- The document is refused: the job is cancelled, and the refusal returns. -/
theorem fill_refused {e : Error} (h : c.documentRequest uri reader format job = .ok m)
    (ha : accept "Send-Document" (c.exchange w past m).reply = .error e) :
    c.fill uri reader format job w past cell =
      ⟨.error e, c.exchange w past m ::
        (c.jobActionAt .cancelJob "Cancel-Job" uri job w (past ++ [c.exchange w past m]) cell).trace,
        (c.jobActionAt .cancelJob "Cancel-Job" uri job w
          (past ++ [c.exchange w past m]) cell).cell⟩ := by
  have hs : (c.send m "Send-Document").attempt w past cell =
      ⟨.ok (.error e), [c.exchange w past m], cell⟩ := by
    rw [Act.attempt_apply, send_exchange, ha]
  unfold fill
  rw [Act.ofExcept_ok_bind (transport_ok h), Act.bind_ok w past cell hs]
  have hc := Act.attempt_apply w (past ++ [c.exchange w past m]) cell
    (c.jobActionAt .cancelJob "Cancel-Job" uri job)
  simp only [Act.bind_ok w _ cell hc, Act.fail_apply, List.append_nil]
  rfl

end IppClient

/-! ## No orphan -/

variable [LawfulIppCrate] {c : IppClient} {uri : Uri} {reader : Payload} {format : Option String}
  {w : World} {past : List (Exchange Post Reply)} {cell : Cache} {m m0 : IppRequestResponse}
  {job : JobId}

omit [IppCrate] [LawfulIppCrate] in
theorem cancels_cons {op : Operation} (hm : m.operationOrStatus = op.code)
    (h : op.code ≠ Operation.cancelJob.code) (t : List (Exchange Post Reply)) :
    cancels (c.exchange w past m :: t) = cancels t := by
  have hne : ¬ (c.exchange w past m).call.request.operationOrStatus = Operation.cancelJob.code := by
    intro e
    exact h (hm.symm.trans e)
  rw [cancels, List.filter_cons, if_neg (by simpa using hne), cancels]

omit [IppCrate] [LawfulIppCrate] in
theorem cancels_singleton (hm : m.operationOrStatus = Operation.cancelJob.code) :
    cancels [c.exchange w past m] = [c.exchange w past m] := by
  have he : (c.exchange w past m).call.request.operationOrStatus = Operation.cancelJob.code := hm
  rw [cancels, List.filter_cons, if_pos (by simpa using he), List.filter_nil]

theorem document_isRequestFor (h : c.documentRequest uri reader format job = .ok m) :
    IsRequestFor .sendDocument uri job (c.exchange w past m) := by
  obtain ⟨hf, hj, -⟩ := LawfulIppCrate.sendDocument_ok h
  refine ⟨hf.code, ?_, hj⟩
  rw [requestUri_struct (by decide)]
  exact hf.printer

theorem cancel_isRequestFor (h : c.jobActionRequest .cancelJob uri job = .ok m) :
    IsRequestFor .cancelJob uri job (c.exchange w past m) := by
  obtain ⟨hf, hj⟩ := jobActionRequest_ok h
  refine ⟨hf.code, ?_, hj⟩
  rw [requestUri_new (by decide)]
  exact hf.printer

/-- **No orphan.** Of a submission whose `Create-Job` was accepted with the job id `job`: either
the job is returned with its document accepted, or it is taken back with exactly one `Cancel-Job`
and the error of the failed step, exactly when the `Send-Document` request can be built and, if
it is refused, the `Cancel-Job` request can. -/
theorem printStreamAt_noOrphan_iff {name : String} {resp : IppRequestResponse}
    (hm : IppCrate.createJob uri (some name) = .ok m0)
    (hr : IppClient.accept "Create-Job" (c.exchange w past m0).reply = .ok resp)
    (hj : decodeJobId resp = .ok job) :
    (Submitted uri job (c.printStreamAt uri reader format name w past cell) ∨
      TakenBack uri job (c.sendStep uri reader format w (past ++ [c.exchange w past m0]) job)
        (c.printStreamAt uri reader format name w past cell)) ↔
    ∃ m, c.documentRequest uri reader format job = .ok m ∧
      ∀ e, IppClient.accept "Send-Document"
          (c.exchange w (past ++ [c.exchange w past m0]) m).reply = .error e →
        ∃ m', c.jobActionRequest .cancelJob uri job = .ok m' := by
  rw [IppClient.printStreamAt_created hm hr hj]
  -- Neither the `Create-Job` nor the `Send-Document` is a `Cancel-Job`.
  have hcreate : ∀ t, cancels (c.exchange w past m0 :: t) = cancels t :=
    cancels_cons (LawfulIppCrate.createJob_ok hm).code (by decide)
  generalize past ++ [c.exchange w past m0] = past'
  cases hd : c.documentRequest uri reader format job with
  | error e =>
    -- The early return: the job is neither returned nor cancelled.
    rw [IppClient.fill_unbuilt hd]
    constructor
    · rintro (⟨h, -, -⟩ | ⟨-, x, h, -⟩)
      · cases h
      · rw [hcreate] at h
        cases h
    · rintro ⟨m, h, -⟩
      cases h
  | ok m =>
    have hdoc : ∀ t, cancels (c.exchange w past' m :: t) = cancels t :=
      cancels_cons (LawfulIppCrate.sendDocument_ok hd).1.code (by decide)
    cases ha : IppClient.accept "Send-Document" (c.exchange w past' m).reply with
    | ok resp' =>
      rw [IppClient.fill_accepted hd ha]
      refine iff_of_true
        (.inl ⟨rfl, ⟨_, .tail _ (.head _), document_isRequestFor hd, resp', ha⟩, ?_⟩)
        ⟨m, rfl, fun e he => ?_⟩
      · rw [hcreate, hdoc]
        rfl
      · rw [ha] at he
        cases he
    | error e =>
      rw [IppClient.fill_refused hd ha]
      have hsend : c.sendStep uri reader format w past' job = .error e := by
        unfold IppClient.sendStep
        rw [hd]
        exact ha
      cases hk : c.jobActionRequest .cancelJob uri job with
      | error e' =>
        rw [IppClient.jobActionAt_unbuilt hk]
        constructor
        · rintro (⟨h, -, -⟩ | ⟨-, x, h, -⟩)
          · cases h
          · rw [hcreate, hdoc] at h
            cases h
        · rintro ⟨m₁, h, hx⟩
          cases h
          obtain ⟨m', hm'⟩ := hx e ha
          cases hm'
      | ok m' =>
        obtain ⟨r, hrun⟩ : ∃ r, c.jobActionAt .cancelJob "Cancel-Job" uri job w
            (past' ++ [c.exchange w past' m]) cell =
          ⟨r, [c.exchange w (past' ++ [c.exchange w past' m]) m'], cell⟩ :=
          IppClient.jobActionAt_built hk
        have hcancel : cancels [c.exchange w past m0, c.exchange w past' m,
            c.exchange w (past' ++ [c.exchange w past' m]) m'] =
            [c.exchange w (past' ++ [c.exchange w past' m]) m'] := by
          rw [hcreate, hdoc]
          exact cancels_singleton (jobActionRequest_ok hk).1.code
        rw [hrun]
        exact iff_of_true (.inr ⟨⟨e, rfl, hsend⟩, _, hcancel, cancel_isRequestFor hk⟩)
          ⟨m, rfl, fun _ _ => ⟨m', rfl⟩⟩

end

/-! ## A document format that is too long for its type -/

section Reference

attribute [local instance] Reference.crate

/-- The URI of the queue `HP`. -/
def queueUri : Uri := ⟨some "http", some ⟨"localhost:631", "localhost", some 631⟩, "/printers/HP", none⟩

/-- A server that creates the job 42, and accepts whatever else it is asked. -/
def creates42 : World :=
  .answering fun op =>
    if op = Operation.createJob.code then accepted [⟨.jobAttributes, [⟨"job-id", .integer 42⟩]⟩]
    else accepted []

/-- A MIME type of 256 bytes. -/
def longFormat : String := String.ofList (List.replicate 256 'a')

theorem longFormat_unfit : Reference.fits .mimeMediaType longFormat = false := by
  have h : Reference.byteLength longFormat = 256 := Reference.byteLength_replicate 256
  simp [Reference.fits, h, StringKind.maxBytes]

/-- That server accepts a `Create-Job` for the queue. -/
theorem creates42_accepts :
    ∃ m0 resp, IppCrate.createJob queueUri (some "report") = .ok m0 ∧
      IppClient.accept "Create-Job" (localClient.exchange creates42 [] m0).reply = .ok resp ∧
        decodeJobId resp = .ok 42 :=
  ⟨_, _, rfl, rfl, rfl⟩

/-- With a format that is too long, the job 42 is neither filled nor cancelled. -/
theorem printStreamAt_longFormat_orphan :
    ¬ ∀ (c : IppClient) (uri : Uri) (reader : Payload) (format : Option String) (name : String)
      (w : World) (past : List (Exchange Post Reply)) (cell : Cache)
      (m0 resp : IppRequestResponse) (job : JobId),
      IppCrate.createJob uri (some name) = .ok m0 →
      IppClient.accept "Create-Job" (c.exchange w past m0).reply = .ok resp →
      decodeJobId resp = .ok job →
      Submitted uri job (c.printStreamAt uri reader format name w past cell) ∨
        TakenBack uri job (c.sendStep uri reader format w (past ++ [c.exchange w past m0]) job)
          (c.printStreamAt uri reader format name w past cell) := by
  intro h
  obtain ⟨m0, resp, hm, hr, hj⟩ := creates42_accepts
  -- All that matters of the format is that it does not fit.
  obtain ⟨format, hf⟩ : ∃ format, Reference.fits .mimeMediaType format = false :=
    ⟨longFormat, longFormat_unfit⟩
  have hrun := h localClient queueUri [] (some format) "report" creates42 [] none m0 resp 42
    hm hr hj
  rw [IppClient.printStreamAt_created hm hr hj] at hrun
  cases hd : localClient.documentRequest queueUri [] (some format) 42 with
  | ok m =>
    unfold IppClient.documentRequest at hd
    exact Reference.sendDocument_ne_ok hf hd
  | error e =>
    rw [IppClient.fill_unbuilt hd] at hrun
    obtain ⟨hres, -, -⟩ | ⟨-, x, hx, -⟩ := hrun
    · cases hres
    · have hc : m0.operationOrStatus = Operation.createJob.code := by
        cases hm
        rfl
      rw [cancels_cons hc (by decide)] at hx
      cases hx

theorem printStreamAt_noOrphan_iff_pdf :
    ∃ m0 : IppRequestResponse,
      (Submitted queueUri 42
          (localClient.printStreamAt queueUri [] (some "application/pdf") "report" creates42 [] none) ∨
        TakenBack queueUri 42
          (localClient.sendStep queueUri [] (some "application/pdf") creates42
            [localClient.exchange creates42 [] m0] 42)
          (localClient.printStreamAt queueUri [] (some "application/pdf") "report" creates42 []
            none)) ↔
      ∃ m, localClient.documentRequest queueUri [] (some "application/pdf") 42 = .ok m ∧
        ∀ e, IppClient.accept "Send-Document" (localClient.exchange creates42
            [localClient.exchange creates42 [] m0] m).reply = .error e →
          ∃ m', localClient.jobActionRequest .cancelJob queueUri 42 = .ok m' := by
  obtain ⟨m0, resp, hm, hr, hj⟩ := creates42_accepts
  have := Reference.lawful
  exact ⟨m0, printStreamAt_noOrphan_iff hm hr hj⟩

end Reference

end Ipp
