import IppClient.Client.Operations
import IppClient.Proofs.PrintStream

/-!
# When a job is closed

An `IppJob` is a job that documents are added to, and has to be closed: by its last document, or by
`close`. The handle keeps in `closed` whether that is done. `add_document` changes the handle in
place, so it is followed here with the handle as every return leaves it.

* `IppJob.addDocumentStep`: one call; `addDocument_eq` says that it is `IppJob.addDocument`.
* `IppJob.addAll`: any calls in a row, whatever else happens between them.
* `IppJob.addAll_closed`: **a job is marked closed exactly when a last document was accepted.**
* `job_closes_when_needed`: what `close` sends, and what its success means.
-/

namespace Ipp

open Base

/-- A call of `add_document`, and what it finds: the world, the exchanges so far and the cell. -/
structure AddCall where
  reader : Payload
  documentFormat : Option String
  last : Bool
  world : World
  past : List (Exchange Post Reply)
  cell : Cache

/-- A call that was made, and what came of it. -/
structure Added where
  call : AddCall
  ran : Ran Post Reply Cache Error Unit

/-- The call added a last document. -/
def Added.Closes (a : Added) : Prop := a.call.last = true ∧ a.ran.result = .ok ()

section

variable [IppCrate]

namespace IppJob

/-- `IppJob::add_document`, with the handle as each return leaves it: it is changed after the
request was accepted, and not before. -/
def addDocumentStep (j : IppJob) (a : AddCall) : Ran Post Reply Cache Error Unit × IppJob :=
  match transport (IppCrate.sendDocument j.printer.uri j.id a.reader
      (some j.printer.client.user) a.documentFormat a.last) with
  | .error e => (⟨.error e, [], a.cell⟩, j)
  | .ok op =>
    match j.printer.client.send op "Send-Document" a.world a.past a.cell with
    | ⟨.error e, t, cell⟩ => (⟨.error e, t, cell⟩, j)
    | ⟨.ok _, t, cell⟩ => (⟨.ok (), t, cell⟩, if a.last then { j with closed := true } else j)

/-- The calls in a row: the handle after them, and what came of each. -/
def addAll (j : IppJob) : List AddCall → IppJob × List Added
  | [] => (j, [])
  | a :: calls =>
    let (ran, j') := j.addDocumentStep a
    let (j'', added) := j'.addAll calls
    (j'', ⟨a, ran⟩ :: added)

/-- The request of a call. -/
def documentRequest (j : IppJob) (a : AddCall) : Except ForeignError IppRequestResponse :=
  IppCrate.sendDocument j.printer.uri j.id a.reader (some j.printer.client.user) a.documentFormat
    a.last

/-- The exchange of a call that gets to send its request. -/
def documentExchange (j : IppJob) (a : AddCall) (op : IppRequestResponse) :
    Exchange Post Reply :=
  j.printer.client.exchange a.world a.past op

/-- What a call can come to: no request, a request that fails or is refused, an accepted one. -/
inductive AddOutcome (j : IppJob) (a : AddCall) : Ran Post Reply Cache Error Unit × IppJob → Prop
  | unbuilt {e : ForeignError} (h : j.documentRequest a = .error e) :
    AddOutcome j a (⟨.error (.ofTransport e), [], a.cell⟩, j)
  | failed {op : IppRequestResponse} {e : Error} (h : j.documentRequest a = .ok op)
      (hr : IppClient.accept "Send-Document" (j.documentExchange a op).reply = .error e) :
    AddOutcome j a (⟨.error e, [j.documentExchange a op], a.cell⟩, j)
  | accepted {op resp : IppRequestResponse} (h : j.documentRequest a = .ok op)
      (hr : IppClient.accept "Send-Document" (j.documentExchange a op).reply = .ok resp) :
    AddOutcome j a (⟨.ok (), [j.documentExchange a op], a.cell⟩,
      if a.last then { j with closed := true } else j)

theorem addDocumentStep_outcome (j : IppJob) (a : AddCall) :
    AddOutcome j a (j.addDocumentStep a) := by
  unfold addDocumentStep
  cases h : j.documentRequest a with
  | error e =>
    have ht : transport (IppCrate.sendDocument j.printer.uri j.id a.reader
        (some j.printer.client.user) a.documentFormat a.last) = .error (.ofTransport e) :=
      transport_error h
    rw [ht]
    exact .unbuilt h
  | ok op =>
    have ht : transport (IppCrate.sendDocument j.printer.uri j.id a.reader
        (some j.printer.client.user) a.documentFormat a.last) = .ok op := transport_ok h
    have hs : j.printer.client.send op "Send-Document" a.world a.past a.cell =
        ⟨IppClient.accept "Send-Document" (j.documentExchange a op).reply,
          [j.documentExchange a op], a.cell⟩ := IppClient.send_exchange op "Send-Document"
    rw [ht]
    cases hr : IppClient.accept "Send-Document" (j.documentExchange a op).reply with
    | error e =>
      simp only [hs, hr]
      exact .failed h hr
    | ok resp =>
      simp only [hs, hr]
      exact .accepted h hr

/-- The step is `add_document`, which hands the changed handle on. -/
theorem addDocument_eq (j : IppJob) (a : AddCall) :
    j.addDocument a.reader a.documentFormat a.last a.world a.past a.cell =
      ⟨(j.addDocumentStep a).1.result.map fun _ => (j.addDocumentStep a).2,
        (j.addDocumentStep a).1.trace, (j.addDocumentStep a).1.cell⟩ := by
  have hdef : j.addDocument a.reader a.documentFormat a.last =
      Act.ofExcept (transport (j.documentRequest a)) >>= fun op =>
        j.printer.client.send op "Send-Document" >>= fun _ =>
          pure { j with closed := j.closed || a.last } := rfl
  have ho := j.addDocumentStep_outcome a
  generalize j.addDocumentStep a = r at ho
  rw [hdef]
  cases ho with
  | unbuilt h =>
    rw [Act.ofExcept_error_bind (transport_error h)]
    rfl
  | @failed op e h hr =>
    rw [Act.ofExcept_ok_bind (transport_ok h), IppClient.send_map]
    unfold documentExchange at hr
    rw [hr]
    rfl
  | @accepted op resp h hr =>
    rw [Act.ofExcept_ok_bind (transport_ok h), IppClient.send_map]
    unfold documentExchange at hr
    rw [hr]
    have hj : ({ j with closed := j.closed || a.last } : IppJob) =
        if a.last then { j with closed := true } else j := by
      cases a.last <;> simp
    rw [hj]
    rfl

/-! ## What the calls do to the handle -/

section Handle

variable {j : IppJob} {a : AddCall}

theorem addDocumentStep_printer : (j.addDocumentStep a).2.printer = j.printer := by
  have h := j.addDocumentStep_outcome a
  generalize j.addDocumentStep a = r at h
  cases h with
  | unbuilt _ => rfl
  | failed _ _ => rfl
  | accepted _ _ => cases a.last <;> rfl

theorem addDocumentStep_id : (j.addDocumentStep a).2.id = j.id := by
  have h := j.addDocumentStep_outcome a
  generalize j.addDocumentStep a = r at h
  cases h with
  | unbuilt _ => rfl
  | failed _ _ => rfl
  | accepted _ _ => cases a.last <;> rfl

/-- A call that fails leaves the handle as it was. -/
theorem addDocumentStep_error {e : Error} (he : (j.addDocumentStep a).1.result = .error e) :
    (j.addDocumentStep a).2 = j := by
  have h := j.addDocumentStep_outcome a
  generalize j.addDocumentStep a = r at h he
  cases h with
  | unbuilt _ => rfl
  | failed _ _ => rfl
  | accepted _ _ => cases he

/-- A call marks the job closed exactly when it adds a last document. -/
theorem addDocumentStep_closed :
    (j.addDocumentStep a).2.closed = true ↔
      j.closed = true ∨ Added.Closes ⟨a, (j.addDocumentStep a).1⟩ := by
  have h := j.addDocumentStep_outcome a
  generalize j.addDocumentStep a = r at h
  unfold Added.Closes
  cases h with
  | unbuilt _ => simp
  | failed _ _ => simp
  | accepted _ _ => cases hl : a.last <;> simp

theorem addAll_cons (calls : List AddCall) :
    j.addAll (a :: calls) =
      (((j.addDocumentStep a).2.addAll calls).1,
        ⟨a, (j.addDocumentStep a).1⟩ :: ((j.addDocumentStep a).2.addAll calls).2) := rfl

theorem addAll_printer {calls : List AddCall} : (j.addAll calls).1.printer = j.printer := by
  induction calls generalizing j with
  | nil => rfl
  | cons a calls ih => rw [addAll_cons, ih, addDocumentStep_printer]

theorem addAll_id {calls : List AddCall} : (j.addAll calls).1.id = j.id := by
  induction calls generalizing j with
  | nil => rfl
  | cons a calls ih => rw [addAll_cons, ih, addDocumentStep_id]

/-- **A job is marked closed exactly when a last document was accepted**, or was so before. -/
theorem addAll_closed {calls : List AddCall} :
    (j.addAll calls).1.closed = true ↔ j.closed = true ∨ ∃ a ∈ (j.addAll calls).2, a.Closes := by
  induction calls generalizing j with
  | nil => simp [addAll]
  | cons a calls ih =>
    rw [addAll_cons, ih, addDocumentStep_closed, List.exists_mem_cons_iff, or_assoc]

end Handle

end IppJob

/-! ## What is sent -/

/-- The request is about the job `id` of the printer `p`. -/
structure NamesJob (p : IppPrinter) (id : JobId) (e : Exchange Post Reply) : Prop where
  printer : e.call.request.operation "printer-uri" =
    some (.uri (requestUri e.call.request.operationOrStatus p.uri))
  job : e.call.request.operation "job-id" = some (.integer id)

/-- The server acknowledged a request that closes the job `id`: its last document, or a
`Close-Job`. -/
structure ClosingAcknowledged (id : JobId) (e : Exchange Post Reply) : Prop where
  job : e.call.request.operation "job-id" = some (.integer id)
  closes : e.call.request.operationOrStatus = closeJob ∨
    e.call.request.operationOrStatus = Operation.sendDocument.code ∧
      e.call.request.operation "last-document" = some (.boolean true)
  acknowledged : ∃ resp, e.reply = .ok resp ∧ IppCrate.isSuccess resp.operationOrStatus = true

variable [LawfulIppCrate]

namespace IppJob

variable {j : IppJob} {a : AddCall}

/-- Every request of a call is about the job of the handle. -/
theorem addDocumentStep_names :
    ∀ e ∈ (j.addDocumentStep a).1.trace, NamesJob j.printer j.id e := by
  have hn : ∀ op, j.documentRequest a = .ok op →
      NamesJob j.printer j.id (j.documentExchange a op) := by
    intro op h
    obtain ⟨hf, hid, -⟩ := LawfulIppCrate.sendDocument_ok h
    have hcode : (j.documentExchange a op).call.request.operationOrStatus =
        Operation.sendDocument.code := hf.code
    refine ⟨?_, hid⟩
    rw [hcode, requestUri_struct (by decide)]
    exact hf.printer
  have h := j.addDocumentStep_outcome a
  generalize j.addDocumentStep a = r at h
  intro e he
  cases h with
  | unbuilt _ => cases he
  | failed h _ =>
    rw [List.mem_singleton.mp he]
    exact hn _ h
  | accepted h _ =>
    rw [List.mem_singleton.mp he]
    exact hn _ h

/-- A last document that was added closes the job at the server. -/
theorem addDocumentStep_acknowledged (hc : Added.Closes ⟨a, (j.addDocumentStep a).1⟩) :
    ∃ e ∈ (j.addDocumentStep a).1.trace, ClosingAcknowledged j.id e := by
  have h := j.addDocumentStep_outcome a
  generalize j.addDocumentStep a = r at h hc
  obtain ⟨hlast, hok⟩ := hc
  cases h with
  | unbuilt _ => cases hok
  | failed _ _ => cases hok
  | @accepted op resp h hr =>
    obtain ⟨hf, hid, hl⟩ := LawfulIppCrate.sendDocument_ok h
    refine ⟨_, List.mem_singleton.mpr rfl, hid, .inr ⟨hf.code, ?_⟩, resp, ?_⟩
    · exact hl.trans (congrArg (fun b => some (IppValue.boolean b)) hlast)
    · exact IppClient.accept_eq_ok.mp hr

theorem addAll_names {calls : List AddCall} :
    ∀ b ∈ (j.addAll calls).2, ∀ e ∈ b.ran.trace, NamesJob j.printer j.id e := by
  induction calls generalizing j with
  | nil =>
    intro b hb
    cases hb
  | cons a calls ih =>
    intro b hb
    rw [addAll_cons] at hb
    rcases List.mem_cons.mp hb with rfl | hb
    · exact addDocumentStep_names
    · have := ih b hb
      rwa [addDocumentStep_printer, addDocumentStep_id] at this

theorem addAll_acknowledged {calls : List AddCall} {b : Added} (hb : b ∈ (j.addAll calls).2)
    (hc : b.Closes) : ∃ e ∈ b.ran.trace, ClosingAcknowledged j.id e := by
  induction calls generalizing j with
  | nil => cases hb
  | cons a calls ih =>
    rw [addAll_cons] at hb
    rcases List.mem_cons.mp hb with rfl | hb
    · exact addDocumentStep_acknowledged hc
    · have := ih hb
      rwa [addDocumentStep_id] at this

/-! ## Closing -/

variable {w : World} {past : List (Exchange Post Reply)} {cell : Cache} {m : IppRequestResponse}

omit [LawfulIppCrate] in
/-- The request depends on the job alone, not on what was added to it. -/
theorem closeRequest_addAll {calls : List AddCall} :
    (j.addAll calls).1.closeRequest = j.closeRequest := by
  unfold closeRequest
  rw [addAll_printer, addAll_id]

/-- `close` overwrites the operation code of a request to act on the job. -/
theorem closeRequest_ok (h : j.closeRequest = .ok m) :
    m.operationOrStatus = closeJob ∧
      m.operation "printer-uri" = some (.uri (requestUri closeJob j.printer.uri)) ∧
      m.operation "job-id" = some (.integer j.id) := by
  obtain ⟨m₀, h₀, hm⟩ := bind_eq_ok.mp h
  cases hm
  obtain ⟨hf, hid⟩ := jobActionRequest_ok h₀
  rw [requestUri_new (by decide)]
  exact ⟨rfl, hf.printer, hid⟩

/-- What `close` can come to: nothing to do, no request, or its one request. -/
inductive CloseOutcome (j : IppJob) (w : World) (past : List (Exchange Post Reply))
    (cell : Cache) : Ran Post Reply Cache Error JobId → Prop
  | closed (h : j.closed = true) : CloseOutcome j w past cell ⟨.ok j.id, [], cell⟩
  | unbuilt {e : Error} (h : j.closed = false) (hm : j.closeRequest = .error e) :
    CloseOutcome j w past cell ⟨.error e, [], cell⟩
  | sent {m : IppRequestResponse} (h : j.closed = false) (hm : j.closeRequest = .ok m) :
    CloseOutcome j w past cell
      ⟨(IppClient.accept "Close-Job" (j.printer.client.exchange w past m).reply).map fun _ => j.id,
        [j.printer.client.exchange w past m], cell⟩

omit [LawfulIppCrate] in
theorem close_outcome (j : IppJob) (w : World) (past : List (Exchange Post Reply))
    (cell : Cache) : CloseOutcome j w past cell (j.close w past cell) := by
  unfold close
  cases hc : j.closed with
  | true =>
    rw [if_pos rfl]
    exact .closed hc
  | false =>
    rw [if_neg (by decide)]
    cases hm : j.closeRequest with
    | error e =>
      rw [Act.ofExcept_error_bind rfl]
      exact .unbuilt hc hm
    | ok m =>
      have hs : (j.printer.client.send m "Close-Job" >>= fun _ => pure j.id) w past cell =
          ⟨(IppClient.accept "Close-Job" (j.printer.client.exchange w past m).reply).map fun _ =>
            j.id, [j.printer.client.exchange w past m], cell⟩ :=
        IppClient.send_map m "Close-Job" fun _ => j.id
      rw [Act.ofExcept_ok_bind rfl, hs]
      exact .sent hc hm

omit [LawfulIppCrate] in
theorem close_unbuilt {e : Error} (h : j.closed = false) (hm : j.closeRequest = .error e) :
    j.close w past cell = ⟨.error e, [], cell⟩ := by
  have ho := j.close_outcome w past cell
  generalize j.close w past cell = r at ho
  cases ho with
  | closed hc => cases h.symm.trans hc
  | unbuilt _ hm' =>
    cases hm.symm.trans hm'
    rfl
  | sent _ hm' => cases hm.symm.trans hm'

/-- Every request of `close` is about the job of the handle. -/
theorem close_names : ∀ e ∈ (j.close w past cell).trace, NamesJob j.printer j.id e := by
  have ho := j.close_outcome w past cell
  generalize j.close w past cell = r at ho
  intro e he
  cases ho with
  | closed _ => cases he
  | unbuilt _ _ => cases he
  | sent _ hm =>
    rw [List.mem_singleton.mp he]
    obtain ⟨hcode, hp, hid⟩ := closeRequest_ok hm
    rw [← hcode] at hp
    exact ⟨hp, hid⟩

/-- `close` sends its request exactly when the job is not closed yet and there is one to send. -/
theorem close_sends_iff :
    (∃ e ∈ (j.close w past cell).trace, e.call.request.operationOrStatus = closeJob) ↔
      j.closed = false ∧ ∃ m, j.closeRequest = .ok m := by
  have ho := j.close_outcome w past cell
  generalize j.close w past cell = r at ho
  cases ho with
  | closed h => simp [h]
  | unbuilt _ hm => simp [hm]
  | sent h hm =>
    simp only [List.mem_singleton, exists_eq_left]
    exact iff_of_true (closeRequest_ok hm).1 ⟨h, _, hm⟩

omit [LawfulIppCrate] in
theorem close_trace_length : (j.close w past cell).trace.length ≤ 1 := by
  have ho := j.close_outcome w past cell
  generalize j.close w past cell = r at ho
  cases ho with
  | closed _ => exact Nat.zero_le 1
  | unbuilt _ _ => exact Nat.zero_le 1
  | sent _ _ => exact Nat.le_refl 1

/-- A `close` that succeeds found the job closed, or had its request acknowledged. -/
theorem close_ok {id : JobId} (h : (j.close w past cell).result = .ok id) :
    id = j.id ∧ (j.closed = true ∨
      ∃ e ∈ (j.close w past cell).trace, ClosingAcknowledged j.id e) := by
  have ho := j.close_outcome w past cell
  generalize j.close w past cell = r at ho h
  cases ho with
  | closed hc =>
    cases h
    exact ⟨rfl, .inl hc⟩
  | unbuilt _ _ => cases h
  | @sent m _ hm =>
    cases hr : IppClient.accept "Close-Job" (j.printer.client.exchange w past m).reply with
    | error e =>
      simp only [hr] at h
      cases h
    | ok resp =>
      simp only [hr] at h
      cases h
      obtain ⟨hcode, -, hid⟩ := closeRequest_ok hm
      exact ⟨rfl, .inr ⟨_, List.mem_singleton.mpr rfl, hid, .inl hcode, resp,
        IppClient.accept_eq_ok.mp hr⟩⟩

theorem cancel_names : ∀ e ∈ (j.cancel w past cell).trace, NamesJob j.printer j.id e := by
  have h : Act.Emits (NamesJob j.printer j.id) j.cancel := by
    refine perform_emits j.printer fun m hm _ => ?_
    obtain ⟨hf, hid⟩ := jobActionRequest_ok hm
    refine ⟨hf.printer.trans ?_, hid⟩
    rw [hf.code, requestUri_new (by decide)]
    rfl
  exact h w past cell

end IppJob

omit [LawfulIppCrate] in
/-- A job that was created is open, and has the id of the reply. -/
theorem createJob_ok {p : IppPrinter} {name : String} {w : World}
    {past : List (Exchange Post Reply)} {cell : Cache} {j : IppJob}
    (h : (p.createJob name w past cell).result = .ok j) :
    j.printer = p ∧ j.closed = false ∧
      ∃ e ∈ (p.createJob name w past cell).trace, ∃ resp, e.reply = .ok resp ∧
        decodeJobId resp = .ok j.id := by
  unfold IppPrinter.createJob at h ⊢
  obtain ⟨m, resp, hm, hr, h⟩ := ask_ok h
  obtain ⟨id, hid, h⟩ := bind_eq_ok.mp h
  cases h
  refine ⟨rfl, rfl, p.client.exchange w past m, ?_, resp, hr, hid⟩
  rw [ask_trace hm]
  exact List.mem_singleton.mpr rfl

/-- **A job is closed when it is needed.** A job that `create_job` opened, after any calls of
`add_document` on it, however each came out:

* its requests, those of `close` and of `cancel` included, name the printer and the id of the
  reply that created it;
* a call that fails leaves the handle as it was;
* `close` sends a `Close-Job` exactly when no last document was added and the request can be built,
  and sends one at most; where it cannot be built, `close` fails with that and sends nothing;
* `close` succeeds with the id only after the server acknowledged a request that closes the job. -/
theorem job_closes_when_needed {p : IppPrinter} {name : String} {w₀ : World}
    {past₀ : List (Exchange Post Reply)} {cell₀ : Cache} {j : IppJob}
    (hj : (p.createJob name w₀ past₀ cell₀).result = .ok j) (calls : List AddCall) (w : World)
    (past : List (Exchange Post Reply)) (cell : Cache) :
    (∃ e ∈ (p.createJob name w₀ past₀ cell₀).trace, ∃ resp, e.reply = .ok resp ∧
      decodeJobId resp = .ok j.id) ∧
    (∀ a ∈ (j.addAll calls).2, ∀ e ∈ a.ran.trace, NamesJob p j.id e) ∧
    (∀ e ∈ ((j.addAll calls).1.close w past cell).trace, NamesJob p j.id e) ∧
    (∀ e ∈ ((j.addAll calls).1.cancel w past cell).trace, NamesJob p j.id e) ∧
    (∀ a error, ((j.addAll calls).1.addDocumentStep a).1.result = .error error →
      ((j.addAll calls).1.addDocumentStep a).2 = (j.addAll calls).1) ∧
    ((∃ e ∈ ((j.addAll calls).1.close w past cell).trace,
        e.call.request.operationOrStatus = closeJob) ↔
      (¬∃ a ∈ (j.addAll calls).2, a.Closes) ∧ ∃ m, j.closeRequest = .ok m) ∧
    ((j.addAll calls).1.close w past cell).trace.length ≤ 1 ∧
    (∀ error, (¬∃ a ∈ (j.addAll calls).2, a.Closes) → j.closeRequest = .error error →
      (j.addAll calls).1.close w past cell = ⟨.error error, [], cell⟩) ∧
    (∀ id, ((j.addAll calls).1.close w past cell).result = .ok id →
      id = j.id ∧ ∃ e, ((∃ a ∈ (j.addAll calls).2, e ∈ a.ran.trace) ∨
        e ∈ ((j.addAll calls).1.close w past cell).trace) ∧ ClosingAcknowledged j.id e) := by
  obtain ⟨hp, hopen, hcreated⟩ := createJob_ok hj
  have hclosed : (j.addAll calls).1.closed = false ↔ ¬∃ a ∈ (j.addAll calls).2, a.Closes := by
    rw [← Bool.not_eq_true, IppJob.addAll_closed, hopen]
    simp
  have hid : (j.addAll calls).1.id = j.id := IppJob.addAll_id
  have hprinter : (j.addAll calls).1.printer = p := IppJob.addAll_printer.trans hp
  refine ⟨hcreated, ?_, ?_, ?_, fun _ _ => IppJob.addDocumentStep_error, ?_,
    IppJob.close_trace_length, ?_, ?_⟩
  · rw [← hp]
    exact IppJob.addAll_names
  · have hnames : ∀ e ∈ ((j.addAll calls).1.close w past cell).trace,
        NamesJob (j.addAll calls).1.printer (j.addAll calls).1.id e := IppJob.close_names
    rwa [hid, hprinter] at hnames
  · have hnames : ∀ e ∈ ((j.addAll calls).1.cancel w past cell).trace,
        NamesJob (j.addAll calls).1.printer (j.addAll calls).1.id e := IppJob.cancel_names
    rwa [hid, hprinter] at hnames
  · rw [IppJob.close_sends_iff, hclosed, IppJob.closeRequest_addAll]
  · intro error hnone herr
    exact IppJob.close_unbuilt (hclosed.mpr hnone) (IppJob.closeRequest_addAll.trans herr)
  · intro id hok
    obtain ⟨rfl, h⟩ := IppJob.close_ok hok
    refine ⟨hid, ?_⟩
    rw [hid] at h
    rcases h with h | ⟨e, he, hack⟩
    · -- The job was found closed: the last document was acknowledged.
      rw [IppJob.addAll_closed, hopen] at h
      obtain ⟨a, ha, hc⟩ := h.resolve_left (by simp)
      obtain ⟨e, he, hack⟩ := IppJob.addAll_acknowledged ha hc
      exact ⟨e, .inl ⟨a, ha, he⟩, hack⟩
    · exact ⟨e, .inr he, hack⟩

end

/-! ## A job of two documents, and one of a user with a long name -/

section Reference

attribute [local instance] Reference.crate

/-- The handle of the queue `HP`, through the client `c`. -/
def queueOf (c : IppClient) : IppPrinter := ⟨c, queueUri⟩

/-- The job 42 of that queue, as it was opened. -/
def openedJob (c : IppClient) : IppJob := ⟨queueOf c, 42, false⟩

/-- Adds an empty document, and the server accepts it. -/
def addEmpty (last : Bool) : AddCall := ⟨[], none, last, creates42, [], none⟩

/-- The job after a document and a last one. -/
def filledJob : IppJob × List Added :=
  (openedJob localClient).addAll [addEmpty false, addEmpty true]

theorem job_closes_when_needed_filledJob :
    (∃ e ∈ (filledJob.1.close creates42 [] none).trace,
        e.call.request.operationOrStatus = closeJob) ↔
      (¬∃ a ∈ filledJob.2, a.Closes) ∧ ∃ m, (openedJob localClient).closeRequest = .ok m := by
  have := Reference.lawful
  have hj : ((queueOf localClient).createJob "report" creates42 [] none).result =
      .ok (openedJob localClient) := rfl
  obtain ⟨-, -, -, -, -, h, -, -, -⟩ :=
    job_closes_when_needed hj [addEmpty false, addEmpty true] creates42 [] none
  exact h

/-- The client of a user whose name of 256 bytes fits into no request. -/
def longUserClient : IppClient := { localClient with user := .ofList (.replicate 256 'a') }

theorem longUser_unfit : IppCrate.fits .name longUserClient.user = false := by
  have h : Reference.byteLength longUserClient.user = 256 := Reference.byteLength_replicate 256
  show Reference.fits .name longUserClient.user = false
  simp [Reference.fits, h, StringKind.maxBytes]

/-- The job of that user is opened, and cannot be closed: no `Close-Job` is sent. -/
theorem longUser_job_stays_open :
    ¬ ∀ (p : IppPrinter) (name : String) (w₀ : World) (past₀ : List (Exchange Post Reply))
      (cell₀ : Cache) (j : IppJob) (calls : List AddCall) (w : World)
      (past : List (Exchange Post Reply)) (cell : Cache),
      (p.createJob name w₀ past₀ cell₀).result = .ok j →
      ((∃ e ∈ ((j.addAll calls).1.close w past cell).trace,
          e.call.request.operationOrStatus = closeJob) ↔
        ¬∃ a ∈ (j.addAll calls).2, a.Closes) := by
  intro h
  have hj : ((queueOf longUserClient).createJob "report" creates42 [] none).result =
      .ok (openedJob longUserClient) := rfl
  have hm : (openedJob longUserClient).closeRequest =
      .error (.decode "requesting-user-name" "name too long") := by
    have hb : bounded .name .nameWithoutLanguage longUserClient.user "requesting-user-name"
        "name too long" = .error (.decode "requesting-user-name" "name too long") :=
      if_neg (by rw [longUser_unfit]; decide)
    unfold IppJob.closeRequest IppClient.jobActionRequest
    simp only [openedJob, queueOf, hb]
    rfl
  have hnone : ¬∃ a ∈ ((openedJob longUserClient).addAll []).2, a.Closes := by
    rintro ⟨a, ha, -⟩
    cases ha
  obtain ⟨e, he, -⟩ := (h _ _ _ _ _ _ [] creates42 [] none hj).mpr hnone
  have hclose : ((openedJob longUserClient).addAll []).1.close creates42 [] none = _ :=
    IppJob.close_unbuilt rfl hm
  rw [hclose] at he
  cases he

end Reference

end Ipp
