import IppClient.Proofs.JobHandle
import IppClient.Proofs.PrintStream

/-!
# The streaming submission and the job handle

`print_stream` does in one call what the job handle does in three: `create_job`, `add_document`
with the last document, `close`, and `cancel` if the document is refused. `submitOne` is that use
of the handle.

* `printStream_eq`, `submitOne_eq`: both create the job first, in the same way.
* `fill_built`, `finish_built`: and then fill it alike, if the `Send-Document` can be built.
* `printStream_agrees_iff`: **both do the same, request for request, exactly when the
  `Send-Document` of the job that was created can be built, or else its `Cancel-Job` cannot.**
-/

namespace Ipp

open Base

section Rules

variable [IppCrate]

/-- The last document is added and the job closed, or the job is cancelled. -/
def IppJob.finish (j : IppJob) (reader : Payload) (format : Option String) : Net JobId := do
  match ← (j.addDocument reader format true).attempt with
  | .ok j => j.close
  | .error e =>
    let _ ← j.cancel.attempt
    Act.fail e

namespace IppPrinter

section Create

variable (p : IppPrinter) (reader : Payload) (format : Option String) (name : String)

/-- A job of one document, by the job handle. -/
def submitOne : Net JobId := do
  let j ← p.createJob name
  j.finish reader format

/-- The first step of both: the job is created. -/
def createdJob : Net JobId :=
  p.ask (transport (IppCrate.createJob p.uri (some name))) "Create-Job" decodeJobId

theorem printStream_eq :
    p.printStream reader format name =
      p.createdJob name >>= p.client.fill p.uri reader format := by
  unfold createdJob ask
  simp only [Act.bind_bind]
  rfl

theorem createJob_eq : p.createJob name = p.createdJob name >>= fun id => pure ⟨p, id, false⟩ := by
  unfold createdJob createJob ask
  simp only [Act.bind_bind, Act.ofExcept_bind]
  rfl

theorem submitOne_eq :
    p.submitOne reader format name =
      p.createdJob name >>= fun id => IppJob.finish ⟨p, id, false⟩ reader format := by
  unfold submitOne
  rw [createJob_eq]
  simp only [bind_assoc, pure_bind]

end Create

/-! ## The job, once it exists -/

section Fill

variable {p : IppPrinter} {reader : Payload} {format : Option String} {id : JobId}
  {m : IppRequestResponse} {w : World} {past : List (Exchange Post Reply)} {cell : Cache}

theorem addDocument_unbuilt {e : ForeignError}
    (h : p.client.documentRequest p.uri reader format id = .error e) :
    IppJob.addDocument ⟨p, id, false⟩ reader format true w past cell =
      ⟨.error (.ofTransport e), [], cell⟩ := by
  unfold IppClient.documentRequest at h
  unfold IppJob.addDocument
  rw [Act.ofExcept_error_bind (transport_error h)]
  rfl

theorem addDocument_built (h : p.client.documentRequest p.uri reader format id = .ok m) :
    IppJob.addDocument ⟨p, id, false⟩ reader format true w past cell =
      ⟨(IppClient.accept "Send-Document" (p.client.exchange w past m).reply).map fun _ =>
          ⟨p, id, true⟩,
        [p.client.exchange w past m], cell⟩ := by
  unfold IppClient.documentRequest at h
  unfold IppJob.addDocument
  rw [Act.ofExcept_ok_bind (transport_ok h)]
  exact IppClient.send_map (c := p.client) m "Send-Document" fun _ => (⟨p, id, true⟩ : IppJob)

/-- A document that was not accepted: the job is cancelled, and the failure returned. -/
theorem finish_error {e : Error} {t : List (Exchange Post Reply)}
    (h : IppJob.addDocument ⟨p, id, false⟩ reader format true w past cell = ⟨.error e, t, cell⟩) :
    IppJob.finish ⟨p, id, false⟩ reader format w past cell =
      ⟨.error e, t ++ (p.cancelJob id w (past ++ t) cell).trace,
        (p.cancelJob id w (past ++ t) cell).cell⟩ := by
  have ha := Act.attempt_apply w past cell (IppJob.addDocument ⟨p, id, false⟩ reader format true)
  rw [h] at ha
  unfold IppJob.finish
  rw [Act.bind_ok w past cell ha]
  have hc := Act.attempt_apply w (past ++ t) cell (IppJob.cancel ⟨p, id, false⟩)
  simp only [Act.bind_ok w _ cell hc, Act.fail_apply, List.append_nil]
  rfl

/-- Of a document that can be built, both do the same. -/
theorem finish_built (h : p.client.documentRequest p.uri reader format id = .ok m) :
    IppJob.finish ⟨p, id, false⟩ reader format w past cell =
      p.client.fill p.uri reader format id w past cell := by
  have hadd : IppJob.addDocument ⟨p, id, false⟩ reader format true w past cell = _ :=
    addDocument_built h
  cases hr : IppClient.accept "Send-Document" (p.client.exchange w past m).reply with
  | ok resp =>
    rw [IppClient.fill_accepted h hr]
    rw [hr] at hadd
    have ha := Act.attempt_apply w past cell (IppJob.addDocument ⟨p, id, false⟩ reader format true)
    rw [hadd] at ha
    unfold IppJob.finish
    rw [Act.bind_ok w past cell ha]
    rfl
  | error e =>
    rw [IppClient.fill_refused h hr]
    rw [hr] at hadd
    exact finish_error hadd

/-- Of one that cannot, they do the same only if the job cannot be cancelled either. -/
theorem finish_unbuilt_iff {e : ForeignError}
    (h : p.client.documentRequest p.uri reader format id = .error e) :
    p.client.fill p.uri reader format id w past cell =
        IppJob.finish ⟨p, id, false⟩ reader format w past cell ↔
      ∃ e', p.client.jobActionRequest .cancelJob p.uri id = .error e' := by
  rw [IppClient.fill_unbuilt h, finish_error (addDocument_unbuilt h), List.append_nil]
  have hcancel : p.cancelJob id = p.client.jobActionAt .cancelJob "Cancel-Job" p.uri id := rfl
  rw [hcancel]
  cases hk : p.client.jobActionRequest .cancelJob p.uri id with
  | error e' =>
    rw [IppClient.jobActionAt_unbuilt hk]
    exact iff_of_true rfl ⟨e', rfl⟩
  | ok m =>
    obtain ⟨r, hrun⟩ : ∃ r, p.client.jobActionAt .cancelJob "Cancel-Job" p.uri id w past cell =
        ⟨r, [p.client.exchange w past m], cell⟩ := IppClient.jobActionAt_built hk
    rw [hrun]
    refine iff_of_false (fun heq => ?_) nofun
    have ht := congrArg Ran.trace heq
    exact List.cons_ne_nil _ _ ht.symm

theorem fill_agrees_iff :
    p.client.fill p.uri reader format id w past cell =
        IppJob.finish ⟨p, id, false⟩ reader format w past cell ↔
      (∃ m, p.client.documentRequest p.uri reader format id = .ok m) ∨
        ∃ e, p.client.jobActionRequest .cancelJob p.uri id = .error e := by
  cases hd : p.client.documentRequest p.uri reader format id with
  | ok m => exact iff_of_true (finish_built hd).symm (.inl ⟨m, rfl⟩)
  | error e =>
    rw [finish_unbuilt_iff hd]
    exact ⟨.inr, fun h => h.resolve_left nofun⟩

end Fill

/-! ## Both -/

/-- **One document, two ways.** `print_stream` and the job handle make the same requests and come
to the same result, whatever the server answers, exactly when the job that was created, if one
was, has a `Send-Document` that can be built or a `Cancel-Job` that cannot. -/
theorem printStream_agrees_iff (p : IppPrinter) (reader : Payload) (format : Option String)
    (name : String) (w : World) (past : List (Exchange Post Reply)) (cell : Cache) :
    p.printStream reader format name w past cell = p.submitOne reader format name w past cell ↔
      ∀ j, (p.createJob name w past cell).result = .ok j →
        (∃ m, p.client.documentRequest p.uri reader format j.id = .ok m) ∨
          ∃ e, p.client.jobActionRequest .cancelJob p.uri j.id = .error e := by
  rw [printStream_eq, submitOne_eq, Act.bind_agree_iff, createJob_eq, Act.bind_pure_result]
  constructor
  · intro h j hj
    obtain ⟨id, hid, rfl⟩ : ∃ id, (p.createdJob name w past cell).result = .ok id ∧
        (⟨p, id, false⟩ : IppJob) = j := by
      cases hr : (p.createdJob name w past cell).result with
      | error e =>
        rw [hr] at hj
        cases hj
      | ok id =>
        rw [hr] at hj
        cases hj
        exact ⟨id, rfl, rfl⟩
    exact fill_agrees_iff.mp (h id hid)
  · intro h id hid
    refine fill_agrees_iff.mpr (h ⟨p, id, false⟩ ?_)
    rw [hid]
    rfl

end IppPrinter

end Rules

end Ipp
