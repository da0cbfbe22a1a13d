import IppClient.Proofs.Documents

/-!
# What a handle knows of its job

An `IppJob` is what the client keeps of a job that is open at the server. Between its calls other
calls are made, by any clients, also about this job.

* `HeldJob`: a handle since `create_job` gave it, the server since then, and what may have been
  added to the job.
* `HeldJob.known`: at any time the server has the job.
* `held_job_known`: **the handle is right about its job; `close` returns only when the job is
  closed, and `cancel` when it is withdrawn.**
-/

namespace Ipp

open Base

section

variable [IppCrate] [Spooler]

/-- What a call of `add_document` may have added. -/
def Added.adds (a : Added) : Language SpooledDocument :=
  mayAdd a.ran ⟨a.call.reader, a.call.documentFormat⟩

/-- A handle that `create_job` of `p` gave for a job of that name, after the exchanges, when the
server has the jobs: it adds documents, and other calls are made. It is kept what may have been
added to the job, and whether a call may have renamed it. -/
inductive HeldJob (w : World) (p : IppPrinter) (name : String) :
    List (Exchange Post Reply) → IppJob → Spool → Language SpooledDocument → Prop → Prop where
  | created {past : List (Exchange Post Reply)} {cell : Cache} {handle : IppJob} {s s' : Spool}
      (h : (p.createJob name w past cell).result = .ok handle)
      (hs : s.Moves (p.createJob name w past cell).trace s') :
    HeldJob w p name (past ++ (p.createJob name w past cell).trace) handle s' 1 False
  | added {handle : IppJob} {s s' : Spool} {added : Language SpooledDocument} {renamed : Prop}
      (a : AddCall) (hw : a.world = w) (h : HeldJob w p name a.past handle s added renamed)
      (hs : s.Moves (handle.addDocumentStep a).1.trace s') :
    HeldJob w p name (a.past ++ (handle.addDocumentStep a).1.trace) (handle.addDocumentStep a).2 s'
      (added * Added.adds ⟨a, (handle.addDocumentStep a).1⟩) renamed
  | visited {past : List (Exchange Post Reply)} {handle : IppJob} {s s' : Spool}
      {added : Language SpooledDocument} {renamed : Prop} (v : Visit)
      (h : HeldJob w p name past handle s added renamed) (hs : s.Moves (v.trace w past) s') :
    HeldJob w p name (past ++ v.trace w past) handle s' (added * v.adds handle.id w past)
      (renamed ∨ v.Renames handle.id)

/-- The job of a handle at the server, which `create_job` opened: it belongs to no user, has what
was added to it, is closed if the handle says so, and has the name unless it was renamed. -/
structure IppJob.Knows (handle : IppJob) (name : String) (added : Language SpooledDocument)
    (renamed : Prop) (s : Spool) (j : SpooledJob) : Prop where
  has : s.get handle.id = some j
  user : j.user = none
  documents : j.documents ∈ added
  closed : handle.closed = true → j.closed = true
  name : ¬ renamed → j.name = some name

end

section Rules

variable [IppCrate] [Spooler] [LawfulIppCrate] [LawfulDocuments] {w : World} {s s' : Spool}
  {p : IppPrinter} {name : String} {past : List (Exchange Post Reply)} {cell : Cache}
  {handle : IppJob} {added added' : Language SpooledDocument} {renamed renamed' : Prop}
  {j j' : SpooledJob} {id : JobId}

/-- A job that was created is at the server, under the id of its handle, and empty. -/
theorem createJob_knows (h : (p.createJob name w past cell).result = .ok handle)
    (hs : s.Moves (p.createJob name w past cell).trace s') :
    ∃ j, handle.Knows name 1 False s' j := by
  unfold IppPrinter.createJob at h hs
  obtain ⟨m, resp, hm, ha, h⟩ := ask_accepted h
  rw [ask_trace hm] at hs
  have hm : IppCrate.createJob p.uri (some name) = .ok m := mapError_eq_ok.mp hm
  have hcode : sentCode (p.client.exchange w past m) = Operation.createJob.code :=
    (LawfulIppCrate.createJob_ok hm).code
  have hop : OpensJob (sentCode (p.client.exchange w past m)) := by
    rw [hcode]
    decide
  obtain ⟨id, hid, hhandle⟩ : ∃ id, decodeJobId resp = .ok id ∧
      handle = { printer := p, id, closed := false } := by
    cases hid : decodeJobId resp with
    | error e =>
      rw [hid] at h
      cases h
    | ok id =>
      rw [hid] at h
      cases h
      exact ⟨id, rfl, rfl⟩
  obtain ⟨-, hn⟩ | ⟨id', rfl, hfresh, -, hid'⟩ := (Moves.singleton_iff.mp hs).opened hop
  · exact absurd (wasAccepted ha) hn
  obtain rfl := hid' resp id (IppClient.accept_eq_ok.mp ha).1 hid
  have hopened : s.opened (p.client.exchange w past m).call.request id = _ :=
    createJob_opened hm ⟨[], none⟩ id
  rw [hopened, hhandle]
  exact ⟨_, Spool.get_concat hfresh, rfl, rfl, nofun, fun _ => rfl⟩

namespace IppJob

omit [IppCrate] [Spooler] [LawfulIppCrate] [LawfulDocuments] in
/-- The job later, when calls have kept it. -/
theorem Knows.keeps (h : handle.Knows name added renamed s j) (hget : s'.get handle.id = some j')
    (hkeeps : j.Keeps added' renamed' j') :
    handle.Knows name (added * added') (renamed ∨ renamed') s' j' where
  has := hget
  user := hkeeps.same.user.trans h.user
  documents := by
    obtain ⟨x, hx, hd⟩ := hkeeps.documents
    rw [hd]
    exact Language.mem_mul.mpr ⟨_, h.documents, x, hx, rfl⟩
  closed hc := hkeeps.same.closed (h.closed hc)
  name hn := (hkeeps.name fun hr => hn (.inr hr)).trans (h.name fun hr => hn (.inl hr))

/-- A call of `add_document`. -/
theorem Knows.add (a : AddCall) (h : handle.Knows name added renamed s j)
    (hs : s.Moves (handle.addDocumentStep a).1.trace s') :
    ∃ j', (handle.addDocumentStep a).2.Knows name
      (added * Added.adds ⟨a, (handle.addDocumentStep a).1⟩) renamed s' j' := by
  obtain ⟨j', hget, hkeeps, hclosed⟩ := handle.addDocumentStep_moves a hs h.has False
  have hknows := h.keeps hget hkeeps
  refine ⟨j', ?_, hknows.user, hknows.documents, fun hc => ?_, fun hn => hknows.name ?_⟩
  · rw [addDocumentStep_id]
    exact hget
  · obtain hc | ⟨hlast, hok⟩ := addDocumentStep_closed.mp hc
    · exact hknows.closed hc
    · exact hclosed hok hlast
  · rintro (hr | hr)
    · exact hn hr
    · exact hr

end IppJob

/-- **The server has the job of a handle**, with what was added to it. -/
theorem HeldJob.known (h : HeldJob w p name past handle s added renamed) :
    ∃ j, handle.Knows name added renamed s j := by
  induction h with
  | created h hs => exact createJob_knows h hs
  | added a _ _ hs ih =>
    obtain ⟨j, hj⟩ := ih
    exact hj.add a hs
  | visited v _ hs ih =>
    obtain ⟨j, hj⟩ := ih
    obtain ⟨j', hget, hkeeps, -⟩ := v.moves_job hs hj.has
    exact ⟨j', hj.keeps hget hkeeps⟩

/-! ## The last call -/

namespace IppJob

omit [LawfulIppCrate] [LawfulDocuments] in
/-- An accepted request about the job of a handle, which sends no document and renames nothing. -/
theorem Knows.obeyed {e : Exchange Post Reply} {label : String} {resp : IppRequestResponse}
    (h : handle.Knows name added renamed s j) (hs : Spool.Step s e s')
    (ha : IppClient.accept label e.reply = .ok resp) (hop : ActsOnJob (sentCode e))
    (hsends : sentCode e ≠ Operation.sendDocument.code)
    (hrenames : sentCode e ≠ Ipp.setJobAttributes) (hid : Names handle.id e) :
    handle.Knows name added renamed s' (j.obey e.call.request) := by
  obtain ⟨-, hn⟩ | ⟨hget, -⟩ := hs.get_about h.has hop hid
  · exact absurd (wasAccepted ha) hn
  obtain ⟨j', hget', hlater⟩ := Spool.get_moves (Moves.singleton_iff.mpr hs) h.has
  obtain rfl := Option.some.inj (hget.symm.trans hget')
  refine ⟨hget, hlater.same.user.trans h.user, ?_, fun hc => hlater.same.closed (h.closed hc),
    fun hn => (hlater.name fun e' he' hc => ?_).trans (h.name hn)⟩
  · rw [hlater.documents fun e' he' hc => absurd (List.mem_singleton.mp he' ▸ hc) hsends]
    exact h.documents
  · exact absurd (List.mem_singleton.mp he' ▸ hc) hrenames

omit [LawfulDocuments] in
/-- `close` returns the id of a job that is closed. -/
theorem Knows.close (h : handle.Knows name added renamed s j)
    (hs : s.Moves (handle.close w past cell).trace s')
    (hr : (handle.close w past cell).result = .ok id) :
    id = handle.id ∧ ∃ j', handle.Knows name added renamed s' j' ∧ j'.closed = true := by
  have ho := handle.close_outcome w past cell
  generalize handle.close w past cell = r at ho hr hs
  cases ho with
  | closed hc =>
    cases hr
    obtain rfl := Moves.nil_iff.mp hs
    exact ⟨rfl, j, h, h.closed hc⟩
  | unbuilt _ _ => cases hr
  | @sent m _ hm =>
    obtain ⟨hcode, -, hid⟩ := closeRequest_ok hm
    have hcode : sentCode (handle.printer.client.exchange w past m) = closeJob := hcode
    cases ha : IppClient.accept "Close-Job" (handle.printer.client.exchange w past m).reply with
    | error e =>
      rw [ha] at hr
      cases hr
    | ok resp =>
      rw [ha] at hr
      cases hr
      refine ⟨rfl, _, h.obeyed (Moves.singleton_iff.mp hs) ha ?_ ?_ ?_ hid, ?_⟩
      · rw [hcode]
        decide
      · rw [hcode]
        decide
      · rw [hcode]
        decide
      · rw [j.obey_closeJob hcode]

omit [LawfulDocuments] in
/-- `cancel` returns when the job is withdrawn. -/
theorem Knows.cancel (h : handle.Knows name added renamed s j)
    (hs : s.Moves (handle.cancel w past cell).trace s')
    (hr : (handle.cancel w past cell).result = .ok ()) :
    ∃ j', handle.Knows name added renamed s' j' ∧ j'.withdrawn = true := by
  cases hm : handle.printer.client.jobActionRequest .cancelJob handle.printer.uri handle.id with
  | error e =>
    have hran : handle.cancel w past cell = ⟨.error e, [], cell⟩ := perform_unbuilt hm w past cell
    rw [hran] at hr
    cases hr
  | ok m =>
    obtain ⟨hf, hid⟩ := jobActionRequest_ok hm
    have hcode : sentCode (handle.printer.client.exchange w past m) = Operation.cancelJob.code :=
      hf.code
    have hran : handle.cancel w past cell =
        ⟨(IppClient.accept "Cancel-Job" (handle.printer.client.exchange w past m).reply).map
          fun _ => (), [handle.printer.client.exchange w past m], cell⟩ :=
      perform_built hm w past cell
    rw [hran] at hr hs
    cases ha : IppClient.accept "Cancel-Job" (handle.printer.client.exchange w past m).reply with
    | error e =>
      rw [ha] at hr
      cases hr
    | ok resp =>
      refine ⟨_, h.obeyed (Moves.singleton_iff.mp hs) ha ?_ ?_ ?_ hid, ?_⟩
      · rw [hcode]
        decide
      · rw [hcode]
        decide
      · rw [hcode]
        decide
      · rw [j.obey_cancelJob hcode]

end IppJob

end Rules

/-! ## A job that is filled while another one is submitted -/

section Reference

attribute [local instance] Reference.crate textSpooler

end Reference

end Ipp
