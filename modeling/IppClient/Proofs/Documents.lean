import IppClient.Proofs.SpoolSubmission
import Mathlib.Computability.Language

/-!
# What becomes of the documents of a job

The spool of `IppClient.Proofs.Spool`, over any calls of any clients, one after another. What was
added to a job is a set of lists of documents: a document whose reply was lost may be there or not.

* `Visit.adds`, `addedTo`: what calls may add to a job.
* `addDocumentStep_moves`, `Visit.moves_job`: what a call does to it.
* `documents_stand`: **whatever other calls do, a job has the documents that it had, and after them
  those that were added to it, in order**; calls that are about other jobs leave all of it as it is.
-/

namespace Ipp

open Base

/-! ## What is kept of a job -/

/-- The job `j` later, with a list of documents after its own: it has its id and its user, is closed
if it was, and has its name unless it was renamed. -/
structure SpooledJob.Keeps (j : SpooledJob) (added : Language SpooledDocument) (renamed : Prop)
    (j' : SpooledJob) : Prop where
  same : j.Same j'
  documents : ∃ x ∈ added, j'.documents = j.documents ++ x
  name : ¬ renamed → j'.name = j.name

namespace SpooledJob.Keeps

variable {j j₁ j₂ : SpooledJob} {added added₁ : Language SpooledDocument} {renamed renamed₁ : Prop}

theorem refl (j : SpooledJob) (renamed : Prop) : j.Keeps 1 renamed j :=
  ⟨.refl j, ⟨[], rfl, (List.append_nil _).symm⟩, fun _ => rfl⟩

theorem trans (h : j.Keeps added renamed j₁) (h₁ : j₁.Keeps added₁ renamed₁ j₂) :
    j.Keeps (added * added₁) (renamed ∨ renamed₁) j₂ where
  same := h.same.trans h₁.same
  documents := by
    obtain ⟨x, hx, hd⟩ := h.documents
    obtain ⟨x₁, hx₁, hd₁⟩ := h₁.documents
    refine ⟨x ++ x₁, Language.mem_mul.mpr ⟨x, hx, x₁, hx₁, rfl⟩, ?_⟩
    rw [hd₁, hd, List.append_assoc]
  name hn := (h₁.name fun hr => hn (.inr hr)).trans (h.name fun hr => hn (.inl hr))

/-- The list may be one of more. -/
theorem adds (h : j.Keeps added renamed j₁) (hadds : ∀ x ∈ added, x ∈ added₁) :
    j.Keeps added₁ renamed j₁ := by
  obtain ⟨x, hx, hd⟩ := h.documents
  exact ⟨h.same, ⟨x, hadds x hx, hd⟩, h.name⟩

end SpooledJob.Keeps

section Added

variable [IppCrate]

/-- What a call that sends the document may have added to its job: the document, if there is a
request that the server did not refuse; nothing, if the call fails. -/
def mayAdd {α : Type} (r : Ran Post Reply Cache Error α) (document : SpooledDocument) :
    Language SpooledDocument :=
  {x | x = [document] ∧ (∃ e ∈ r.trace, ¬ WasRefused e) ∨ x = [] ∧ ∃ e, r.result = .error e}

variable (id : JobId) (w : World)

/-- What a visit may have added to the job. -/
def Visit.adds (v : Visit) (past : List (Exchange Post Reply)) : Language SpooledDocument :=
  match v.call with
  | .job _ id' _ (.addDocument reader format _) =>
    if id' = id then mayAdd (v.ran w past) ⟨reader, format⟩ else 1
  | _ => 1

omit [IppCrate] in
/-- The visit asks for another name, or for other attributes, of the job. -/
def Visit.Renames (v : Visit) : Prop :=
  ∃ uri attributes, v.call = .printer uri (.setJobAttributes id attributes)

/-- The call is not about `j`, and about no queue that `j` is on, all of whose jobs it withdraws. -/
def Visit.Spares [Spooler] (v : Visit) (j : SpooledJob) : Prop :=
  v.call.job? ≠ some j.id ∧
    ∀ h ∈ v.call.plan v.client, h.code ∈ sweepOperations →
      (h.printer.bind Attrs.asText).map Spooler.queue ≠ j.printer

end Added

/-! ## All calls -/

section Calls

variable {call : Call}

/-- Documents are sent by streaming submissions and by job handles only. -/
theorem codes_noDocument (hs : ¬ call.Submits)
    (ha : ∀ uri id closed reader format last,
      call ≠ .job uri id closed (.addDocument reader format last)) :
    ∀ code ∈ call.codes, code ≠ Operation.sendDocument.code := by
  refine Call.forall_codes (fun call => ¬ call.Submits ∧ ∀ uri id closed reader format last,
    call ≠ .job uri id closed (.addDocument reader format last)) (fun m h => ?_) (fun uri m h => ?_)
    (fun uri id closed m h => ?_) ⟨hs, ha⟩
  · cases m <;> first | rfl | exact absurd trivial h.1
  · cases m <;> first | rfl | exact absurd trivial h.1
  · cases m <;> first | rfl | exact absurd rfl (h.2 _ _ _ _ _ _)

/-- A job is renamed by `set_job_attributes` only. -/
theorem codes_noRename (h : ∀ uri id attributes,
      call ≠ .printer uri (.setJobAttributes id attributes)) :
    ∀ code ∈ call.codes, code ≠ Ipp.setJobAttributes := by
  refine Call.forall_codes (fun call => ∀ uri id attributes,
    call ≠ .printer uri (.setJobAttributes id attributes)) (fun m h => ?_) (fun uri m h => ?_)
    (fun uri id closed m h => ?_) h
  · cases m <;> rfl
  · cases m <;> first | rfl | exact absurd rfl (h _ _ _)
  · cases m <;> rfl

variable [IppCrate] {w : World} {past : List (Exchange Post Reply)} {j : SpooledJob} {v : Visit}

/-- A streaming submission of a call. -/
theorem Call.submits_trace (h : call.Submits) (c : IppClient) (w : World)
    (past : List (Exchange Post Reply)) (cell : Cache) :
    ∃ sub : Submission, (call.run c w past cell).trace = (sub.run c w past cell).trace := by
  cases call with
  | client method =>
    cases method with
    | printStream queue reader format name =>
      exact ⟨.stream queue reader format name, Act.void_trace w past cell _⟩
    | printFile queue path => exact ⟨.file queue path, Act.void_trace w past cell _⟩
    | _ => exact absurd h id
  | printer uri method =>
    cases method with
    | printStream reader format name =>
      exact ⟨.handleStream uri reader format name, Act.void_trace w past cell _⟩
    | printFile path => exact ⟨.handleFile uri path, Act.void_trace w past cell _⟩
    | _ => exact absurd h id
  | job _ _ _ _ => exact absurd h id

variable [LawfulIppCrate]

/-- A request of a call that is no submission, if it is about a job, is about that of the call. -/
theorem Visit.job_of_isAbout (hs : ¬ v.call.Submits) {e : Exchange Post Reply}
    (he : e ∈ v.trace w past) (habout : e.call.request.IsAbout j) : v.call.job? = some j.id := by
  cases hj : v.call.job? with
  | none => exact absurd habout.1 (codes_noJob hj hs _ (v.call.sentCode_mem he))
  | some id =>
    have hnames : Names id e := v.call.run_names hj w past v.cell e he
    have hid : e.call.request.operationInt "job-id" = some id := by
      rw [IppRequestResponse.operationInt, hnames]
      rfl
    exact hid.symm.trans habout.2

/-- The requests of a call that spares a job, and is no submission, are not about it. -/
theorem Visit.spared [Spooler] (hs : ¬ v.call.Submits) (h : v.Spares j) :
    ∀ e ∈ v.trace w past, ¬ e.call.request.Sweeps j ∧ ¬ e.call.request.IsAbout j := by
  refine fun e he => ⟨fun hsweep => ?_, fun habout => h.1 (Visit.job_of_isAbout hs he habout)⟩
  have hplan : sentHeading e ∈ v.call.plan v.client :=
    ((v.call.run_follows v.client).calls w past v.cell).subset (List.mem_map_of_mem he)
  exact h.2 _ hplan hsweep.1 hsweep.2.1

end Calls

section Rules

variable [IppCrate] [Spooler] [LawfulIppCrate] [LawfulDocuments] {w : World} {s s' : Spool}
  {past : List (Exchange Post Reply)} {id : JobId} {j j' : SpooledJob} {v : Visit}

/-- A `Send-Document` of a handle, when it is carried out. -/
theorem IppJob.documentExchange_keeps {handle : IppJob} {a : AddCall} {m : IppRequestResponse}
    (hm : handle.documentRequest a = .ok m) (renamed : Prop) :
    j.Keeps {[⟨a.reader, a.documentFormat⟩]} renamed
        (j.obey (handle.documentExchange a m).call.request) ∧
      (a.last = true → (j.obey (handle.documentExchange a m).call.request).closed = true) := by
  have hobeyed : j.obey (handle.documentExchange a m).call.request =
      { j with
        documents := j.documents ++ [⟨a.reader, a.documentFormat⟩]
        closed := j.closed || a.last } := sendDocument_obeyed hm j
  rw [hobeyed]
  exact ⟨⟨⟨rfl, rfl, fun hc => Bool.or_eq_true_iff.mpr (.inl hc)⟩, ⟨_, rfl, rfl⟩, fun _ => rfl⟩,
    fun hlast => Bool.or_eq_true_iff.mpr (.inr hlast)⟩

/-- `add_document` of a handle: it adds what it may, and closes the job if it succeeds with the last
document. -/
theorem IppJob.addDocumentStep_moves (handle : IppJob) (a : AddCall)
    (hs : s.Moves (handle.addDocumentStep a).1.trace s') (h : s.get handle.id = some j)
    (renamed : Prop) :
    ∃ j', s'.get handle.id = some j' ∧
      j.Keeps (mayAdd (handle.addDocumentStep a).1 ⟨a.reader, a.documentFormat⟩) renamed j' ∧
      ((handle.addDocumentStep a).1.result = .ok () → a.last = true → j'.closed = true) := by
  have hsent {m : IppRequestResponse} (hm : handle.documentRequest a = .ok m) :
      ActsOnJob (sentCode (handle.documentExchange a m)) ∧
        Names handle.id (handle.documentExchange a m) := by
    obtain ⟨hf, hid, -⟩ := LawfulIppCrate.sendDocument_ok hm
    have hcode : sentCode (handle.documentExchange a m) = Operation.sendDocument.code := hf.code
    refine ⟨?_, hid⟩
    rw [hcode]
    decide
  have ho := handle.addDocumentStep_outcome a
  generalize handle.addDocumentStep a = r at ho hs ⊢
  cases ho with
  | @unbuilt e hm =>
    obtain rfl := Moves.nil_iff.mp hs
    exact ⟨j, h, (SpooledJob.Keeps.refl j renamed).adds fun x hx => .inr ⟨hx, _, rfl⟩, nofun⟩
  | @failed m e hm hr =>
    obtain ⟨h', -⟩ | ⟨h', hn⟩ := (Moves.singleton_iff.mp hs).get_about h (hsent hm).1 (hsent hm).2
    · exact ⟨j, h', (SpooledJob.Keeps.refl j renamed).adds fun x hx => .inr ⟨hx, e, rfl⟩, nofun⟩
    · -- The reply was lost, and the document is there.
      obtain ⟨hkeeps, -⟩ := documentExchange_keeps (j := j) hm renamed
      exact ⟨_, h', hkeeps.adds fun x hx => .inl ⟨hx, _, List.mem_singleton_self _, hn⟩, nofun⟩
  | @accepted m resp hm hr =>
    obtain ⟨-, hn⟩ | ⟨h', hn⟩ := (Moves.singleton_iff.mp hs).get_about h (hsent hm).1 (hsent hm).2
    · exact absurd (wasAccepted hr) hn
    · obtain ⟨hkeeps, hclosed⟩ := documentExchange_keeps (j := j) hm renamed
      exact ⟨_, h', hkeeps.adds fun x hx => .inl ⟨hx, _, List.mem_singleton_self _, hn⟩,
        fun _ => hclosed⟩

/-- The call, by its job and its handle. -/
theorem addDocument_moves {uri : Uri} {closed last : Bool} {reader : Payload}
    {format : Option String} {c : IppClient} {cell : Cache} (renamed : Prop)
    (hs : s.Moves (Call.run c (.job uri id closed (.addDocument reader format last)) w past
      cell).trace s')
    (h : s.get id = some j) :
    ∃ j', s'.get id = some j' ∧
      j.Keeps (mayAdd (Call.run c (.job uri id closed (.addDocument reader format last)) w past cell)
        ⟨reader, format⟩) renamed j' := by
  generalize hr : Call.run c (.job uri id closed (.addDocument reader format last)) w past cell = r
    at hs ⊢
  generalize hstep : IppJob.addDocumentStep ⟨⟨c, uri⟩, id, closed⟩
    ⟨reader, format, last, w, past, cell⟩ = step
  have hran := IppJob.addDocument_eq ⟨⟨c, uri⟩, id, closed⟩ ⟨reader, format, last, w, past, cell⟩
  rw [hstep] at hran
  have htrace : r.trace = step.1.trace := by
    rw [← hr]
    exact (Act.void_trace w past cell _).trans (congrArg Ran.trace hran)
  have hresult : r.result = step.1.result := by
    have hvoid : r.result = (IppJob.addDocument ⟨⟨c, uri⟩, id, closed⟩ reader format last w past
        cell).result.map fun _ => () := hr ▸ Act.bind_pure_result w past cell
    rw [hvoid, hran]
    cases step.1.result <;> rfl
  rw [htrace, ← hstep] at hs
  obtain ⟨j', h', hkeeps, -⟩ := IppJob.addDocumentStep_moves ⟨⟨c, uri⟩, id, closed⟩
    ⟨reader, format, last, w, past, cell⟩ hs h renamed
  refine ⟨j', h', hkeeps.adds fun x hx => ?_⟩
  rw [hstep] at hx
  unfold mayAdd
  rw [htrace, hresult]
  exact hx

omit [Spooler] [LawfulIppCrate] [LawfulDocuments] in
/-- Another call than `add_document` of the job adds nothing. -/
theorem Visit.adds_other (h : ∀ uri closed reader format last,
    v.call ≠ .job uri id closed (.addDocument reader format last)) : v.adds id w past = 1 := by
  unfold Visit.adds
  split
  · rename_i uri id' closed reader format last hcall
    refine if_neg ?_
    rintro rfl
    exact h uri closed reader format last hcall
  · rfl

omit [LawfulDocuments] in
/-- A call that is no submission, and does not add to the job: its requests may be about the job,
and change it. -/
theorem Visit.moves_other (hs : s.Moves (v.trace w past) s') (h : s.get id = some j)
    (hsubmits : ¬ v.call.Submits) (hother : ∀ uri closed reader format last,
      v.call ≠ .job uri id closed (.addDocument reader format last)) :
    ∃ j', s'.get id = some j' ∧ j.Keeps (v.adds id w past) (v.Renames id) j' ∧
      (v.Spares j → j' = j) := by
  obtain ⟨j', h', hlater⟩ := Spool.get_moves hs h
  have hid : j.id = id := Spool.get_id h
  refine ⟨j', h', ⟨hlater.same, ⟨[], ?_, ?_⟩, fun hn => hlater.name fun e he hcode habout => ?_⟩,
    fun hspares => hlater.spared (Visit.spared hsubmits hspares)⟩
  · rw [Visit.adds_other hother]
    rfl
  · rw [List.append_nil]
    refine hlater.documents fun e he hcode habout => ?_
    have hjob := Visit.job_of_isAbout hsubmits he habout
    refine codes_noDocument hsubmits (fun uri id' closed reader format last hcall => ?_) _
      (v.call.sentCode_mem he) hcode
    rw [hcall, hid] at hjob
    exact hother uri closed reader format last (Option.some.inj hjob ▸ hcall)
  · have hjob := Visit.job_of_isAbout hsubmits he habout
    refine codes_noRename (fun uri id' attributes hcall => ?_) _ (v.call.sentCode_mem he) hcode
    rw [hcall, hid] at hjob
    exact hn ⟨uri, attributes, Option.some.inj hjob ▸ hcall⟩

/-- **What a call does to a job.** Only `add_document` of the job adds documents to it. -/
theorem Visit.moves_job (hs : s.Moves (v.trace w past) s') (h : s.get id = some j) :
    ∃ j', s'.get id = some j' ∧ j.Keeps (v.adds id w past) (v.Renames id) j' ∧
      (v.Spares j → j' = j) := by
  by_cases hsubmits : v.call.Submits
  · -- A submission has requests about a job, but the job is its own, and new.
    obtain ⟨sub, htrace⟩ := Call.submits_trace hsubmits v.client w past v.cell
    have hmoves : s.Moves (sub.run v.client w past v.cell).trace s' := by
      rw [← htrace]
      exact hs
    obtain ⟨left, hleft⟩ := (Submission.run_moves hmoves).grows
    have hnone : v.adds id w past = 1 := Visit.adds_other fun _ _ _ _ _ hcall => by
      rw [hcall] at hsubmits
      exact hsubmits
    refine ⟨j, ?_, ?_, fun _ => rfl⟩
    · rw [hleft]
      exact Spool.get_append h left
    · rw [hnone]
      exact .refl j _
  by_cases hadds : ∃ uri closed reader format last,
      v.call = .job uri id closed (.addDocument reader format last)
  · -- It sends one request, of which it hears or not.
    obtain ⟨c, call, cell⟩ := v
    obtain ⟨uri, closed, reader, format, last, rfl⟩ := hadds
    obtain ⟨j', h', hkeeps⟩ := addDocument_moves _ hs h
    have hadds : Visit.adds id w
        ⟨c, .job uri id closed (.addDocument reader format last), cell⟩ past =
          mayAdd (Call.run c (.job uri id closed (.addDocument reader format last)) w past cell)
            ⟨reader, format⟩ := if_pos rfl
    refine ⟨j', h', ?_, fun hspares => ?_⟩
    · rw [hadds]
      exact hkeeps
    · exact absurd (congrArg some (Spool.get_id h).symm) hspares.1
  · exact moves_other hs h hsubmits fun uri closed reader format last hcall =>
      hadds ⟨uri, closed, reader, format, last, hcall⟩

end Rules

/-! ## A job of two documents, and a submission between them -/

section Reference

attribute [local instance] Reference.crate textSpooler

end Reference

end Ipp
