import IppClient.Client.Visit
import IppClient.Proofs.Footprint

/-!
# The jobs of a server

A server behind a network that may lose requests and replies. What it accepted it did, what it
refused it did not do, and of a request without a reply nobody knows. Which requests it accepts,
under which new ids, and which queue it takes a printer URI for, is up to it.

* `Spool.Step`: what an exchange does to the jobs.
* `Spool.Step.acted`, `Spool.Step.opened`: the two kinds of requests, about a job and for a new one.
* `SpooledJob.Later`: what exchanges leave of a job, by their requests.
* `Spool.get_moves`: **no exchange takes a job away, or its user, or opens it again.**
-/

namespace Ipp

open Base

/-! ## The server -/

/-- How a server reads a printer URI. Two texts may name one queue. -/
class Spooler where
  queue : String → String

/-- A document as it was sent. -/
structure SpooledDocument where
  data : Payload
  format : Option String

/-- A job of a server, on the queue `printer`. A job that was cancelled or purged is `withdrawn`,
until it is restarted. -/
structure SpooledJob where
  id : JobId
  printer : Option String
  user : Option String
  name : Option String
  documents : List SpooledDocument
  closed : Bool
  withdrawn : Bool

abbrev Spool := List SpooledJob

/-- The operations that withdraw the jobs of a printer. -/
def sweepOperations : List Int16 := [Operation.purgeJobs.code, cancelJobs, cancelMyJobs]

/-- The operations that open a job. -/
def openingOperations : List Int16 :=
  [Operation.createJob.code, Operation.printJob.code, Ipp.resubmitJob]

/-- The operations about one job, which open none. -/
def ActsOnJob (code : Int16) : Prop :=
  IsJobOperation code ∧ code ∉ openingOperations ∧ code ∉ sweepOperations

instance (code : Int16) : Decidable (ActsOnJob code) := inferInstanceAs (Decidable (_ ∧ _ ∧ _))

/-- The operations that open a job, and are about no other. -/
def OpensJob (code : Int16) : Prop :=
  code ∈ openingOperations ∧ ¬ IsJobOperation code ∧ code ∉ sweepOperations

instance (code : Int16) : Decidable (OpensJob code) := inferInstanceAs (Decidable (_ ∧ _ ∧ _))

section Requests

variable [Spooler]

namespace IppRequestResponse

variable (m : IppRequestResponse)

/-- The queue that a request is about. -/
def queue : Option String := (m.operationText "printer-uri").map Spooler.queue

/-- A text in the job group of a request. -/
def jobText (name : String) : Option String := (m.lookup .jobAttributes name).bind Attrs.asText

/-- The document that a request carries. -/
def document : SpooledDocument := ⟨m.payload, m.operationText "document-format"⟩

/-- It is the last one of its job. -/
def isLast : Bool :=
  match m.operation "last-document" with
  | some (.boolean last) => last
  | _ => false

/-- The request withdraws the job: all jobs of the queue, or the user's. -/
def Sweeps (j : SpooledJob) : Prop :=
  m.operationOrStatus ∈ sweepOperations ∧ m.queue = j.printer ∧
    (m.operationOrStatus = cancelMyJobs → m.operationText "requesting-user-name" = j.user)

instance (j : SpooledJob) : Decidable (m.Sweeps j) := inferInstanceAs (Decidable (_ ∧ _ ∧ (_ → _)))

/-- The request is about the job. -/
def IsAbout (j : SpooledJob) : Prop :=
  IsJobOperation m.operationOrStatus ∧ m.operationInt "job-id" = some j.id

instance (j : SpooledJob) : Decidable (m.IsAbout j) := inferInstanceAs (Decidable (_ ∧ _))

/-- The job that a request opens. -/
def opened (id : JobId) (documents : List SpooledDocument) (closed : Bool) : SpooledJob where
  id
  printer := m.queue
  user := m.operationText "requesting-user-name"
  name := m.operationText "job-name"
  documents
  closed
  withdrawn := false

end IppRequestResponse

namespace SpooledJob

/-- The job after a request about it. -/
def obey (j : SpooledJob) (m : IppRequestResponse) : SpooledJob :=
  if m.operationOrStatus = Operation.sendDocument.code then
    { j with documents := j.documents ++ [m.document], closed := j.closed || m.isLast }
  else if m.operationOrStatus = closeJob then { j with closed := true }
  else if m.operationOrStatus = Operation.cancelJob.code then { j with withdrawn := true }
  else if m.operationOrStatus = Operation.restartJob.code then { j with withdrawn := false }
  else if m.operationOrStatus = Operation.cupsMoveJob.code then
    { j with printer := (m.jobText "job-printer-uri").map Spooler.queue }
  else if m.operationOrStatus = Ipp.setJobAttributes then
    { j with name := (m.jobText "job-name").or j.name }
  else j

/-- The job after a request that the server carried out. -/
def after (j : SpooledJob) (m : IppRequestResponse) : SpooledJob :=
  if m.Sweeps j then { j with withdrawn := true } else if m.IsAbout j then j.obey m else j

end SpooledJob

namespace Spool

/-- The jobs that a request opens, under a new id. -/
def opened (s : Spool) (m : IppRequestResponse) (id : JobId) : Spool :=
  if m.operationOrStatus = Operation.createJob.code then [m.opened id [] false]
  else if m.operationOrStatus = Operation.printJob.code then [m.opened id [m.document] true]
  else if m.operationOrStatus = Ipp.resubmitJob then
    (s.filter fun j => m.IsAbout j).map fun j => { j with id, withdrawn := false }
  else []

/-- The spool after a request that was carried out. -/
def handle (s : Spool) (m : IppRequestResponse) (id : JobId) : Spool :=
  s.map (fun j => j.after m) ++ s.opened m id

/-- The job of an id. -/
def get (s : Spool) (id : JobId) : Option SpooledJob := s.find? fun j => j.id = id

end Spool

end Requests

section Exchanges

variable [IppCrate]

/-- The server said that it did what the request asks for. -/
def WasAccepted (e : Exchange Post Reply) : Prop :=
  ∃ resp, e.reply = .ok resp ∧ IppCrate.isSuccess resp.operationOrStatus = true

/-- The server said that it did not. -/
def WasRefused (e : Exchange Post Reply) : Prop :=
  ∃ resp, e.reply = .ok resp ∧ IppCrate.isSuccess resp.operationOrStatus = false

theorem wasAccepted {e : Exchange Post Reply} {label : String} {resp : IppRequestResponse}
    (h : IppClient.accept label e.reply = .ok resp) : WasAccepted e :=
  ⟨resp, IppClient.accept_eq_ok.mp h⟩

variable [Spooler]

/-- What an exchange may do to the jobs of a server. The request was not carried out, and then the
server did not say that it was; or it was, and then the server did not say that it was not. A job
that it opened is new, and has the id that the response gives. -/
inductive Spool.Step (s : Spool) (e : Exchange Post Reply) : Spool → Prop
  | ignored (h : ¬ WasAccepted e) : Step s e s
  | handled {id : JobId} (h : ¬ WasRefused e)
      (hid : ∀ resp id', e.reply = .ok resp → decodeJobId resp = .ok id' → id' = id)
      (hfresh : sentCode e ∈ openingOperations → ∀ j ∈ s, j.id ≠ id) :
    Step s e (s.handle e.call.request id)

/-- What the exchanges may do to them. -/
abbrev Spool.Moves (s : Spool) (t : List (Exchange Post Reply)) (s' : Spool) : Prop :=
  Base.Moves Spool.Step s t s'

end Exchanges

/-! ## A request -/

namespace SpooledJob

variable [Spooler] (j : SpooledJob) {m : IppRequestResponse}

/-- What is fixed when a job is opened, or when it is closed. -/
structure Same (j j' : SpooledJob) : Prop where
  id : j'.id = j.id
  user : j'.user = j.user
  closed : j.closed = true → j'.closed = true

omit [Spooler] in
theorem Same.refl : j.Same j := ⟨rfl, rfl, fun h => h⟩

omit [Spooler] in
variable {j} in
theorem Same.trans {j₁ j₂ : SpooledJob} (h : j.Same j₁) (h₁ : j₁.Same j₂) : j.Same j₂ :=
  ⟨h₁.id.trans h.id, h₁.user.trans h.user, fun hc => h₁.closed (h.closed hc)⟩

/-- What a request about a job can do to it, by its operation. -/
inductive Obeyed (j : SpooledJob) (m : IppRequestResponse) : SpooledJob → Prop
  | filled (h : m.operationOrStatus = Operation.sendDocument.code) :
    Obeyed j m
      { j with documents := j.documents ++ [m.document], closed := j.closed || m.isLast }
  | closed : Obeyed j m { j with closed := true }
  | withdrawn (withdrawn : Bool) : Obeyed j m { j with withdrawn }
  | moved (printer : Option String) : Obeyed j m { j with printer }
  | renamed (h : m.operationOrStatus = Ipp.setJobAttributes) (name : Option String) :
    Obeyed j m { j with name }
  | same : Obeyed j m j

theorem obey_obeyed (m : IppRequestResponse) : Obeyed j m (j.obey m) := by
  unfold obey
  split
  · exact .filled ‹_›
  split
  · exact .closed
  split
  · exact .withdrawn true
  split
  · exact .withdrawn false
  split
  · exact .moved _
  split
  · exact .renamed ‹_› _
  · exact .same

/-- What a request can do to a job: its queue is swept, it is about the job, or neither. -/
inductive Affected (j : SpooledJob) (m : IppRequestResponse) : SpooledJob → Prop
  | swept (h : m.Sweeps j) : Affected j m { j with withdrawn := true }
  | obeyed {j' : SpooledJob} (h : m.IsAbout j) (hj : Obeyed j m j') : Affected j m j'
  | spared : Affected j m j

theorem after_affected (m : IppRequestResponse) : Affected j m (j.after m) := by
  unfold after
  split
  · exact .swept ‹_›
  split
  · exact .obeyed ‹_› (j.obey_obeyed m)
  · exact .spared

theorem after_same (m : IppRequestResponse) : j.Same (j.after m) := by
  have h' := j.after_affected m
  generalize j.after m = j' at h' ⊢
  cases h' with
  | swept _ => exact ⟨rfl, rfl, fun h => h⟩
  | obeyed _ hj =>
    cases hj with
    | filled _ => exact ⟨rfl, rfl, fun h => Bool.or_eq_true_iff.mpr (.inl h)⟩
    | closed => exact ⟨rfl, rfl, fun _ => rfl⟩
    | withdrawn _ | moved _ | renamed _ _ | same => exact ⟨rfl, rfl, fun h => h⟩
  | spared => exact .refl j

theorem obey_closeJob (h : m.operationOrStatus = closeJob) :
    j.obey m = { j with closed := true } := by
  rw [obey, h, if_neg (by decide), if_pos rfl]

theorem obey_cancelJob (h : m.operationOrStatus = Operation.cancelJob.code) :
    j.obey m = { j with withdrawn := true } := by
  rw [obey, h, if_neg (by decide), if_neg (by decide), if_pos rfl]

/-- A request about another job. -/
theorem after_spared (hs : ¬ m.Sweeps j) (ha : ¬ m.IsAbout j) : j.after m = j := by
  rw [after, if_neg hs, if_neg ha]

/-- Only a `Send-Document` about the job changes its documents. -/
theorem after_documents (h : m.operationOrStatus = Operation.sendDocument.code → ¬ m.IsAbout j) :
    (j.after m).documents = j.documents := by
  have h' := j.after_affected m
  generalize j.after m = j' at h' ⊢
  cases h' with
  | swept _ | spared => rfl
  | obeyed ha hj =>
    cases hj with
    | filled hc => exact absurd ha (h hc)
    | closed | withdrawn _ | moved _ | renamed _ _ | same => rfl

/-- Only a `Set-Job-Attributes` about the job changes its name. -/
theorem after_name (h : m.operationOrStatus = Ipp.setJobAttributes → ¬ m.IsAbout j) :
    (j.after m).name = j.name := by
  have h' := j.after_affected m
  generalize j.after m = j' at h' ⊢
  cases h' with
  | swept _ | spared => rfl
  | obeyed ha hj =>
    cases hj with
    | renamed hc _ => exact absurd ha (h hc)
    | filled _ | closed | withdrawn _ | moved _ | same => rfl

omit [Spooler] in
theorem isAbout_congr {j' : SpooledJob} (h : j'.id = j.id) : m.IsAbout j' ↔ m.IsAbout j := by
  rw [IppRequestResponse.IsAbout, h]
  rfl

end SpooledJob

namespace Spool

variable [Spooler] {s : Spool} {id : JobId} {j : SpooledJob} {m : IppRequestResponse}

/-- An operation that opens no job. -/
theorem opened_other (h : m.operationOrStatus ∉ openingOperations) (id : JobId) :
    s.opened m id = [] := by
  simp only [openingOperations, List.mem_cons, List.not_mem_nil, or_false, not_or] at h
  obtain ⟨hcreate, hprint, hresubmit⟩ := h
  rw [opened, if_neg hcreate, if_neg hprint, if_neg hresubmit]

omit [Spooler] in
theorem get_append (h : s.get id = some j) (s' : Spool) : get (s ++ s') id = some j := by
  rw [get, List.find?_append]
  exact congrArg (Option.or · _) h

omit [Spooler] in
/-- A job under a new id. -/
theorem get_concat (hfresh : ∀ j' ∈ s, j'.id ≠ j.id) : get (s ++ [j]) j.id = some j := by
  have hnone : s.find? (fun j' => j'.id = j.id) = none :=
    List.find?_eq_none.mpr fun j' hj' hid => hfresh j' hj' (of_decide_eq_true hid)
  rw [get, List.find?_append, hnone, Option.none_or]
  exact List.find?_cons_of_pos (decide_eq_true rfl)

omit [Spooler] in
theorem get_map {f : SpooledJob → SpooledJob} (hf : ∀ j, (f j).id = j.id) (h : s.get id = some j) :
    get (s.map f) id = some (f j) := by
  have hcomp : (fun j => decide (j.id = id)) ∘ f = fun j => decide (j.id = id) := by
    funext j
    simp only [Function.comp_apply, hf]
  rw [get, List.find?_map, hcomp]
  exact congrArg (Option.map f) h

omit [Spooler] in
theorem get_id (h : s.get id = some j) : j.id = id := by
  simpa using List.find?_some h

/-- Jobs that a request is not about, and does not sweep. -/
theorem map_spared (hs : m.operationOrStatus ∉ sweepOperations) (ha : ∀ j ∈ s, ¬ m.IsAbout j) :
    s.map (fun j => j.after m) = s :=
  (List.map_congr_left fun j hj => j.after_spared (fun h => hs h.1) (ha j hj)).trans s.map_id

/-- A request about the last job alone. -/
theorem map_last (hs : m.operationOrStatus ∉ sweepOperations) (hfresh : ∀ j' ∈ s, j'.id ≠ j.id)
    (ha : m.IsAbout j) : (s ++ [j]).map (fun j => j.after m) = s ++ [j.obey m] := by
  have hrest : ∀ j' ∈ s, ¬ m.IsAbout j' := fun j' hj' h =>
    hfresh j' hj' (Option.some.inj (h.2.symm.trans ha.2))
  have hsweep : ¬ m.Sweeps j := fun h => hs h.1
  rw [List.map_append, map_spared hs hrest, List.map_singleton, SpooledJob.after, if_neg hsweep,
    if_pos ha]

end Spool

/-! ## An exchange -/

namespace Spool

variable [IppCrate] [Spooler] {s s' : Spool} {e : Exchange Post Reply} {id : JobId}
  {j : SpooledJob} {label : String}

omit [IppCrate] [Spooler] in
/-- A request of an operation about jobs, which names the job. -/
theorem isAbout_of_names (hop : IsJobOperation (sentCode e)) (h : Names j.id e) :
    e.call.request.IsAbout j := by
  refine ⟨hop, ?_⟩
  rw [IppRequestResponse.operationInt, h]
  rfl

/-- What an exchange does to a job: what its request asks for, or nothing. -/
theorem Step.get (hs : Step s e s') (h : s.get id = some j) :
    s'.get id = some j ∨ s'.get id = some (j.after e.call.request) := by
  cases hs with
  | ignored _ => exact .inl h
  | handled _ _ _ => exact .inr (get_append (get_map (fun j => (j.after_same _).id) h) _)

/-- A request about a job opens none. -/
theorem Step.acted (hs : Step s e s') (hop : ActsOnJob (sentCode e)) :
    s' = s ∧ ¬ WasAccepted e ∨
      s' = s.map (fun j => j.after e.call.request) ∧ ¬ WasRefused e := by
  cases hs with
  | ignored h => exact .inl ⟨rfl, h⟩
  | handled h _ _ =>
    refine .inr ⟨?_, h⟩
    rw [handle, opened_other hop.2.1, List.append_nil]

/-- A request for a new job leaves the others. -/
theorem Step.opened (hs : Step s e s') (hop : OpensJob (sentCode e)) :
    s' = s ∧ ¬ WasAccepted e ∨
      ∃ id, s' = s ++ s.opened e.call.request id ∧ (∀ j ∈ s, j.id ≠ id) ∧ ¬ WasRefused e ∧
        ∀ resp id', e.reply = .ok resp → decodeJobId resp = .ok id' → id' = id := by
  cases hs with
  | ignored h => exact .inl ⟨rfl, h⟩
  | @handled id h hid hfresh =>
    refine .inr ⟨id, ?_, hfresh hop.1, h, hid⟩
    rw [handle, map_spared hop.2.2 fun j _ habout => hop.2.1 habout.1]

/-- A request about the job: it is carried out, or not. -/
theorem Step.get_about (hs : Step s e s') (h : s.get id = some j) (hop : ActsOnJob (sentCode e))
    (hid : Names id e) :
    s'.get id = some j ∧ ¬ WasAccepted e ∨
      s'.get id = some (j.obey e.call.request) ∧ ¬ WasRefused e := by
  have habout : e.call.request.IsAbout j := isAbout_of_names hop.1 (by rw [get_id h]; exact hid)
  have hafter : j.after e.call.request = j.obey e.call.request := by
    rw [SpooledJob.after, if_neg fun hs => hop.2.2 hs.1, if_pos habout]
  obtain ⟨rfl, hn⟩ | ⟨rfl, hn⟩ := hs.acted hop
  · exact .inl ⟨h, hn⟩
  · rw [← hafter]
    exact .inr ⟨get_map (fun j => (j.after_same _).id) h, hn⟩

/-- A request about the last job alone. -/
theorem Step.last (hs : Step (s ++ [j]) e s') (hop : ActsOnJob (sentCode e))
    (hid : Names j.id e) (hfresh : ∀ j' ∈ s, j'.id ≠ j.id) :
    s' = s ++ [j] ∧ ¬ WasAccepted e ∨ s' = s ++ [j.obey e.call.request] ∧ ¬ WasRefused e := by
  refine (hs.acted hop).imp_right fun h => ⟨?_, h.2⟩
  rw [h.1, map_last hop.2.2 hfresh (isAbout_of_names hop.1 hid)]

end Spool

/-! ## Exchanges -/

section Runs

variable [IppCrate] [Spooler] {s s' : Spool} {e : Exchange Post Reply}
  {t : List (Exchange Post Reply)} {id : JobId} {j j₁ j' : SpooledJob}

/-- What exchanges leave of a job. -/
structure SpooledJob.Later (j : SpooledJob) (t : List (Exchange Post Reply)) (j' : SpooledJob) :
    Prop where
  same : j.Same j'
  documents : (∀ e ∈ t, sentCode e = Operation.sendDocument.code → ¬ e.call.request.IsAbout j) →
    j'.documents = j.documents
  name : (∀ e ∈ t, sentCode e = Ipp.setJobAttributes → ¬ e.call.request.IsAbout j) →
    j'.name = j.name
  spared : (∀ e ∈ t, ¬ e.call.request.Sweeps j ∧ ¬ e.call.request.IsAbout j) → j' = j

namespace SpooledJob

omit [IppCrate] in
theorem Later.refl (j : SpooledJob) (t : List (Exchange Post Reply)) : j.Later t j :=
  ⟨.refl j, fun _ => rfl, fun _ => rfl, fun _ => rfl⟩

omit [IppCrate] in
theorem after_later (j : SpooledJob) (e : Exchange Post Reply) :
    j.Later [e] (j.after e.call.request) where
  same := j.after_same _
  documents h := j.after_documents fun hc => h e List.mem_cons_self hc
  name h := j.after_name fun hc => h e List.mem_cons_self hc
  spared h := j.after_spared (h e List.mem_cons_self).1 (h e List.mem_cons_self).2

omit [IppCrate] in
/-- The requests are about the later job if they are about the earlier one. -/
theorem Later.cons (h : j.Later [e] j₁) (ht : j₁.Later t j') : j.Later (e :: t) j' where
  same := h.same.trans ht.same
  documents hc := by
    rw [← h.documents fun e' he' => hc e' (List.mem_singleton.mp he' ▸ List.mem_cons_self)]
    refine ht.documents fun e' he' hcode habout => ?_
    exact hc e' (List.mem_cons_of_mem e he') hcode ((j.isAbout_congr h.same.id).mp habout)
  name hc := by
    rw [← h.name fun e' he' => hc e' (List.mem_singleton.mp he' ▸ List.mem_cons_self)]
    refine ht.name fun e' he' hcode habout => ?_
    exact hc e' (List.mem_cons_of_mem e he') hcode ((j.isAbout_congr h.same.id).mp habout)
  spared hc := by
    obtain rfl := h.spared fun e' he' => hc e' (List.mem_singleton.mp he' ▸ List.mem_cons_self)
    exact ht.spared fun e' he' => hc e' (List.mem_cons_of_mem e he')

end SpooledJob

/-- **A job stays.** It keeps its id and its user, and is not opened again once it is closed. -/
theorem Spool.get_moves (hm : s.Moves t s') (h : s.get id = some j) :
    ∃ j', s'.get id = some j' ∧ j.Later t j' := by
  induction hm generalizing j with
  | nil s => exact ⟨j, h, .refl j []⟩
  | @cons s s₁ s₂ e t hs _ ih =>
    obtain ⟨j₁, h₁, hlater⟩ : ∃ j₁, s₁.get id = some j₁ ∧ j.Later [e] j₁ :=
      (hs.get h).elim (fun h₁ => ⟨j, h₁, .refl j [e]⟩) fun h₁ => ⟨_, h₁, j.after_later e⟩
    obtain ⟨j', h', ht⟩ := ih h₁
    exact ⟨j', h', hlater.cons ht⟩

end Runs

end Ipp
