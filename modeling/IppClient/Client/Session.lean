import IppClient.Base.Sys
import IppClient.Client.Operations
import IppClient.Client.Poll

/-!
# A client in use

`Call` is any method of the client, of a printer handle of it or of a job handle of it, with its
arguments. A session is what an application does with one client: calls one after the other, and
in between the polls of any number of event streams (`IppClient::events` can be called more than
once). All of them share the client's default-printer cache.

Each step has a world of its own. A poll after which its stream would panic has no next state.

* `afterPoll_cases`: what a poll leaves behind.
* `Session.Since P before s`: every exchange from `before` to `s` satisfies `P`.
-/

namespace Ipp

open Base

/-- A method of `IppClient` that makes requests, with its arguments. -/
inductive ClientMethod where
  | defaultPrinter
  | printers
  | jobs (which : WhichJobs)
  | job (printer : String) (id : JobId)
  | classes
  | ppds (filter : Option PpdFilter)
  | printer (name : String)
  | printerAt (uri : String)
  | cancelJob (printer : String) (id : JobId)
  | holdJob (printer : String) (id : JobId)
  | releaseJob (printer : String) (id : JobId)
  | restartJob (printer : String) (id : JobId)
  | moveJob (printer : String) (id : JobId) (destination : String)
  | purgeJobs (printer : String)
  | identifyPrinter (printer : String) (action : IdentifyAction)
  | validateJob (printer documentFormat : String)
  | printBytes (printer : String) (bytes : Payload) (documentFormat jobName : String)
  | printStream (printer : String) (reader : Payload) (documentFormat : Option String)
      (jobName : String)
  | printFile (printer : String) (path : Path)

/-- A call: of the client, of the handle of the printer `uri`, or of the handle of the job `id` on
that printer, closed or not. -/
inductive Call where
  | client (method : ClientMethod)
  | printer (uri : Uri) (method : PrinterMethod)
  | job (uri : Uri) (id : JobId) (closed : Bool) (method : JobMethod)

/-- The state of a session: the exchanges so far, the cache, and the event streams by number, each
at its start until it is first polled. -/
structure Session where
  past : List (Exchange Post Reply)
  cell : Cache
  streams : Nat → EventLoop

/-- One step of a session. -/
inductive SessionStep where
  | call (w : World) (call : Call)
  | poll (w : World) (stream : Nat)

/-- A client that was just built. -/
def Session.start : Session := { past := [], cell := none, streams := fun _ => .start }

/-- The session went on from `before`, and every exchange since satisfies `P`. -/
def Session.Since (P : Exchange Post Reply → Prop) (before s : Session) : Prop :=
  ∃ t, s.past = before.past ++ t ∧ ∀ e ∈ t, P e

variable [IppCrate]

/-- The method, without its result. -/
def ClientMethod.run (c : IppClient) : ClientMethod → Net Unit
  | .defaultPrinter => Act.void c.defaultPrinter
  | .printers => Act.void c.printers
  | .jobs which => Act.void (c.jobs which)
  | .job queue id => Act.void (c.job queue id)
  | .classes => Act.void c.classes
  | .ppds filter => Act.void (c.ppds filter)
  | .printer name => Act.void (c.printer name)
  | .printerAt uri => Act.void (c.printerAt uri)
  | .cancelJob queue id => c.cancelJob queue id
  | .holdJob queue id => c.holdJob queue id
  | .releaseJob queue id => c.releaseJob queue id
  | .restartJob queue id => c.restartJob queue id
  | .moveJob queue id destination => c.moveJob queue id destination
  | .purgeJobs queue => c.purgeJobs queue
  | .identifyPrinter queue action => c.identifyPrinter queue action
  | .validateJob queue format => c.validateJob queue format
  | .printBytes queue bytes format name => Act.void (c.printBytes queue bytes format name)
  | .printStream queue reader format name => Act.void (c.printStream queue reader format name)
  | .printFile queue path => Act.void (c.printFile queue path)

/-- The call, without its result. -/
def Call.run (c : IppClient) : Call → Net Unit
  | .client method => method.run c
  | .printer uri method => method.run ⟨c, uri⟩
  | .job uri id closed method => method.run ⟨⟨c, uri⟩, id, closed⟩

/-- The state after a call. -/
def Session.afterCall (c : IppClient) (s : Session) (w : World) (call : Call) : Session :=
  let ran := call.run c w s.past s.cell
  { s with past := s.past ++ ran.trace, cell := ran.cell }

/-- The poll of one of the streams. -/
def Session.polled (c : IppClient) (s : Session) (w : World) (stream : Nat) :
    Ran Post Reply Cache Error Snapshot :=
  c.poll (s.streams stream) w s.past s.cell

/-- The state after a poll, if the stream goes on. -/
def Session.afterPoll (c : IppClient) (s : Session) (w : World) (stream : Nat) : Option Session :=
  let ran := s.polled c w stream
  (((s.streams stream).turn ran.result).next).map fun next =>
    { past := s.past ++ ran.trace
      cell := ran.cell
      streams := fun i => if i = stream then next.2 else s.streams i }

/-- The sessions of a client. -/
def sessions (c : IppClient) : Sys Session SessionStep where
  step s
    | .call w call => some (s.afterCall c w call)
    | .poll w stream => s.afterPoll c w stream

section Steps

variable {c : IppClient} {P : Exchange Post Reply → Prop} {before s s' : Session}

/-- What a poll leaves behind: its stream has the snapshot that it took, or none if it failed. -/
theorem afterPoll_cases {w : World} {stream : Nat} (h : s.afterPoll c w stream = some s') :
    ∃ next : EventLoop, next.previous = (s.polled c w stream).result.toOption ∧
      s' = { past := s.past ++ (s.polled c w stream).trace
             cell := (s.polled c w stream).cell
             streams := fun i => if i = stream then next else s.streams i } := by
  obtain ⟨⟨delay, next⟩, hnext, rfl⟩ := Option.map_eq_some_iff.mp h
  refine ⟨next, ?_, rfl⟩
  cases hr : (s.polled c w stream).result with
  | ok current =>
    rw [hr] at hnext
    cases hnext
    rfl
  | error e =>
    rw [hr] at hnext
    obtain ⟨_, _, heq⟩ := Option.map_eq_some_iff.mp hnext
    cases heq
    rfl

namespace Session.Since

omit [IppCrate] in
theorem refl (P : Exchange Post Reply → Prop) (s : Session) : Since P s s :=
  ⟨[], (List.append_nil _).symm, nofun⟩

omit [IppCrate] in
theorem append (h : Since P before s) {t : List (Exchange Post Reply)} (ht : ∀ e ∈ t, P e)
    (hs : s'.past = s.past ++ t) : Since P before s' := by
  obtain ⟨t₀, h₀, hP⟩ := h
  refine ⟨t₀ ++ t, by rw [hs, h₀, List.append_assoc], fun e he => ?_⟩
  exact (List.mem_append.mp he).elim (hP e) (ht e)

/-- **A step.** What holds of the exchanges of the call or the poll holds of the session's. -/
theorem step {l : SessionStep} (h : Since P before s) (hs : (sessions c).step s l = some s')
    (hcall : ∀ w call, l = .call w call → ∀ e ∈ (call.run c w s.past s.cell).trace, P e)
    (hpoll : ∀ w stream, l = .poll w stream → ∀ e ∈ (s.polled c w stream).trace, P e) :
    Since P before s' := by
  cases l with
  | call w call =>
    cases hs
    exact h.append (hcall w call rfl) rfl
  | poll w stream =>
    obtain ⟨next, -, rfl⟩ := afterPoll_cases hs
    exact h.append (hpoll w stream rfl) rfl

end Session.Since

end Steps

end Ipp
