import IppClient.Client.Daemon
import IppClient.Events

/-!
# The event stream (`IppClient::events`)

The stream is a loop that never ends: it takes a snapshot, yields what changed, and sleeps.
`EventLoop` is what it keeps between two turns; `EventLoop.turn` is one turn, given how the poll
came out; `IppClient.events` drives it with real polls, each in a world of its own.

A turn has no next state where the source panics: where doubling the retry delay overflows.

* `IppClient.events_turns`: the turns of a stream are those of its outcomes.
* `IppClient.snapshot_ok`: the two halves of a successful snapshot.
* `IppClient.events_consecutive`: a turn after a success compares with the snapshot before it.
-/

namespace Ipp

open Base

/-- The locals of the loop: the last snapshot, dropped on a failure, and the retry delay. -/
structure EventLoop where
  previous : Option Snapshot
  backoff : Duration

/-- How a poll came out. -/
abbrev Outcome := Except Error Snapshot

/-- What one turn of the loop does: it yields the items in order, sleeps, and goes on. -/
structure Turn where
  items : List (Except Error PrinterEvent)
  next : Option (Duration × EventLoop)

namespace EventLoop

/-- The loop before its first turn. -/
def start : EventLoop := { previous := none, backoff := .zero }

/-- One turn of the loop. -/
def turn (l : EventLoop) (outcome : Outcome) : Turn :=
  match outcome with
  | .ok current =>
    let events : List PrinterEvent :=
      match l.previous with
      -- First poll, or first poll after a failure.
      | none => [.resynchronised current.printers current.jobs]
      | some before => before.diff current
    { items := events.map .ok
      next := some (pollInterval, { previous := some current, backoff := .zero }) }
  | .error e =>
    { items := [.error e]
      next := (backoffAfter l.backoff).map fun delay =>
        (delay, { previous := none, backoff := delay }) }

/-- The turns the loop takes when its polls come out like this; none after a panic. -/
def turns (l : EventLoop) : List Outcome → List Turn
  | [] => []
  | outcome :: outcomes =>
    l.turn outcome ::
      match (l.turn outcome).next with
      | some (_, l') => l'.turns outcomes
      | none => []

end EventLoop

/-- One poll of a running stream: its exchanges, how it came out, and the turn it leads to. -/
structure Poll where
  trace : List (Exchange Post Reply)
  outcome : Outcome
  turn : Turn

variable [IppCrate]

namespace IppClient

variable (c : IppClient)

/-- `IppClient::snapshot`. -/
def snapshot : Net Snapshot := do
  let printers ← c.printers
  let jobs ← c.jobs .notCompleted
  return { printers, jobs }

/-- The poll of one turn: the default-printer cache is dropped first where there is no previous
snapshot. -/
def poll (l : EventLoop) : Net Snapshot := do
  if l.previous.isNone then
    invalidateDefaultPrinterCache
  c.snapshot

/-- `IppClient::events`: the polls of a stream from the state `l`, one for each world. -/
def events (l : EventLoop) (past : List (Exchange Post Reply)) (cell : Cache) :
    List World → List Poll
  | [] => []
  | w :: ws =>
    let ran := c.poll l w past cell
    let turn := l.turn ran.result
    { trace := ran.trace, outcome := ran.result, turn } ::
      match turn.next with
      | some (_, l') => events l' (past ++ ran.trace) ran.cell ws
      | none => []

/-- The turns of a stream are those of its outcomes. -/
theorem events_turns (l : EventLoop) (past : List (Exchange Post Reply)) (cell : Cache)
    (ws : List World) :
    (c.events l past cell ws).map (·.turn) =
      l.turns ((c.events l past cell ws).map (·.outcome)) := by
  induction ws generalizing l past cell with
  | nil => rfl
  | cons w ws ih =>
    simp only [events, EventLoop.turns, List.map_cons]
    cases (l.turn (c.poll l w past cell).result).next with
    | none => rfl
    | some next => exact congrArg (List.cons _) (ih next.2 _ _)

/-- The poll of a turn is a snapshot taken from the cache, dropped first or as it is. -/
theorem poll_apply (l : EventLoop) (w : World) (past : List (Exchange Post Reply)) (cell : Cache) :
    c.poll l w past cell =
      c.snapshot w past (if l.previous.isNone then none else cell) := by
  unfold poll
  split
  · have h : invalidateDefaultPrinterCache w past cell = ⟨.ok (), [], none⟩ := rfl
    refine (Act.bind_ok w past cell h).trans ?_
    rw [List.append_nil, List.nil_append]
  · rfl

/-- A successful snapshot: the printers, then the jobs. -/
theorem snapshot_ok {w : World} {past t : List (Exchange Post Reply)} {cell cell' : Cache}
    {s : Snapshot} (h : c.snapshot w past cell = ⟨.ok s, t, cell'⟩) :
    ∃ t₁ c₁ t₂, c.printers w past cell = ⟨.ok s.printers, t₁, c₁⟩ ∧
      c.jobs .notCompleted w (past ++ t₁) c₁ = ⟨.ok s.jobs, t₂, cell'⟩ ∧ t = t₁ ++ t₂ := by
  obtain ⟨printers, t₁, c₁, t₂, hp, h₁, ht⟩ := Act.bind_eq_ok _ _ _ h
  obtain ⟨jobs, t₃, c₃, t₄, hj, h₂, ht'⟩ := Act.bind_eq_ok _ _ _ h₁
  cases h₂
  exact ⟨t₁, c₁, t₃, hp, hj, by rw [ht, ht', List.append_nil]⟩

/-- Every poll of a stream is a poll of the client, from some state of the loop. -/
theorem events_poll {l : EventLoop} {past : List (Exchange Post Reply)} {cell : Cache}
    {ws : List World} {p : Poll} (h : p ∈ c.events l past cell ws) :
    ∃ l' w past' cell', p.trace = (c.poll l' w past' cell').trace ∧
      p.outcome = (c.poll l' w past' cell').result := by
  induction ws generalizing l past cell with
  | nil => cases h
  | cons w ws ih =>
    rw [events, List.mem_cons] at h
    obtain rfl | h := h
    · exact ⟨l, w, past, cell, rfl, rfl⟩
    · cases hn : (l.turn (c.poll l w past cell).result).next with
      | none =>
        rw [hn] at h
        cases h
      | some next =>
        rw [hn] at h
        exact ih h

/-- The turn after a successful poll compares with its snapshot. -/
theorem events_consecutive {l : EventLoop} {past : List (Exchange Post Reply)} {cell : Cache}
    {ws : List World} {i : Nat} {p p' : Poll} {s : Snapshot}
    (hp : (c.events l past cell ws)[i]? = some p) (hp' : (c.events l past cell ws)[i + 1]? = some p')
    (hs : p.outcome = .ok s) :
    ∃ l' : EventLoop, l'.previous = some s ∧ p'.turn = l'.turn p'.outcome := by
  induction ws generalizing l past cell i with
  | nil => cases hp
  | cons w ws ih =>
    rw [events] at hp hp'
    cases i with
    | zero =>
      cases hp
      have hn : (l.turn (c.poll l w past cell).result).next =
          some (pollInterval, { previous := some s, backoff := .zero }) := by
        have hr : (c.poll l w past cell).result = .ok s := hs
        rw [hr]
        rfl
      rw [List.getElem?_cons_succ, hn] at hp'
      cases ws with
      | nil => cases hp'
      | cons w' ws =>
        cases hp'
        exact ⟨{ previous := some s, backoff := .zero }, rfl, rfl⟩
    | succ i =>
      rw [List.getElem?_cons_succ] at hp hp'
      cases hn : (l.turn (c.poll l w past cell).result).next with
      | none =>
        rw [hn] at hp
        cases hp
      | some next =>
        rw [hn] at hp hp'
        exact ih hp hp'

end IppClient

end Ipp
