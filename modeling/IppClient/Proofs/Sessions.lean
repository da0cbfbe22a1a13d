import IppClient.Proofs.Refusals

/-!
# The default printer over a session

What becomes of a client's default-printer cache over a whole session: any calls, and any number of
event streams polled in between, one after another. (`IppClient.Proofs.CacheRace` is about calls
that overlap.) A poll *resynchronises* if its stream has no snapshot to compare with, at its start
or after a failure; it drops the cache for everybody.

* `Call.run_pays`, `snapshot_pays`: a question for the default printer costs the credit of an empty
  cache.
* `default_stays`: **once resolved, the default printer is the same for every call and every poll,
  and the server is not asked again, until a poll resynchronises.**
* `default_asked_rarely`: **the server is asked for its default at most once, once more for each
  stream, and once more for each poll that fails.**
-/

namespace Ipp

open Base

/-- The poll has no snapshot to compare with. -/
def Resynchronises (s : Session) : SessionStep → Prop
  | .call _ _ => False
  | .poll _ stream => (s.streams stream).previous.isNone = true

/-- The exchange asks the server for its default printer. -/
def asksDefault (e : Exchange Post Reply) : Bool :=
  e.call.request.operationOrStatus == Operation.cupsGetDefault.code

/-- The questions for the default printer so far. -/
def Session.asked (s : Session) : Nat := s.past.countP asksDefault

/-- An empty cache costs one question. -/
def credit (cell : Cache) : Nat := if cell.isSome then 0 else 1

theorem credit_le (cell : Cache) : credit cell ≤ 1 := by
  unfold credit
  split
  · exact Nat.zero_le 1
  · exact Nat.le_refl 1

theorem resolved_of_credit {cell : Cache} (h : credit cell = 0) : Resolved cell := by
  unfold credit at h
  split at h
  · assumption
  · cases h

/-! ## Streams without a snapshot -/

/-- One if the next poll of the stream resynchronises. -/
def startsOver (l : EventLoop) : Nat := if l.previous.isNone then 1 else 0

/-- How many of the streams below `n` have no snapshot. -/
def waiting (streams : Nat → EventLoop) : Nat → Nat
  | 0 => 0
  | n + 1 => waiting streams n + startsOver (streams n)

/-- A stream that moves on changes its own share only. -/
theorem waiting_update (streams : Nat → EventLoop) (next : EventLoop) (i n : Nat) :
    waiting (fun j => if j = i then next else streams j) n +
        (if i < n then startsOver (streams i) else 0) =
      waiting streams n + if i < n then startsOver next else 0 := by
  induction n with
  | zero => rfl
  | succ n ih =>
    simp only [waiting]
    by_cases hn : n = i
    · subst hn
      simp only [Nat.lt_irrefl, Nat.lt_succ_self, if_true, if_false] at ih ⊢
      omega
    · have hlt : i < n + 1 ↔ i < n := by omega
      simp only [hlt, if_neg hn] at ih ⊢
      omega

theorem waiting_start (n : Nat) : waiting (fun _ => EventLoop.start) n = n := by
  induction n with
  | zero => rfl
  | succ n ih => exact congrArg (· + 1) ih

section Rules

variable [IppCrate]

/-! ## What a question costs -/

/-- The action asks for the default printer only if the cache is empty, and then fills it. -/
abbrev Pays {α : Type} (x : Net α) : Prop := Act.Pays asksDefault credit x

omit [IppCrate] in
theorem Follows.pays {α : Type} {plan : List Heading} {x : Net α} (hx : Follows plan x)
    (hp : ∀ hd ∈ plan, hd.code ≠ Operation.cupsGetDefault.code) : Pays x := by
  refine Act.Pays.of_frugal (fun w past cell e he => ?_) credit_le fun w past cell hc => ?_
  · exact beq_false_of_ne (hp _ (hx.mem he))
  · exact hx.keeps w past cell (resolved_of_credit hc)

variable [LawfulIppCrate] (c : IppClient)

theorem defaultPrinter_pays : Pays c.defaultPrinter := by
  intro w past cell
  have hone := ((defaultPrinter_follows c).calls w past cell).length_le
  rw [List.length_map] at hone
  cases cell with
  | some cached =>
    rw [IppClient.defaultPrinter_hit]
    exact Nat.le_refl 0
  | none =>
    have hcell : credit (c.defaultPrinter w past none).cell = 0 := by
      cases hl : w.lpoptions with
      | some chosen => rw [IppClient.defaultPrinter_lpoptions hl]; rfl
      | none => rw [IppClient.defaultPrinter_server hl]; rfl
    rw [hcell]
    exact List.countP_le_length.trans hone

theorem printers_pays : Pays c.printers :=
  (defaultPrinter_pays c).bind fun _ =>
    (request_map_follows fun _ hm => heading_printersRequest hm).pays fun hd h => by
      rw [List.mem_singleton.mp h]
      exact (by decide : Operation.cupsGetPrinters.code ≠ Operation.cupsGetDefault.code)

theorem snapshot_pays : Pays c.snapshot := by
  have hjobs : ∀ hd ∈ jobsPlan c, hd.code ≠ Operation.cupsGetDefault.code := fun hd h => by
    have hcode : hd.code ∈ [Operation.getJobs.code] :=
      (ClientMethod.plan_codes (.jobs .notCompleted)).subset (List.mem_map_of_mem h)
    rw [List.mem_singleton.mp hcode]
    decide
  exact (printers_pays c).bind fun _ =>
    ((jobs_follows c _).pays hjobs).bind fun _ => Act.Pays.pure _

omit [IppCrate] [LawfulIppCrate] in
/-- No other method asks for the default printer. -/
theorem codes_quiet {call : Call} (h : call ≠ .client .defaultPrinter)
    (h' : call ≠ .client .printers) :
    ∀ code ∈ call.codes, code ≠ Operation.cupsGetDefault.code := by
  refine Call.forall_codes (fun call => call ≠ .client .defaultPrinter ∧ call ≠ .client .printers)
    (fun m h => ?_) (fun uri m _ => ?_) (fun uri id closed m _ => ?_) ⟨h, h'⟩
  · cases m <;> first | rfl | exact absurd rfl h.1 | exact absurd rfl h.2
  · cases m <;> rfl
  · cases m <;> rfl

theorem Call.run_pays (call : Call) : Pays (call.run c) := by
  by_cases hd : call = .client .defaultPrinter
  · subst hd
    exact (defaultPrinter_pays c).void
  by_cases hp : call = .client .printers
  · subst hp
    exact (printers_pays c).void
  refine (call.run_follows c).pays fun heading h => codes_quiet hd hp _ ?_
  exact call.plan_codes.subset (List.mem_map_of_mem h)

/-! ## One step of a session -/

variable {c} in
/-- The cost of a poll: the cache may be dropped first. -/
theorem polled_pays (s : Session) (w : World) (stream : Nat) :
    (s.polled c w stream).trace.countP asksDefault + credit (s.polled c w stream).cell ≤
      credit s.cell + startsOver (s.streams stream) := by
  unfold Session.polled startsOver
  rw [IppClient.poll_apply]
  have hp := snapshot_pays c w s.past
  split
  · have hone := (hp none).trans (credit_le none)
    omega
  · exact hp s.cell

omit [IppCrate] [LawfulIppCrate] in
/-- The printers of a list are flagged by the default printer that it was decoded with. -/
theorem decodePrinters_flag {resp : IppRequestResponse} {d : Option String} {p : Printer}
    (h : p ∈ decodePrinters resp d) : p.isDefault = (d == some p.name) := by
  obtain ⟨group, -, hg⟩ := List.mem_filterMap.mp h
  obtain ⟨printer, -, rfl⟩ := Option.map_eq_some_iff.mp hg
  rfl

omit [LawfulIppCrate] in
theorem printers_flag {c : IppClient} {d : Option String} {w : World}
    {past : List (Exchange Post Reply)} {printers : List Printer}
    (h : (c.printers w past (some d)).result = .ok printers) :
    ∀ p ∈ printers, p.isDefault = (d == some p.name) := by
  rcases hr : c.printers w past (some d) with ⟨r, t, cell'⟩
  rw [hr] at h
  cases h
  obtain ⟨default, t₀, m, resp, hd, -, -, rfl⟩ := c.printers_ok hr
  rw [IppClient.defaultPrinter_hit] at hd
  cases hd
  exact fun p hp => decodePrinters_flag hp

/-! ## The default printer stays -/

/-- The client goes by the default printer `d`, and has not asked for it since `before`. -/
structure Settled (c : IppClient) (d : Option String) (before s : Session) : Prop where
  unasked : Session.Since (fun e => asksDefault e = false) before s
  default : ∀ w, c.defaultPrinter w s.past s.cell = ⟨.ok d, [], some d⟩
  printers : ∀ w printers, (c.printers w s.past s.cell).result = .ok printers →
    ∀ p ∈ printers, p.isDefault = (d == some p.name)
  polls : ∀ w stream snapshot, ¬ Resynchronises s (.poll w stream) →
    (s.polled c w stream).result = .ok snapshot →
      ∀ p ∈ snapshot.printers, p.isDefault = (d == some p.name)

/-- What carries it along a run: the cache holds `d`. -/
structure Holds (d : Option String) (before s : Session) : Prop where
  cell : s.cell = some d
  unasked : Session.Since (fun e => asksDefault e = false) before s

section Stays

variable {c} {d : Option String} {before s s' : Session}

omit [LawfulIppCrate] in
theorem polled_quiet {w : World} {stream : Nat} (h : ¬ Resynchronises s (.poll w stream)) :
    s.polled c w stream = c.snapshot w s.past s.cell := by
  have hsome : (s.streams stream).previous.isNone = false := Bool.eq_false_of_not_eq_true h
  unfold Session.polled
  rw [IppClient.poll_apply, hsome]
  rfl

omit [LawfulIppCrate] in
theorem Holds.settled (h : Holds d before s) : Settled c d before s where
  unasked := h.unasked
  default w := by rw [h.cell, IppClient.defaultPrinter_hit]
  printers w printers hp := by
    rw [h.cell] at hp
    exact printers_flag hp
  polls w stream snapshot hq hp := by
    rw [polled_quiet hq, h.cell] at hp
    rcases hr : c.snapshot w s.past (some d) with ⟨r, t, cell'⟩
    rw [hr] at hp
    cases hp
    obtain ⟨t₁, c₁, t₂, hprinters, -, -⟩ := c.snapshot_ok hr
    exact printers_flag (by rw [hprinters])

omit [IppCrate] [LawfulIppCrate] in
/-- What a run that pays and follows a plan does to a filled cache: nothing, unasked. -/
theorem Holds.ran {α : Type} {x : Net α} {plan : List Heading} {w : World}
    {streams : Nat → EventLoop} (h : Holds d before s) (hx : Pays x) (hf : Follows plan x) :
    Holds d before
      { past := s.past ++ (x w s.past s.cell).trace
        cell := (x w s.past s.cell).cell
        streams } := by
  have hcell : (x w s.past s.cell).cell = s.cell := hf.keeps w _ _ (by rw [h.cell]; rfl)
  have hpay := hx w s.past s.cell
  rw [hcell, h.cell] at hpay
  have hnone : (x w s.past s.cell).trace.countP asksDefault = 0 := by
    rw [h.cell]
    exact Nat.le_zero.mp hpay
  have hquiet : ∀ e ∈ (x w s.past s.cell).trace, asksDefault e = false := fun e he =>
    Bool.eq_false_of_not_eq_true (List.countP_eq_zero.mp hnone e he)
  exact ⟨hcell.trans h.cell, h.unasked.append hquiet rfl⟩

theorem Holds.step {l : SessionStep} (h : Holds d before s) (hl : ¬ Resynchronises s l)
    (hs : (sessions c).step s l = some s') : Holds d before s' := by
  cases l with
  | call w call =>
    cases hs
    exact h.ran (call.run_pays c) (call.run_follows c)
  | poll w stream =>
    obtain ⟨next, -, rfl⟩ := afterPoll_cases hs
    rw [polled_quiet hl]
    exact h.ran (snapshot_pays c) (snapshot_follows c)

end Stays

/-- **The default printer stays.** From any state in which the cache holds `d`, along any calls and
polls, one after another, that do not resynchronise: `default_printer` returns `d` without asking, the server gets
no `CUPS-Get-Default`, and every list of printers and every snapshot flags the queue `d` and no
other as the default. -/
theorem default_stays (d : Option String) (s : Session) (ls : List SessionStep)
    (hd : s.cell = some d)
    (hquiet : (sessions c).Meets (fun s l => ¬ Resynchronises s l) s ls) :
    (sessions c).Throughout (Settled c d s) s ls := by
  have hstart : Holds d s s := ⟨hd, .refl _ s⟩
  exact (Sys.throughout_of_meets (fun _ _ _ h hl hs => h.step hl hs) hstart hquiet).imp
    fun _ h => h.settled

/-! ## How often the server is asked -/

/-- The poll fails. -/
def PollFails (s : Session) : SessionStep → Prop
  | .call _ _ => False
  | .poll w stream => (s.polled c w stream).result.toOption.isNone = true

instance (s : Session) : (l : SessionStep) → Decidable (PollFails c s l)
  | .call _ _ => inferInstanceAs (Decidable False)
  | .poll w stream =>
    inferInstanceAs (Decidable ((s.polled c w stream).result.toOption.isNone = true))

/-- The questions so far, and those that the cache and the streams below `n` can still cost. -/
def Session.cost (n : Nat) (s : Session) : Nat :=
  s.asked + credit s.cell + waiting s.streams n

/-- **The step.** Only a poll that fails raises the cost. -/
theorem cost_step {n : Nat} {l : SessionStep} (hn : ∀ w i, l = .poll w i → i < n) {s s' : Session}
    (h : (sessions c).step s l = some s') :
    s'.cost n ≤ s.cost n + if PollFails c s l then 1 else 0 := by
  cases l with
  | call w call =>
    cases h
    have hpay := call.run_pays c w s.past s.cell
    simp only [Session.cost, Session.asked, Session.afterCall, List.countP_append, PollFails]
    omega
  | poll w stream =>
    obtain ⟨next, hnext, rfl⟩ := afterPoll_cases h
    have hpay := polled_pays (c := c) s w stream
    have hw := waiting_update s.streams next stream n
    rw [if_pos (hn w stream rfl), if_pos (hn w stream rfl)] at hw
    have hover : startsOver next = if PollFails c s (.poll w stream) then 1 else 0 := by
      unfold startsOver
      rw [hnext]
      rfl
    simp only [Session.cost, Session.asked, List.countP_append]
    omega

/-- **The server is asked rarely.** However many calls are made and however often the streams are
polled, one after another, an application with `n` event streams sends `CUPS-Get-Default` at most `n + 1` times, and
once more for each poll that failed. -/
theorem default_asked_rarely (n : Nat) (ls : List SessionStep)
    (hn : ∀ w i, SessionStep.poll w i ∈ ls → i < n) (s : Session)
    (h : (sessions c).exec .start ls = some s) :
    s.asked ≤ n + 1 + (sessions c).tally (PollFails c) .start ls := by
  have hcost : s.cost n ≤ Session.start.cost n + (sessions c).tally (PollFails c) .start ls :=
    Sys.exec_le_tally (fun l hl u u' hu =>
      cost_step c (fun w i hi => hn w i (hi ▸ hl)) hu) h
  have hstart : Session.start.cost n = 1 + n := congrArg (1 + ·) (waiting_start n)
  have hasked : s.asked ≤ s.cost n := Nat.le_add_right_of_le (Nat.le_add_right _ _)
  omega

end Rules

/-! ## Two sessions -/

section Reference

attribute [local instance] Reference.crate

/-- A stream that has an empty snapshot, and a cache that holds `HP`. -/
def resolvedSession : Session where
  past := []
  cell := some (some "HP")
  streams _ := { previous := some ⟨[], []⟩, backoff := .zero }

/-- Listing the printers and then polling does not ask for the default again. -/
theorem default_stays_polled :
    (sessions localClient).Throughout (Settled localClient (some "HP") resolvedSession)
      resolvedSession [.call unwilling (.client .printers), .poll unwilling 0] := by
  have := Reference.lawful
  refine default_stays localClient (some "HP") resolvedSession _ rfl ⟨id, fun s hs => ?_⟩
  cases hs
  exact ⟨nofun, fun _ _ => trivial⟩

/-- One stream on a server that refuses everything: two polls fail, and two questions are asked. -/
theorem default_asked_rarely_refused :
    ∃ s, (sessions localClient).exec .start [.poll unwilling 0, .poll unwilling 0] = some s ∧
      s.asked ≤ 1 + 1 + (sessions localClient).tally (PollFails localClient) .start
        [.poll unwilling 0, .poll unwilling 0] := by
  have := Reference.lawful
  refine ⟨_, rfl, default_asked_rarely localClient 1 _ (fun w i h => ?_) _ rfl⟩
  simp only [List.mem_cons, SessionStep.poll.injEq, List.not_mem_nil, or_false, or_self] at h
  omega

end Reference

end Ipp
