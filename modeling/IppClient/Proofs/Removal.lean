import IppClient.Client.Poll

/-!
# When a removal event is true

The decoders reject a group whose state they do not know, the lists skip what does not decode, and
`Snapshot.diff` reads what is missing as gone. So a queue or job that the server still lists is
reported as removed when its group stops being readable.

* `Poll.printerGroups`, `Poll.jobGroups`: what the server listed in one poll.
* `Poll.mem_printers`, `Poll.mem_jobs`: the names and ids of a successful poll's snapshot are those
  of the readable groups (`Printer.Reads`, `Job.Reads`).
* `removal_truthful_iff`: **the removals of a poll are true exactly when every queue and job that
  the poll before it read, and that is still listed, is still readable.**
-/

namespace Ipp

open Base

section

variable [IppCrate]

/-- The groups with this tag in the answers to the requests of one operation. -/
def answered (op : Operation) (tag : DelimiterTag) (t : List (Exchange Post Reply)) :
    List IppAttributeGroup :=
  t.flatMap fun e =>
    if e.call.request.operationOrStatus = op.code then
      match e.reply with
      | .ok resp => resp.groupsOf tag
      | .error _ => []
    else []

/-- The printer groups the poll's `CUPS-Get-Printers` reply carries. -/
def Poll.printerGroups (p : Poll) : List IppAttributeGroup :=
  answered .cupsGetPrinters .printerAttributes p.trace

/-- The job groups the poll's `Get-Jobs` reply carries. -/
def Poll.jobGroups (p : Poll) : List IppAttributeGroup :=
  answered .getJobs .jobAttributes p.trace

/-- Nothing that the poll's replies still list is reported as gone. -/
structure Poll.RemovesTruthfully (p : Poll) : Prop where
  printers : ∀ n, .ok (.printerRemoved n) ∈ p.turn.items →
    ∀ g ∈ p.printerGroups, Attrs.text ⟨g⟩ "printer-name" ≠ some n
  jobs : ∀ id, .ok (.jobRemoved id) ∈ p.turn.items →
    ∀ g ∈ p.jobGroups, Attrs.int ⟨g⟩ "job-id" ≠ some id

/-- What the first poll could read and the second still lists, the second can read. -/
structure StaysReadable (p p' : Poll) : Prop where
  printers : ∀ n, (∃ g ∈ p.printerGroups, Printer.Reads g n) →
    (∃ g ∈ p'.printerGroups, Attrs.text ⟨g⟩ "printer-name" = some n) →
    ∃ g ∈ p'.printerGroups, Printer.Reads g n
  jobs : ∀ id, (∃ g ∈ p.jobGroups, Job.Reads g id) →
    (∃ g ∈ p'.jobGroups, Attrs.int ⟨g⟩ "job-id" = some id) →
    ∃ g ∈ p'.jobGroups, Job.Reads g id

/-! ## The snapshot of a successful poll -/

section Answered

variable {op : Operation} {tag : DelimiterTag} {t t' : List (Exchange Post Reply)}

omit [IppCrate] in
theorem answered_append : answered op tag (t ++ t') = answered op tag t ++ answered op tag t' :=
  List.flatMap_append

omit [IppCrate] in
/-- Exchanges of other operations answer nothing. -/
theorem answered_other (h : ∀ e ∈ t, e.call.request.operationOrStatus ≠ op.code) :
    answered op tag t = [] := by
  rw [answered, List.flatMap_eq_nil_iff]
  intro e he
  rw [if_neg (h e he)]

omit [IppCrate] in
theorem answered_singleton {post : Post} {resp : IppRequestResponse}
    (h : post.request.operationOrStatus = op.code) :
    answered op tag [⟨post, .ok resp⟩] = resp.groupsOf tag := by
  rw [answered, List.flatMap_cons, if_pos h, List.flatMap_nil, List.append_nil]

end Answered

omit [IppCrate] in
theorem mem_decodePrinters {resp : IppRequestResponse} {default : Option String} {n : String} :
    n ∈ (decodePrinters resp default).map Printer.name ↔
      ∃ g ∈ resp.groupsOf .printerAttributes, Printer.Reads g n := by
  simp only [decodePrinters, List.mem_map, List.mem_filterMap, Option.map_eq_some_iff,
    decoded_eq_some, ← Printer.exists_decode_iff]
  constructor
  · rintro ⟨_, ⟨g, hg, p, hp, rfl⟩, hn⟩
    exact ⟨g, hg, p, hp, hn⟩
  · rintro ⟨g, hg, p, hp, hn⟩
    exact ⟨_, ⟨g, hg, p, hp, rfl⟩, hn⟩

omit [IppCrate] in
theorem mem_decodeJobs {resp : IppRequestResponse} {id : JobId} :
    id ∈ (decodeJobs resp).map Job.id ↔ ∃ g ∈ resp.groupsOf .jobAttributes, Job.Reads g id := by
  simp only [decodeJobs, List.mem_map, List.mem_filterMap, decoded_eq_some,
    ← Job.exists_decode_iff]
  constructor
  · rintro ⟨j, ⟨g, hg, hj⟩, hid⟩
    exact ⟨g, hg, j, hj, hid⟩
  · rintro ⟨g, hg, j, hj, hid⟩
    exact ⟨j, ⟨g, hg, hj⟩, hid⟩

variable [LawfulIppCrate] {c : IppClient} {l : EventLoop} {past : List (Exchange Post Reply)}
  {cell : Cache} {ws : List World} {p p' : Poll} {s s' : Snapshot}

/-- The two replies of a successful poll: its groups are theirs, and so is its snapshot. -/
theorem Poll.replies (hp : p ∈ c.events l past cell ws) (hs : p.outcome = .ok s) :
    ∃ printers default jobs, p.printerGroups = printers.groupsOf .printerAttributes ∧
      p.jobGroups = jobs.groupsOf .jobAttributes ∧
      s = ⟨decodePrinters printers default, decodeJobs jobs⟩ := by
  obtain ⟨l', w, past', cell', ht, ho⟩ := c.events_poll hp
  rw [c.poll_apply] at ht ho
  rcases hr : c.snapshot w past' (if l'.previous.isNone then none else cell') with ⟨r, t, c'⟩
  rw [hr] at ht ho
  rw [hs] at ho
  cases ho
  obtain ⟨t₁, c₁, t₂, hprinters, hjobs, rfl⟩ := c.snapshot_ok hr
  obtain ⟨default, t₀, m, resp, hd, hm, rfl, hps⟩ := c.printers_ok hprinters
  obtain ⟨m', resp', hm', rfl, hjs⟩ := c.jobs_ok hjobs
  have hc := (printersRequest_ok hm).1
  have hc' : m'.operationOrStatus = Operation.getJobs.code := by
    obtain ⟨⟨root, hf⟩, -⟩ := jobsRequest_ok hm'
    exact hf.code
  -- The exchanges before the two lists are about the default printer.
  have h₀ : ∀ e ∈ t₀, e.call.request.operationOrStatus = Operation.cupsGetDefault.code := by
    have hemits : Act.Emits
        (fun e => e.call.request.operationOrStatus = Operation.cupsGetDefault.code)
        c.defaultPrinter := c.defaultPrinter_emits fun _ hm _ => getDefaultRequest_code hm
    intro e he
    exact hemits _ _ _ e (by rw [hd]; exact he)
  have hpr : answered .cupsGetPrinters .printerAttributes t₀ = [] :=
    answered_other fun e he => by rw [h₀ e he]; decide
  have hjb : answered .getJobs .jobAttributes t₀ = [] :=
    answered_other fun e he => by rw [h₀ e he]; decide
  have hpj : answered .cupsGetPrinters .printerAttributes
      [⟨⟨c.inner.uri, m'⟩, .ok resp'⟩] = [] := answered_other (by simp [hc']; decide)
  have hjp : answered .getJobs .jobAttributes [⟨⟨c.inner.uri, m⟩, .ok resp⟩] = [] :=
    answered_other (by simp [hc]; decide)
  refine ⟨resp, default, resp', ?_, ?_, ?_⟩
  · rw [printerGroups, ht, answered_append, answered_append, hpr, hpj, List.nil_append,
      List.append_nil]
    exact answered_singleton hc
  · rw [jobGroups, ht, answered_append, answered_append, hjb, hjp, List.nil_append,
      List.nil_append]
    exact answered_singleton hc'
  · rw [← hps, ← hjs]

/-- The names in the snapshot of a successful poll are those of its readable groups. -/
theorem Poll.mem_printers (hp : p ∈ c.events l past cell ws) (hs : p.outcome = .ok s)
    {n : String} :
    n ∈ s.printers.map Printer.name ↔ ∃ g ∈ p.printerGroups, Printer.Reads g n := by
  obtain ⟨printers, default, jobs, hg, -, rfl⟩ := Poll.replies hp hs
  rw [hg, mem_decodePrinters]

/-- The ids in the snapshot of a successful poll are those of its readable groups. -/
theorem Poll.mem_jobs (hp : p ∈ c.events l past cell ws) (hs : p.outcome = .ok s) {id : JobId} :
    id ∈ s.jobs.map Job.id ↔ ∃ g ∈ p.jobGroups, Job.Reads g id := by
  obtain ⟨printers, default, jobs, -, hg, rfl⟩ := Poll.replies hp hs
  rw [hg, mem_decodeJobs]

omit [LawfulIppCrate] in
/-- The items of a successful poll right after a successful poll. -/
theorem Poll.items_diff {i : Nat} (hp : (c.events l past cell ws)[i]? = some p)
    (hp' : (c.events l past cell ws)[i + 1]? = some p') (hs : p.outcome = .ok s)
    (hs' : p'.outcome = .ok s') : p'.turn.items = (s.diff s').map .ok := by
  obtain ⟨l', hl, ht⟩ := c.events_consecutive hp hp' hs
  rw [ht, hs', EventLoop.turn, hl]

/-- **When removals are true.** Of two consecutive successful polls of a stream, whatever the
server answered: the second reports only what it no longer lists, exactly when what the first
could read and the second still lists stays readable. -/
theorem removal_truthful_iff {i : Nat} (hp : (c.events l past cell ws)[i]? = some p)
    (hp' : (c.events l past cell ws)[i + 1]? = some p') (hs : p.outcome = .ok s)
    (hs' : p'.outcome = .ok s') : p'.RemovesTruthfully ↔ StaysReadable p p' := by
  have hmem := List.mem_of_getElem? hp
  have hmem' := List.mem_of_getElem? hp'
  have hitems := Poll.items_diff hp hp' hs hs'
  have hprinter : ∀ n, .ok (.printerRemoved n) ∈ p'.turn.items ↔
      (∃ g ∈ p.printerGroups, Printer.Reads g n) ∧ ¬ ∃ g ∈ p'.printerGroups, Printer.Reads g n := by
    intro n
    rw [hitems, List.mem_map_of_injective (fun _ _ h => Except.ok.inj h),
      Snapshot.mem_diff_printerRemoved, Poll.mem_printers hmem hs, Poll.mem_printers hmem' hs']
  have hjob : ∀ id, .ok (.jobRemoved id) ∈ p'.turn.items ↔
      (∃ g ∈ p.jobGroups, Job.Reads g id) ∧ ¬ ∃ g ∈ p'.jobGroups, Job.Reads g id := by
    intro id
    rw [hitems, List.mem_map_of_injective (fun _ _ h => Except.ok.inj h),
      Snapshot.mem_diff_jobRemoved, Poll.mem_jobs hmem hs, Poll.mem_jobs hmem' hs']
  constructor
  · intro h
    refine ⟨fun n hr hl => ?_, fun id hr hl => ?_⟩
    · by_contra hn
      obtain ⟨g, hg, ht⟩ := hl
      exact h.printers n ((hprinter n).mpr ⟨hr, hn⟩) g hg ht
    · by_contra hn
      obtain ⟨g, hg, ht⟩ := hl
      exact h.jobs id ((hjob id).mpr ⟨hr, hn⟩) g hg ht
  · intro h
    refine ⟨fun n hn g hg ht => ?_, fun id hid g hg ht => ?_⟩
    · obtain ⟨hr, hr'⟩ := (hprinter n).mp hn
      exact hr' (h.printers n hr ⟨g, hg, ht⟩)
    · obtain ⟨hr, hr'⟩ := (hjob id).mp hid
      exact hr' (h.jobs id hr ⟨g, hg, ht⟩)

end

/-! ## A queue that goes into a state the decoder does not know -/

section Reference

attribute [local instance] Reference.crate

/-- A server with the one queue `HP`, in the given state, and no jobs. -/
def oneQueue (state : Int32) : World :=
  .answering fun op =>
    if op = Operation.cupsGetPrinters.code then
      accepted [⟨.printerAttributes,
        [⟨"printer-name", .nameWithoutLanguage "HP"⟩, ⟨"printer-state", .enum state⟩]⟩]
    else if op = Operation.getJobs.code then accepted []
    else refused

/-- The polls of a stream while the queue `HP` is idle, and then in state 6. -/
def strangeState : List Poll := localClient.events .start [] none [oneQueue 3, oneQueue 6]

/-- The same while it is idle, and then printing. -/
def startsPrinting : List Poll := localClient.events .start [] none [oneQueue 3, oneQueue 4]

/-- The queue in state 6 is still listed, and it is reported as removed. -/
theorem strangeState_reports_removal :
    ¬ ∀ (c : IppClient) (l : EventLoop) (past : List (Exchange Post Reply)) (cell : Cache)
      (ws : List World) (i : Nat) (p p' : Poll) (s s' : Snapshot),
      (c.events l past cell ws)[i]? = some p → (c.events l past cell ws)[i + 1]? = some p' →
      p.outcome = .ok s → p'.outcome = .ok s' → p'.RemovesTruthfully := by
  intro h
  obtain ⟨p, hp⟩ : ∃ p, strangeState[0]? = some p := ⟨_, rfl⟩
  obtain ⟨p', hp'⟩ : ∃ p', strangeState[1]? = some p' := ⟨_, rfl⟩
  obtain ⟨s, hs⟩ : ∃ s, p.outcome = .ok s := by
    cases hp
    exact ⟨_, rfl⟩
  obtain ⟨s', hs'⟩ : ∃ s', p'.outcome = .ok s' := by
    cases hp'
    exact ⟨_, rfl⟩
  have ht := h _ _ _ _ _ 0 p p' s s' hp hp' hs hs'
  cases hp'
  exact ht.printers "HP" (by decide) _ (List.mem_singleton.mpr rfl) rfl

theorem removal_truthful_iff_startsPrinting :
    ∃ p p', startsPrinting[0]? = some p ∧ startsPrinting[1]? = some p' ∧
      (p'.RemovesTruthfully ↔ StaysReadable p p') := by
  obtain ⟨p, hp⟩ : ∃ p, startsPrinting[0]? = some p := ⟨_, rfl⟩
  obtain ⟨p', hp'⟩ : ∃ p', startsPrinting[1]? = some p' := ⟨_, rfl⟩
  obtain ⟨s, hs⟩ : ∃ s, p.outcome = .ok s := by
    cases hp
    exact ⟨_, rfl⟩
  obtain ⟨s', hs'⟩ : ∃ s', p'.outcome = .ok s' := by
    cases hp'
    exact ⟨_, rfl⟩
  have := Reference.lawful
  exact ⟨p, p', hp, hp', removal_truthful_iff hp hp' hs hs'⟩

end Reference

end Ipp
