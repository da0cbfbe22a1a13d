import IppClient.Client.Daemon

/-!
# Which groups the decoders keep

The list decoders skip a group that does not decode. `KeepsEvery` says which groups those are, by
the two attributes a decoder requires, and that the entries of a list do not depend on each other.
`IppClient::job` takes the first entry of such a list, and so reads a job it cannot decode as gone.

* `IppValue.isTextLike`, `IppValue.isNumber`: what the required attributes may be.
* `Printer.acceptable_iff`, `Job.acceptable_iff`: a group decodes exactly when those fit.
* `lists_keepEvery`: **no attribute but the required ones drops an entry, and no group changes the
  entry of another.**
* `IppClient.job_replied`: what `job` makes of a response.
* `job_answer_iff`: **`job` tells a job that is gone from one that is there exactly when the first
  job group is readable.**
-/

namespace Ipp

open Base

namespace IppValue

/-- The values that carry a text. -/
def isTextLike : IppValue → Bool
  | .textWithoutLanguage _ => true
  | .nameWithoutLanguage _ => true
  | .textWithLanguage _ _ => true
  | .nameWithLanguage _ _ => true
  | .keyword _ => true
  | .uri _ => true
  | .mimeMediaType _ => true
  | _ => false

/-- An integer or enum value that satisfies `p`. -/
def isNumber (p : Int32 → Bool) : IppValue → Bool
  | .integer v => p v
  | .enum v => p v
  | _ => false

end IppValue

/-- The required attributes of a printer group: a text-like name, and a state from 3 to 5. -/
def Printer.acceptable (group : IppAttributeGroup) : Bool :=
  (Attrs.value ⟨group⟩ "printer-name").any IppValue.isTextLike &&
    (Attrs.value ⟨group⟩ "printer-state").any (IppValue.isNumber fun v => 3 ≤ v && v ≤ 5)

/-- The required attributes of a job group: a number as id, and a state from 3 to 9. -/
def Job.acceptable (group : IppAttributeGroup) : Bool :=
  (Attrs.value ⟨group⟩ "job-id").any (IppValue.isNumber fun _ => true) &&
    (Attrs.value ⟨group⟩ "job-state").any (IppValue.isNumber fun v => 3 ≤ v && v ≤ 9)

/-- The entry of `decode_printers` for a group: the printer, marked if it is the default. -/
def Printer.decodeMarked (default : Option String) (group : IppAttributeGroup) :
    Except Error Printer :=
  (Printer.decode group).map fun p => { p with isDefault := default == some p.name }

/-- A list of a response has an entry for each acceptable group, which depends on nothing else. -/
structure KeepsEvery {α : Type} (tag : DelimiterTag) (acceptable : IppAttributeGroup → Bool)
    (required : List String) (decode : IppAttributeGroup → Except Error α)
    (list : IppRequestResponse → List α) : Prop where
  /-- In the order of the groups, one entry for each acceptable group and no others. -/
  entries : ∀ resp, List.Forall₂ (fun group entry => decode group = .ok entry)
    ((resp.groupsOf tag).filter acceptable) (list resp)
  /-- Whatever the other attributes become, the group keeps an entry. -/
  required_only : ∀ group group', Attrs.Agree required ⟨group⟩ ⟨group'⟩ →
    (∃ entry, decode group = .ok entry) → ∃ entry, decode group' = .ok entry
  /-- A group is responsible for its own entry, whatever is in it, and for no other. -/
  own_entry : ∀ status payload before group after,
    list ⟨status, before ++ group :: after, payload⟩ =
      list ⟨status, before, payload⟩ ++
        (if group.tag = tag then (decode group).toOption.toList else []) ++
        list ⟨status, after, payload⟩

/-! ## The required attributes -/

namespace IppValue

variable {value : IppValue}

theorem isTextLike_iff : value.isTextLike = true ↔ ∃ text, Attrs.asText value = some text := by
  cases value <;> simp [isTextLike, Attrs.asText]

theorem isNumber_iff {p : Int32 → Bool} :
    value.isNumber p = true ↔ ∃ v, Attrs.asInt value = some v ∧ p v = true := by
  cases value <;> simp [isNumber, Attrs.asInt]

end IppValue

namespace Attrs

variable {a : Attrs} {name : String}

theorem any_isTextLike :
    (a.value name).any IppValue.isTextLike = true ↔ ∃ text, a.text name = some text := by
  simp only [Option.any_eq_true, IppValue.isTextLike_iff, text, Option.bind_eq_some_iff]
  constructor
  · rintro ⟨v, h, t, ht⟩
    exact ⟨t, v, h, ht⟩
  · rintro ⟨t, v, h, ht⟩
    exact ⟨v, h, t, ht⟩

theorem any_isNumber {p : Int32 → Bool} :
    (a.value name).any (IppValue.isNumber p) = true ↔ ∃ v, a.int name = some v ∧ p v = true := by
  simp only [Option.any_eq_true, IppValue.isNumber_iff, int, Option.bind_eq_some_iff]
  constructor
  · rintro ⟨x, h, v, hv, hp⟩
    exact ⟨v, ⟨x, h, hv⟩, hp⟩
  · rintro ⟨v, ⟨x, h, hv⟩, hp⟩
    exact ⟨x, h, v, hv, hp⟩

end Attrs

theorem PrinterState.known_iff_range {v : Int32} :
    PrinterState.Known v ↔ (3 ≤ v && v ≤ 5) = true := by
  simp only [PrinterState.Known, Bool.and_eq_true, decide_eq_true_eq, Int32.le_iff_toInt_le,
    ← Int32.toInt_inj]
  have h3 : (3 : Int32).toInt = 3 := rfl
  have h4 : (4 : Int32).toInt = 4 := rfl
  have h5 : (5 : Int32).toInt = 5 := rfl
  omega

theorem JobState.known_iff_range {v : Int32} :
    JobState.Known v ↔ (3 ≤ v && v ≤ 9) = true := by
  simp only [JobState.Known, Bool.and_eq_true, decide_eq_true_eq, Int32.le_iff_toInt_le,
    ← Int32.toInt_inj]
  have h3 : (3 : Int32).toInt = 3 := rfl
  have h4 : (4 : Int32).toInt = 4 := rfl
  have h5 : (5 : Int32).toInt = 5 := rfl
  have h6 : (6 : Int32).toInt = 6 := rfl
  have h7 : (7 : Int32).toInt = 7 := rfl
  have h8 : (8 : Int32).toInt = 8 := rfl
  have h9 : (9 : Int32).toInt = 9 := rfl
  omega

/-- A printer group decodes exactly when its name and its state fit. -/
theorem Printer.acceptable_iff {group : IppAttributeGroup} :
    Printer.acceptable group = true ↔ ∃ p, Printer.decode group = .ok p := by
  have h : (∃ p, Printer.decode group = .ok p) ↔ ∃ n, Printer.Reads group n := by
    simp only [← Printer.exists_decode_iff]
    constructor
    · rintro ⟨p, hp⟩
      exact ⟨p.name, p, hp, rfl⟩
    · rintro ⟨_, p, hp, -⟩
      exact ⟨p, hp⟩
  rw [h, Printer.acceptable, Bool.and_eq_true, Attrs.any_isTextLike, Attrs.any_isNumber]
  simp only [Printer.Reads, PrinterState.known_iff_range, exists_and_right]

/-- A job group decodes exactly when its id and its state fit. -/
theorem Job.acceptable_iff {group : IppAttributeGroup} :
    Job.acceptable group = true ↔ ∃ j, Job.decode group = .ok j := by
  have h : (∃ j, Job.decode group = .ok j) ↔ ∃ i, Job.Reads group i := by
    simp only [← Job.exists_decode_iff]
    constructor
    · rintro ⟨j, hj⟩
      exact ⟨j.id, j, hj, rfl⟩
    · rintro ⟨_, j, hj, -⟩
      exact ⟨j, hj⟩
  rw [h, Job.acceptable, Bool.and_eq_true, Attrs.any_isNumber, Attrs.any_isNumber]
  simp only [Job.Reads, JobState.known_iff_range, exists_and_right, and_true]

/-! ## The lists -/

section Lists

variable {α : Type} {tag : DelimiterTag} {acceptable : IppAttributeGroup → Bool}
  {required : List String} {decode : IppAttributeGroup → Except Error α}

theorem decoded_eq_toOption (group : IppAttributeGroup) :
    decoded decode group = (decode group).toOption := by
  unfold decoded
  cases decode group <;> rfl

/-- What decodes of a list of groups, beside the groups that can. -/
theorem forall₂_filterMap_decoded
    (h : ∀ group, acceptable group = true ↔ ∃ entry, decode group = .ok entry)
    (groups : List IppAttributeGroup) :
    List.Forall₂ (fun group entry => decode group = .ok entry) (groups.filter acceptable)
      (groups.filterMap (decoded decode)) := by
  induction groups with
  | nil => exact .nil
  | cons group groups ih =>
    cases hd : decode group with
    | ok entry =>
      have hdec : decoded decode group = some entry := decoded_eq_some.mpr hd
      rw [List.filter_cons_of_pos ((h group).mpr ⟨entry, hd⟩), List.filterMap_cons_some hdec]
      exact .cons hd ih
    | error e =>
      have hdec : decoded decode group = none := by rw [decoded_eq_toOption, hd]; rfl
      have hacc : ¬ acceptable group = true := by
        rw [h group, hd]
        simp
      rw [List.filter_cons_of_neg hacc, List.filterMap_cons_none hdec]
      exact ih

/-- The entry that one group adds to a list. -/
theorem decodeAll_insert (status : Int16) (payload : Payload)
    (before : List IppAttributeGroup) (group : IppAttributeGroup)
    (after : List IppAttributeGroup) :
    decodeAll ⟨status, before ++ group :: after, payload⟩ tag decode =
      decodeAll ⟨status, before, payload⟩ tag decode ++
        (if group.tag = tag then (decode group).toOption.toList else []) ++
        decodeAll ⟨status, after, payload⟩ tag decode := by
  simp only [decodeAll, IppRequestResponse.groupsOf, List.filter_append, List.filter_cons,
    List.filterMap_append, decide_eq_true_eq, List.append_assoc]
  congr 1
  split
  · rw [List.filterMap_cons, decoded_eq_toOption]
    cases (decode group).toOption <;> rfl
  · rfl

/-- A list that skips what does not decode keeps what can be decoded. -/
theorem decodeAll_keepsEvery
    (h : ∀ group, acceptable group = true ↔ ∃ entry, decode group = .ok entry)
    (hr : ∀ group group', Attrs.Agree required ⟨group⟩ ⟨group'⟩ →
      acceptable group = acceptable group') :
    KeepsEvery tag acceptable required decode fun resp => decodeAll resp tag decode where
  entries resp := forall₂_filterMap_decoded h _
  required_only group group' ha he := by
    rw [← h, ← hr group group' ha, h]
    exact he
  own_entry := decodeAll_insert

end Lists

/-- The names of the attributes that `Printer::decode` requires. -/
def Printer.required : List String := ["printer-name", "printer-state"]

/-- The names of the attributes that `Job::decode` requires. -/
def Job.required : List String := ["job-id", "job-state"]

theorem decodePrinters_eq_decodeAll (resp : IppRequestResponse) (default : Option String) :
    decodePrinters resp default =
      decodeAll resp .printerAttributes (Printer.decodeMarked default) := by
  unfold decodePrinters decodeAll
  congr 1
  funext group
  rw [decoded_eq_toOption, decoded_eq_toOption, Printer.decodeMarked]
  cases Printer.decode group <;> rfl

/-- **One bad attribute never blanks a queue.** For every response and every default printer, the
lists hold one printer for each printer group with a text-like name and a known state, and one job
for each job group with an id and a known state, in group order; no other attribute drops one, and
the contents of a group decide its own entry only. -/
theorem lists_keepEvery (default : Option String) :
    KeepsEvery .printerAttributes Printer.acceptable Printer.required
        (Printer.decodeMarked default) (fun resp => decodePrinters resp default) ∧
      KeepsEvery .jobAttributes Job.acceptable Job.required Job.decode decodeJobs := by
  constructor
  · have hd : (fun resp => decodePrinters resp default) = fun resp =>
        decodeAll resp .printerAttributes (Printer.decodeMarked default) :=
      funext fun resp => decodePrinters_eq_decodeAll resp default
    rw [hd]
    refine decodeAll_keepsEvery (fun group => ?_) (fun group group' h => ?_)
    · rw [Printer.acceptable_iff, Printer.decodeMarked]
      cases Printer.decode group <;> simp [Except.map]
    · rw [Printer.acceptable, Printer.acceptable, h "printer-name" (by decide),
        h "printer-state" (by decide)]
  · refine decodeAll_keepsEvery (fun group => Job.acceptable_iff) (fun group group' h => ?_)
    rw [Job.acceptable, Job.acceptable, h "job-id" (by decide), h "job-state" (by decide)]

/-! ## One job -/

/-- What `job` makes of a response. -/
structure JobAnswer [IppCrate] (resp : IppRequestResponse) (result : Except Error (Option Job)) :
    Prop where
  /-- It says that the job is gone exactly when the server does not know it, or answers with
  nothing. -/
  gone : result = .ok none ↔ resp.operationOrStatus = clientErrorNotFound ∨
    IppCrate.isSuccess resp.operationOrStatus = true ∧ resp.groupsOf .jobAttributes = []
  /-- Of a successful answer it returns the first job, or fails. -/
  first : resp.operationOrStatus ≠ clientErrorNotFound →
    IppCrate.isSuccess resp.operationOrStatus = true →
      ∀ group, resp.firstOf .jobAttributes = some group →
        (∃ job, Job.decode group = .ok job ∧ result = .ok (some job)) ∨ ∃ e, result = .error e

section Answer

variable [IppCrate] {c : IppClient} {w : World} {past : List (Exchange Post Reply)} {cell : Cache}
  {printer : String} {id : JobId} {m resp : IppRequestResponse}

/-- `job`, when the server responds. -/
theorem IppClient.job_replied (hm : c.jobRequest printer id = .ok m)
    (hr : (c.exchange w past m).reply = .ok resp) :
    (c.job printer id w past cell).result =
      if resp.operationOrStatus = clientErrorNotFound then .ok none
      else if IppCrate.isSuccess resp.operationOrStatus = true then .ok (decodeJobs resp).head?
      else .error (.ipp "Get-Job-Attributes" (IppCrate.statusText resp.operationOrStatus)) := by
  have hreply : w.reply past ⟨c.inner.uri, m⟩ = .ok resp := hr
  have hp := c.post_apply m w past cell
  rw [hreply] at hp
  unfold job
  rw [Act.ofExcept_ok_bind hm, Act.bind_ok w past cell hp]
  by_cases hn : resp.operationOrStatus = clientErrorNotFound
  · rw [if_pos hn, if_pos hn]
    rfl
  · rw [if_neg hn, if_neg hn, checkStatus]
    split
    · rw [Act.ofExcept_ok_bind rfl]
      rfl
    · rw [Act.ofExcept_error_bind rfl]
      rfl

/-- **When `job` tells "gone" from "there".** For every response to the request of `job`: the
answer is the documented one exactly when the server does not know the job, reports a failure,
lists no job, or lists first a job whose id and state can be read. -/
theorem job_answer_iff (hm : c.jobRequest printer id = .ok m)
    (hr : (c.exchange w past m).reply = .ok resp) :
    JobAnswer resp (c.job printer id w past cell).result ↔
      resp.operationOrStatus = clientErrorNotFound ∨
        IppCrate.isSuccess resp.operationOrStatus = false ∨
        ∀ group, resp.firstOf .jobAttributes = some group → Job.acceptable group = true := by
  rw [IppClient.job_replied hm hr]
  by_cases hn : resp.operationOrStatus = clientErrorNotFound
  · rw [if_pos hn]
    exact iff_of_true ⟨by simp [hn], fun h => absurd hn h⟩ (.inl hn)
  by_cases hs : IppCrate.isSuccess resp.operationOrStatus = true
  · rw [if_neg hn, if_pos hs]
    cases hg : resp.groupsOf .jobAttributes with
    | nil =>
      have hf : resp.firstOf .jobAttributes = none := by rw [IppRequestResponse.firstOf, hg]; rfl
      have hj : decodeJobs resp = [] := by rw [decodeJobs, hg]; rfl
      refine iff_of_true ⟨by simp [hs, hg, hj], ?_⟩ (.inr (.inr ?_))
      · rw [hf]
        exact fun _ _ _ h => by cases h
      · rw [hf]
        exact fun _ h => by cases h
    | cons group groups =>
      have hf : resp.firstOf .jobAttributes = some group := by
        rw [IppRequestResponse.firstOf, hg]
        rfl
      simp only [hn, hs, hf, Option.some.injEq, forall_eq', Job.acceptable_iff, false_or,
        Bool.true_eq_false]
      constructor
      · intro h
        obtain ⟨job, hjob, -⟩ | ⟨e, he⟩ := h.first hn hs group hf
        · exact ⟨job, hjob⟩
        · cases he
      · rintro ⟨job, hjob⟩
        have hj : (decodeJobs resp).head? = some job := by
          rw [decodeJobs, hg, List.filterMap_cons_some (decoded_eq_some.mpr hjob)]
          rfl
        refine ⟨by simp [hn, hg, hj], fun _ _ g h => .inl ?_⟩
        rw [hf] at h
        cases h
        exact ⟨job, hjob, by rw [hj]⟩
  · rw [if_neg hn, if_neg hs]
    refine iff_of_true ⟨by simp [hn, hs], fun _ h => absurd h hs⟩ (.inr (.inl ?_))
    exact Bool.eq_false_iff.mpr hs

end Answer

section Reference

attribute [local instance] Reference.crate

/-- The job 7, in the given state. -/
def jobInState (state : Int32) : IppAttributeGroup :=
  ⟨.jobAttributes, [⟨"job-id", .integer 7⟩, ⟨"job-state", .enum state⟩]⟩

/-- A server that answers every request with the job 7 in the given state. -/
def jobServer (state : Int32) : World := .answering fun _ => accepted [jobInState state]

/-- The server lists the job, in a state the client does not know, and `job` says that it is
gone. -/
theorem strangeJob_reads_as_gone :
    ¬ ∀ (c : IppClient) (w : World) (past : List (Exchange Post Reply)) (cell : Cache)
      (printer : String) (id : JobId) (m resp : IppRequestResponse),
      c.jobRequest printer id = .ok m → (c.exchange w past m).reply = .ok resp →
        JobAnswer resp (c.job printer id w past cell).result := by
  intro h
  obtain ⟨m, hm⟩ : ∃ m, localClient.jobRequest "HP" 7 = .ok m := ⟨_, rfl⟩
  have ha := h localClient (jobServer 99) [] none "HP" 7 m ⟨0, [jobInState 99], []⟩ hm rfl
  rw [IppClient.job_replied hm rfl] at ha
  obtain hn | ⟨-, hg⟩ := ha.gone.mp rfl
  · exact absurd hn (by decide)
  · cases hg

theorem job_answer_iff_completed :
    ∃ m, localClient.jobRequest "HP" 7 = .ok m ∧
      (JobAnswer ⟨0, [jobInState 9], []⟩
          (localClient.job "HP" 7 (jobServer 9) [] none).result ↔
        (0 : Int16) = clientErrorNotFound ∨ IppCrate.isSuccess 0 = false ∨
          ∀ group, (⟨0, [jobInState 9], []⟩ : IppRequestResponse).firstOf .jobAttributes =
            some group → Job.acceptable group = true) := by
  obtain ⟨m, hm⟩ : ∃ m, localClient.jobRequest "HP" 7 = .ok m := ⟨_, rfl⟩
  exact ⟨m, hm, job_answer_iff hm rfl⟩

end Reference

end Ipp
