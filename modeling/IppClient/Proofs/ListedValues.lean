import IppClient.Proofs.Notifications

/-!
# Attributes that list what the caller gives

`subscribe` and `notifications` put a list of the caller's into one attribute of their request, as
an array. In IPP a list of values has one value at least.

* `subscribeRequest_eq`, `notificationsRequest_eq`: both requests are a raw request with
  attributes added, where the keywords fit.
* `exists_listRequest_iff`: when such a request can be built (`CanSend`).
* `listRequest_lists`, `listRequest_valued`: what it has.
* `SendsList`: the request that is sent has values in every attribute, and lists what it was given.
* `lists_have_values_iff`: **a call keeps to that exactly when its list is not empty**, or no
  request with an empty one can be built.
-/

namespace Ipp

open Base

/-- Of the attributes of that name, the message has the one that lists the items, and no other. -/
def IppRequestResponse.Lists (m : IppRequestResponse) (tag : DelimiterTag) (name : String)
    (items : List IppValue) : Prop :=
  ∀ tag' a, a.name = name → (m.Has tag' a ↔ tag' = tag ∧ a.value = .array items)

/-- The call sends one request, with values in every attribute and the items in the one of that
name; or it fails, and sends nothing. -/
inductive SendsList {α : Type} (tag : DelimiterTag) (name : String) (items : List IppValue)
    (ran : Ran Post Reply Cache Error α) : Prop
  | sent {e : Exchange Post Reply} (ht : ran.trace = [e]) (hv : e.call.request.Valued)
    (hl : e.call.request.Lists tag name items)
  | unsent {e : Error} (hr : ran.result = .error e) (ht : ran.trace = [])

/-! ## Adding attributes -/

section Add

variable [IppCrate] {m m' : IppRequestResponse} {tag : DelimiterTag}

theorem exists_addAttribute_iff {name : String} {value : IppValue} :
    (∃ m', addAttribute m tag name value = .ok m') ↔
      ∃ a, IppCrate.withName name value = .ok a := by
  rw [addAttribute, exists_bind_eq_ok]
  simp only [mapError_eq_ok]
  constructor
  · rintro ⟨a, ha, -⟩
    exact ⟨a, ha⟩
  · rintro ⟨a, ha⟩
    exact ⟨a, ha, _, rfl⟩

theorem exists_bounded_iff {kind : StringKind} {mk : String → IppValue}
    {text name detail : String} :
    (∃ v, bounded kind mk text name detail = .ok v) ↔ IppCrate.fits kind text = true := by
  unfold bounded
  split
  · rename_i h
    exact iff_of_true ⟨_, rfl⟩ h
  · rename_i h
    simp [h]

theorem addAll_cons (v : String × IppValue) (attributes : NamedValues) :
    addAll m tag (v :: attributes) =
      addAttribute m tag v.1 v.2 >>= fun m => addAll m tag attributes := rfl

/-- Attributes can be added where each of them can be named. -/
theorem exists_addAll_iff {attributes : NamedValues} :
    (∃ m', addAll m tag attributes = .ok m') ↔
      ∀ v ∈ attributes, ∃ a, IppCrate.withName v.1 v.2 = .ok a := by
  induction attributes generalizing m with
  | nil => exact iff_of_true ⟨m, rfl⟩ (by simp)
  | cons v attributes ih =>
    rw [addAll_cons, exists_bind_eq_ok, List.forall_mem_cons, ← exists_addAttribute_iff (m := m)]
    constructor
    · rintro ⟨m₁, h, hrest⟩
      exact ⟨⟨m₁, h⟩, ih.mp hrest⟩
    · rintro ⟨⟨m₁, h⟩, hrest⟩
      exact ⟨m₁, h, ih.mpr hrest⟩

variable [LawfulAttribute]

/-- What a message has with attributes added: what it had, and those. -/
theorem has_addAll {attributes : NamedValues} (h : addAll m tag attributes = .ok m')
    {tag' : DelimiterTag} {a : IppAttribute} :
    m'.Has tag' a ↔ m.Has tag' a ∨ (tag' = tag ∧ (a.name, a.value) ∈ attributes) := by
  induction attributes generalizing m with
  | nil =>
    cases h
    simp
  | cons v attributes ih =>
    rw [addAll_cons] at h
    obtain ⟨m₁, h₁, h⟩ := bind_eq_ok.mp h
    have hv : a = ⟨v.1, v.2⟩ ↔ (a.name, a.value) = v := by
      constructor
      · rintro rfl
        rfl
      · rintro rfl
        rfl
    rw [ih h, addAttribute_ok h₁, IppRequestResponse.has_add, List.mem_cons, hv, or_assoc,
      ← and_or_left]

end Add

/-! ## Raw requests with attributes added -/

section Raw

variable [IppCrate]

/-- A raw request of the handle with these attributes can be built: the header for its printer,
the name of the user, the keywords and the names of the attributes all fit. -/
structure IppPrinter.CanSend (p : IppPrinter) (attributes : NamedValues) : Prop where
  header : ∃ m, IppCrate.newRequest .getPrinterAttributes (some p.uri) = .ok m
  user : IppCrate.fits .name p.client.user = true
  keywords : ∀ name text, (name, .keyword text) ∈ attributes → IppCrate.fits .keyword text = true
  named : ∀ v ∈ ("requesting-user-name", .nameWithoutLanguage p.client.user) :: attributes,
    ∃ a, IppCrate.withName v.1 v.2 = .ok a

/-- A raw request with attributes added to one of its groups. -/
def IppPrinter.listRequest (p : IppPrinter) (opcode : Int16) (tag : DelimiterTag)
    (attributes : NamedValues) : Except Error IppRequestResponse := do
  let request ← p.rawRequest opcode
  addAll request tag attributes

variable {p : IppPrinter} {opcode : Int16} {tag : DelimiterTag} {attributes : NamedValues}
  {m : IppRequestResponse}

theorem exists_rawRequest_iff :
    (∃ m, p.rawRequest opcode = .ok m) ↔
      (∃ m, IppCrate.newRequest .getPrinterAttributes (some p.uri) = .ok m) ∧
        IppCrate.fits .name p.client.user = true ∧
        ∃ a, IppCrate.withName "requesting-user-name" (.nameWithoutLanguage p.client.user) =
          .ok a := by
  have huser : ∀ m, (∃ m', addUser m p.client.user = .ok m') ↔
      IppCrate.fits .name p.client.user = true ∧
        ∃ a, IppCrate.withName "requesting-user-name" (.nameWithoutLanguage p.client.user) =
          .ok a := by
    intro m
    rw [addUser, exists_bind_eq_ok, ← exists_bounded_iff]
    simp only [exists_addAttribute_iff]
    constructor
    · rintro ⟨v, hv, ha⟩
      rw [bounded_ok hv] at ha
      exact ⟨⟨v, hv⟩, ha⟩
    · rintro ⟨⟨v, hv⟩, ha⟩
      refine ⟨v, hv, ?_⟩
      rw [bounded_ok hv]
      exact ha
  rw [IppPrinter.rawRequest, exists_bind_eq_ok]
  simp only [huser, rawOperation, bind_eq_ok, transport, mapError_eq_ok]
  constructor
  · rintro ⟨m, ⟨m₀, h₀, -⟩, hu⟩
    exact ⟨⟨m₀, h₀⟩, hu⟩
  · rintro ⟨⟨m₀, h₀⟩, hu⟩
    exact ⟨_, ⟨m₀, h₀, rfl⟩, hu⟩

theorem exists_listRequest_iff
    (hkeywords : ∀ name text, (name, .keyword text) ∈ attributes →
      IppCrate.fits .keyword text = true) :
    (∃ m, p.listRequest opcode tag attributes = .ok m) ↔ p.CanSend attributes := by
  rw [IppPrinter.listRequest, exists_bind_eq_ok]
  simp only [exists_addAll_iff]
  constructor
  · rintro ⟨m, hm, hnamed⟩
    obtain ⟨hheader, huser, hname⟩ := exists_rawRequest_iff.mp ⟨m, hm⟩
    exact ⟨hheader, huser, hkeywords, List.forall_mem_cons.mpr ⟨hname, hnamed⟩⟩
  · rintro ⟨hheader, huser, -, hnamed⟩
    obtain ⟨hname, hnamed⟩ := List.forall_mem_cons.mp hnamed
    obtain ⟨m, hm⟩ := exists_rawRequest_iff.mpr ⟨hheader, huser, hname⟩
    exact ⟨m, hm, hnamed⟩

variable [LawfulAttribute] [LawfulHeader]

/-- A raw request has its header and the name of the user, a text each. -/
theorem rawRequest_has (h : p.rawRequest opcode = .ok m) {tag' : DelimiterTag} {a : IppAttribute}
    (ha : m.Has tag' a) :
    a.name ∈ "requesting-user-name" :: headerNames ∧ ¬a.value.HasEmptyArray := by
  obtain ⟨m₁, h₁, h⟩ := bind_eq_ok.mp h
  obtain ⟨m₀, h₀, h₁⟩ := bind_eq_ok.mp h₁
  cases h₁
  rw [addUser_ok h] at ha
  rcases IppRequestResponse.has_add.mp ha with ha | ⟨-, rfl⟩
  · obtain ⟨hname, text, hv⟩ := LawfulHeader.newRequest_has (mapError_eq_ok.mp h₀) ha
    refine ⟨List.mem_cons_of_mem _ hname, fun he => ?_⟩
    rcases hv with hv | hv | hv <;> rw [hv] at he <;> cases he
  · refine ⟨List.mem_cons_self, fun he => ?_⟩
    cases he

/-- A request that lists items under a name of its own. -/
theorem listRequest_lists {name : String} {items : List IppValue}
    (h : p.listRequest opcode tag attributes = .ok m)
    (hname : name ∉ "requesting-user-name" :: headerNames)
    (hitems : ∀ v, (name, v) ∈ attributes ↔ v = .array items) : m.Lists tag name items := by
  obtain ⟨raw, hraw, h⟩ := bind_eq_ok.mp h
  rintro tag' a rfl
  rw [has_addAll h, hitems, or_iff_right]
  intro ha
  exact hname (rawRequest_has hraw ha).1

/-- Its attributes have values where those that were added have. -/
theorem listRequest_valued (h : p.listRequest opcode tag attributes = .ok m) :
    m.Valued ↔ ∀ v ∈ attributes, ¬v.2.HasEmptyArray := by
  obtain ⟨raw, hraw, h⟩ := bind_eq_ok.mp h
  constructor
  · intro hv v hmem
    exact hv tag ⟨v.1, v.2⟩ ((has_addAll h).mpr (.inr ⟨rfl, hmem⟩))
  · intro hv tag' a ha
    rcases (has_addAll h).mp ha with ha | ⟨-, ha⟩
    · exact (rawRequest_has hraw ha).2
    · exact hv _ ha

/-- **A raw request that lists items has values exactly when there is an item**, or it cannot be
built at all. -/
theorem sendsList_iff {α : Type} {label name : String} {items : List IppValue}
    {decode : IppRequestResponse → Except Error α} (w : World) (past : List (Exchange Post Reply))
    (cell : Cache)
    (hkeywords : ∀ name text, (name, .keyword text) ∈ attributes →
      IppCrate.fits .keyword text = true)
    (hname : name ∉ "requesting-user-name" :: headerNames)
    (hitems : ∀ v, (name, v) ∈ attributes ↔ v = .array items)
    (hvalues : (∀ v ∈ attributes, ¬v.2.HasEmptyArray) ↔ items ≠ []) :
    SendsList tag name items
        (p.ask (p.listRequest opcode tag attributes) label decode w past cell) ↔
      (p.CanSend attributes → items ≠ []) := by
  have hbuilt : (∃ m, p.listRequest opcode tag attributes = .ok m) ↔ p.CanSend attributes :=
    exists_listRequest_iff hkeywords
  cases hm : p.listRequest opcode tag attributes with
  | error e =>
    refine iff_of_true ?_ fun hcan => ?_
    · have hran : p.ask (.error e) label decode w past cell = ⟨.error e, [], cell⟩ :=
        ask_unbuilt rfl w past cell
      rw [hran]
      exact .unsent rfl rfl
    · obtain ⟨m, h⟩ := hbuilt.mpr hcan
      cases hm.symm.trans h
  | ok m =>
    have ht : (p.ask (.ok m) label decode w past cell).trace = [p.client.exchange w past m] :=
      ask_trace rfl w past cell
    constructor
    · intro h _
      cases h with
      | sent hte hv _ =>
        cases ht.symm.trans hte
        exact hvalues.mp ((listRequest_valued hm).mp hv)
      | unsent _ hte => cases ht.symm.trans hte
    · intro h
      exact .sent ht ((listRequest_valued hm).mpr (hvalues.mpr (h (hbuilt.mp ⟨m, hm⟩))))
        (listRequest_lists hm hname hitems)

end Raw

/-- An array of values is not empty, and none of its values is. -/
theorem not_hasEmptyArray_array {items : List IppValue} (h : ∀ v ∈ items, ¬v.HasEmptyArray) :
    ¬(IppValue.array items).HasEmptyArray ↔ items ≠ [] := by
  constructor
  · rintro hne rfl
    exact hne .here
  · intro hne he
    cases he with
    | here => exact hne rfl
    | item hmem hv => exact h _ hmem hv

/-! ## The two requests -/

section Requests

variable [IppCrate]

/-- What `subscribe` adds to its raw request. -/
def subscriptionAttributes (events : List NotifyEvent) (lease : Option Duration) : NamedValues :=
  ("notify-events", .array (events.map fun e => .keyword e.keyword)) ::
    ("notify-pull-method", .keyword "ippget") ::
      (lease.map fun d => ("notify-lease-duration", .integer d.secs.toInt64.toInt32)).toList

/-- What `notifications` adds to its. -/
def notificationAttributes (ids : List Int32) : NamedValues :=
  [("notify-subscription-ids", .array (ids.map .integer)), ("notify-wait", .boolean false)]

variable {p : IppPrinter}

theorem notificationsRequest_eq (ids : List Int32) :
    p.notificationsRequest ids =
      p.listRequest getNotifications .operationAttributes (notificationAttributes ids) := by
  unfold IppPrinter.notificationsRequest IppPrinter.listRequest addAll notificationAttributes
  simp only [List.foldlM_cons, List.foldlM_nil, bind_pure]

/-- Every keyword that is sent fits, that of the method included. -/
def KeywordsFit (events : List NotifyEvent) : Prop :=
  (∀ e ∈ events, IppCrate.fits .keyword e.keyword = true) ∧
    IppCrate.fits .keyword "ippget" = true

theorem subscribeRequest_eq {events : List NotifyEvent} (h : KeywordsFit events)
    (lease : Option Duration) :
    p.subscribeRequest events lease =
      p.listRequest createPrinterSubscriptions .subscriptionAttributes
        (subscriptionAttributes events lease) := by
  obtain ⟨hevents, hmethod⟩ := h
  have hbounded : ∀ e ∈ events, ∃ v, bounded .keyword .keyword e.keyword "notify-events"
      "keyword too long" = .ok v := fun e he => exists_bounded_iff.mpr (hevents e he)
  obtain ⟨keywords, hk⟩ := exists_mapM_eq_ok.mpr hbounded
  have hmap : keywords = events.map fun e => .keyword e.keyword :=
    mapM_eq_ok (fun _ _ => bounded_ok) hk
  have hm : bounded .keyword .keyword "ippget" "notify-pull-method" "keyword too long" =
      .ok (.keyword "ippget") := if_pos hmethod
  unfold IppPrinter.subscribeRequest IppPrinter.listRequest addAll subscriptionAttributes
  simp only [hk, hmap, hm, List.foldlM_cons]
  cases lease with
  | none => rfl
  | some d =>
    simp only [addLease, Option.map_some, Option.toList_some, List.foldlM_cons, List.foldlM_nil,
      bind_pure]
    rfl

/-- One keyword that does not fit, wherever it stands, and there is no request. -/
theorem keywordsFit_of_subscribeRequest {events : List NotifyEvent} {lease : Option Duration}
    {m : IppRequestResponse} (h : p.subscribeRequest events lease = .ok m) :
    KeywordsFit events := by
  obtain ⟨_, -, h⟩ := bind_eq_ok.mp h
  obtain ⟨keywords, hk, h⟩ := bind_eq_ok.mp h
  obtain ⟨_, -, h⟩ := bind_eq_ok.mp h
  obtain ⟨v, hv, -⟩ := bind_eq_ok.mp h
  have hbounded := exists_mapM_eq_ok.mp ⟨keywords, hk⟩
  exact ⟨fun e he => exists_bounded_iff.mp (hbounded e he), exists_bounded_iff.mp ⟨v, hv⟩⟩

omit [IppCrate] in
theorem mem_subscriptionAttributes {events : List NotifyEvent} {lease : Option Duration}
    {v : String × IppValue} :
    v ∈ subscriptionAttributes events lease ↔
      v = ("notify-events", .array (events.map fun e => .keyword e.keyword)) ∨
        v = ("notify-pull-method", .keyword "ippget") ∨
        ∃ d, lease = some d ∧ v = ("notify-lease-duration", .integer d.secs.toInt64.toInt32) := by
  cases lease <;> simp [subscriptionAttributes]

variable [LawfulAttribute] [LawfulHeader]

theorem subscribe_sendsList_iff (p : IppPrinter) (events : List NotifyEvent)
    (lease : Option Duration) (w : World) (past : List (Exchange Post Reply)) (cell : Cache) :
    SendsList .subscriptionAttributes "notify-events" (events.map fun e => .keyword e.keyword)
        (p.subscribe events lease w past cell) ↔
      (p.CanSend (subscriptionAttributes events lease) → events ≠ []) := by
  have hne : events.map (fun e => IppValue.keyword e.keyword) ≠ [] ↔ events ≠ [] := by simp
  by_cases hfit : KeywordsFit events
  · unfold IppPrinter.subscribe
    rw [subscribeRequest_eq hfit, ← hne]
    refine sendsList_iff w past cell ?_ (by decide) ?_ ?_
    · intro name text hmem
      rcases mem_subscriptionAttributes.mp hmem with h | h | ⟨d, -, h⟩ <;> cases h
      exact hfit.2
    · intro v
      rw [mem_subscriptionAttributes]
      simp
    · have hkeyword : ∀ v ∈ events.map fun e => IppValue.keyword e.keyword, ¬v.HasEmptyArray := by
        intro v hv
        obtain ⟨e, -, rfl⟩ := List.mem_map.mp hv
        rintro ⟨⟩
      rw [← not_hasEmptyArray_array hkeyword]
      constructor
      · intro h
        exact h _ (mem_subscriptionAttributes.mpr (.inl rfl))
      · intro h v hmem
        rcases mem_subscriptionAttributes.mp hmem with rfl | rfl | ⟨d, -, rfl⟩
        · exact h
        · rintro ⟨⟩
        · rintro ⟨⟩
  · cases hm : p.subscribeRequest events lease with
    | ok m => exact absurd (keywordsFit_of_subscribeRequest hm) hfit
    | error e =>
      have hran : p.subscribe events lease w past cell = ⟨.error e, [], cell⟩ :=
        ask_unbuilt hm w past cell
      rw [hran]
      refine iff_of_true (.unsent rfl rfl) ?_
      rintro hcan rfl
      have hmethod := hcan.keywords _ _ (mem_subscriptionAttributes.mpr (.inr (.inl rfl)))
      exact hfit ⟨by simp, hmethod⟩

theorem notifications_sendsList_iff (p : IppPrinter) (ids : List Int32) (w : World)
    (past : List (Exchange Post Reply)) (cell : Cache) :
    SendsList .operationAttributes "notify-subscription-ids" (ids.map .integer)
        (p.notifications ids w past cell) ↔
      (p.CanSend (notificationAttributes ids) → ids ≠ []) := by
  have hne : ids.map IppValue.integer ≠ [] ↔ ids ≠ [] := by simp
  unfold IppPrinter.notifications
  rw [notificationsRequest_eq, ← hne]
  refine sendsList_iff w past cell ?_ (by decide) ?_ ?_
  · intro name text hmem
    simp [notificationAttributes] at hmem
  · intro v
    simp [notificationAttributes]
  · have hinteger : ∀ v ∈ ids.map IppValue.integer, ¬v.HasEmptyArray := by
      intro v hv
      obtain ⟨id, -, rfl⟩ := List.mem_map.mp hv
      rintro ⟨⟩
    rw [← not_hasEmptyArray_array hinteger, notificationAttributes, List.forall_mem_cons,
      List.forall_mem_singleton]
    refine and_iff_left ?_
    rintro ⟨⟩

/-- **Which calls send lists that have values.** `subscribe` and `notifications` send a request
with values in every attribute and their list in its own, or fail and send nothing, exactly when
the list is not empty, or nothing of the handle could be sent with an empty one. -/
theorem lists_have_values_iff (p : IppPrinter) (w : World) (past : List (Exchange Post Reply))
    (cell : Cache) :
    (∀ events lease,
      SendsList .subscriptionAttributes "notify-events"
          (events.map fun e => .keyword e.keyword) (p.subscribe events lease w past cell) ↔
        (p.CanSend (subscriptionAttributes events lease) → events ≠ [])) ∧
    (∀ ids,
      SendsList .operationAttributes "notify-subscription-ids" (ids.map .integer)
          (p.notifications ids w past cell) ↔
        (p.CanSend (notificationAttributes ids) → ids ≠ [])) :=
  ⟨fun events lease => subscribe_sendsList_iff p events lease w past cell,
    fun ids => notifications_sendsList_iff p ids w past cell⟩

end Requests

/-! ## No events, and no subscriptions -/

section Reference

attribute [local instance] Reference.crate

theorem lists_have_values_iff_jobCompleted :
    SendsList .subscriptionAttributes "notify-events" [.keyword "job-completed"]
      (queuePrinter.subscribe [.jobCompleted] none (.answering fun _ => refused) [] none) :=
  have := Reference.lawful
  have := Reference.lawfulHeader
  ((lists_have_values_iff queuePrinter (.answering fun _ => refused) [] none).1
    [.jobCompleted] none).mpr fun _ => List.cons_ne_nil _ _

/-- An empty list is sent, as an attribute without a value, by both. -/
theorem empty_lists_sent :
    (¬∀ (p : IppPrinter) (events : List NotifyEvent) (lease : Option Duration) (w : World)
      (past : List (Exchange Post Reply)) (cell : Cache),
      SendsList .subscriptionAttributes "notify-events"
        (events.map fun e => .keyword e.keyword) (p.subscribe events lease w past cell)) ∧
    ¬∀ (p : IppPrinter) (ids : List Int32) (w : World) (past : List (Exchange Post Reply))
      (cell : Cache),
      SendsList .operationAttributes "notify-subscription-ids" (ids.map .integer)
        (p.notifications ids w past cell) := by
  constructor
  · intro h
    cases h queuePrinter [] none (.answering fun _ => refused) [] none with
    | sent ht hv _ =>
      cases ht
      exact hv .subscriptionAttributes ⟨"notify-events", .array []⟩
        ⟨_, .tail _ (.head _), rfl, .head _⟩ .here
    | unsent _ ht => cases ht
  · intro h
    cases h queuePrinter [] (.answering fun _ => refused) [] none with
    | sent ht hv _ =>
      cases ht
      exact hv .operationAttributes ⟨"notify-subscription-ids", .array []⟩
        ⟨_, .head _, rfl, .tail _ (.tail _ (.tail _ (.tail _ (.head _))))⟩ .here
    | unsent _ ht => cases ht

end Reference

end Ipp
