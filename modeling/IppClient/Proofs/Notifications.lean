import IppClient.Base.Sys
import IppClient.Client.Operations

/-!
# Collecting notifications again and again

`IppPrinter::notifications` is documented to collect what has happened since the last collection.
A `Get-Notifications` request says how far a client has got by `notify-sequence-numbers`; the code
never sends them, so that a printer answers with every event it still retains.

* `Occurrence`: an event that a subscription captured. `asked` is how a printer reads a request.
* `notificationsRequest_asked`: the code's request asks for every event of its subscriptions.
* `Feed`: a printer and what the calls returned; `feedRun` interleaves calls, new events and events
  that the printer drops.
* `delivered_once_iff`: **no event is returned by two calls of a run exactly when, at every
  collection, the printer retains no event of the subscriptions that it has sent before.**
-/

namespace Ipp

open Base

/-- An event that a subscription captured, as the printer sends it: its key, and the other
attributes of its group. -/
structure Occurrence where
  subscription : Int32
  sequence : Int32
  details : List IppAttribute

/-- What tells an event from others: the subscription and the sequence number. -/
abbrev EventKey := Int32 × Int32

namespace Occurrence

def key (e : Occurrence) : EventKey := (e.subscription, e.sequence)

def group (e : Occurrence) : IppAttributeGroup where
  tag := .eventNotificationAttributes
  attributes :=
    ⟨"notify-subscription-id", .integer e.subscription⟩ ::
      ⟨"notify-sequence-number", .integer e.sequence⟩ :: e.details

end Occurrence

/-- An operation attribute of integers. -/
def IppRequestResponse.operationInts (m : IppRequestResponse) (name : String) : List Int32 :=
  match m.operation name with
  | some (.array items) => items.filterMap Attrs.asInt
  | some other => (Attrs.asInt other).toList
  | none => []

/-- The printer's reading of a `Get-Notifications` request: the event belongs to a subscription it
names, and its number is at least the one the request gives for that subscription, or 1. -/
def asked (m : IppRequestResponse) (e : Occurrence) : Bool :=
  (m.operationInts "notify-subscription-ids").zipIdx.any fun (id, i) =>
    id == e.subscription &&
      decide ((m.operationInts "notify-sequence-numbers")[i]?.getD 1 ≤ e.sequence)

/-- The printer's answer: the events it retains and is asked for, after its operation
attributes. -/
def answerEvents (status : Int16) (header : List IppAttribute) (retained : List Occurrence)
    (m : IppRequestResponse) : IppRequestResponse where
  operationOrStatus := status
  groups := ⟨.operationAttributes, header⟩ :: (retained.filter (asked m)).map Occurrence.group
  payload := []

/-- The keys of the events that a call returned. -/
def eventKeys : Except Error Notifications → List EventKey
  | .ok ns => ns.events.filterMap fun n => n.sequence.map fun seq => (n.subscriptionId, seq)
  | .error _ => []

/-- A world of one reply. -/
def World.replying (reply : Post → Reply) : World where
  reply _ post := reply post
  openFile _ := .error ⟨"no such file", []⟩
  userLpoptions := none
  systemLpoptions := none

/-- A printer and the calls made of it: the events it retains, the keys of all that occurred, the
keys it has sent in answers, and what each call returned, the latest first. -/
structure Feed where
  retained : List Occurrence
  occurred : List EventKey
  sent : List EventKey
  returned : List (List EventKey)

/-- No event is returned by two calls. -/
def Feed.AtMostOnce (s : Feed) : Prop := s.returned.Pairwise fun a b => ∀ k ∈ a, k ∉ b

/-- A printer without events, and no call yet. -/
def Feed.start : Feed := ⟨[], [], [], []⟩

section

variable [IppCrate]

/-- One step: an event occurs; the printer goes on retaining some of its events, in any order; a
call is answered, with a successful status; or a call fails, in the network or by the printer's
refusal. -/
inductive FeedStep where
  | occur (e : Occurrence)
  | retain (keys : List EventKey)
  | collect (status : {s : Int16 // IppCrate.isSuccess s = true}) (header : List IppAttribute)
  | fail (reply : {r : Reply // ∃ e, IppClient.accept "Get-Notifications" r = .error e})

variable (p : IppPrinter) (ids : List Int32)

/-- The state after a step. A new event has a positive sequence number that its subscription has
not used. -/
def Feed.next (s : Feed) : FeedStep → Option Feed
  | .occur e =>
    if 1 ≤ e.sequence ∧ e.key ∉ s.occurred then
      some { s with retained := s.retained ++ [e], occurred := e.key :: s.occurred }
    else none
  | .retain keys =>
    some { s with retained := keys.filterMap fun k => s.retained.find? fun e => e.key = k }
  | .collect status header =>
    let r := p.notifications ids
      (.replying fun post => .ok (answerEvents status header s.retained post.request)) [] none
    some
      { s with
        sent :=
          (r.trace.flatMap fun e => (s.retained.filter (asked e.call.request)).map Occurrence.key) ++
            s.sent
        returned := eventKeys r.result :: s.returned }
  | .fail reply =>
    let r := p.notifications ids (.replying fun _ => reply) [] none
    some { s with returned := eventKeys r.result :: s.returned }

/-- Calls of `notifications` for the subscriptions, interleaved with what happens at the
printer. -/
def feedRun : Sys Feed FeedStep where
  step s l := s.next p ids l

/-- The step is no collection at which the printer still retains an event of the subscriptions
that it has sent before. -/
def Forgotten (s : Feed) : FeedStep → Prop
  | .collect _ _ => ∀ m, p.notificationsRequest ids = .ok m →
    ∀ e ∈ s.retained, e.subscription ∈ ids → e.key ∉ s.sent
  | _ => True

end

/-! ## What an event reads as -/

theorem Occurrence.decode_group (e : Occurrence) :
    ∃ n, Notification.decode e.group = .ok n ∧ n.subscriptionId = e.subscription ∧
      n.sequence = some e.sequence := by
  have hsub : Attrs.int ⟨e.group⟩ "notify-subscription-id" = some e.subscription := rfl
  have hseq : Attrs.int ⟨e.group⟩ "notify-sequence-number" = some e.sequence := rfl
  unfold Notification.decode
  simp only [Attrs.requireInt_eq_ok.mpr hsub, hseq]
  exact ⟨_, rfl, rfl, rfl⟩

/-- The events of an answer are returned under their keys. -/
theorem eventKeys_answerEvents (status : Int16) (header : List IppAttribute)
    (retained : List Occurrence) (m : IppRequestResponse) :
    eventKeys (.ok (decodeNotifications (answerEvents status header retained m))) =
      (retained.filter (asked m)).map Occurrence.key := by
  have hgroups : (answerEvents status header retained m).groupsOf .eventNotificationAttributes =
      (retained.filter (asked m)).map Occurrence.group := by
    unfold IppRequestResponse.groupsOf answerEvents
    rw [List.filter_cons, if_neg (by simp), List.filter_map]
    congr 1
    exact List.filter_eq_self.mpr fun e _ => rfl
  unfold eventKeys decodeNotifications decodeAll
  rw [hgroups]
  induction retained.filter (asked m) with
  | nil => rfl
  | cons e events ih =>
    obtain ⟨n, hn, hsub, hseq⟩ := e.decode_group
    have hd : decoded Notification.decode e.group = some n := decoded_eq_some.mpr hn
    simp only [List.map_cons, List.filterMap_cons, hd, hseq, hsub, Option.map_some]
    exact congrArg _ ih

/-! ## What the code's request asks for -/

section Run

variable [IppCrate] {p : IppPrinter} {ids : List Int32} {m : IppRequestResponse}

theorem notifications_unbuilt {e : Error} (h : p.notificationsRequest ids = .error e) (w : World)
    (past : List (Exchange Post Reply)) (cell : Cache) :
    p.notifications ids w past cell = ⟨.error e, [], cell⟩ := ask_unbuilt h w past cell

theorem notifications_built (h : p.notificationsRequest ids = .ok m) (w : World)
    (past : List (Exchange Post Reply)) (cell : Cache) :
    p.notifications ids w past cell =
      ⟨(IppClient.accept "Get-Notifications" (p.client.exchange w past m).reply).map
          decodeNotifications,
        [p.client.exchange w past m], cell⟩ := by
  unfold IppPrinter.notifications IppPrinter.ask
  rw [Act.ofExcept_ok_bind h]
  exact IppClient.send_map m "Get-Notifications" decodeNotifications

/-- A call that fails returns nothing. -/
theorem eventKeys_failed {reply : Reply} {e : Error}
    (h : IppClient.accept "Get-Notifications" reply = .error e) :
    eventKeys (p.notifications ids (.replying fun _ => reply) [] none).result = [] := by
  cases hm : p.notificationsRequest ids with
  | error e' => rw [notifications_unbuilt hm, eventKeys]
  | ok m =>
    have hr : (p.client.exchange (.replying fun _ => reply) [] m).reply = reply := rfl
    rw [notifications_built hm, hr, h]
    rfl

variable [LawfulIppCrate]

/-- A raw request has its header and the name of the user. -/
theorem rawRequest_within {opcode : Int16} (h : p.rawRequest opcode = .ok m) :
    m.Within ("requesting-user-name" :: headerNames) := by
  obtain ⟨m₁, h₁, h⟩ := bind_eq_ok.mp h
  obtain ⟨m₀, h₀, h₁⟩ := bind_eq_ok.mp h₁
  cases h₁
  intro n hn
  rw [List.mem_cons, not_or] at hn
  have hnone : m₀.operation n = none :=
    LawfulIppCrate.newRequest_within (mapError_eq_ok.mp h₀) n hn.2
  rw [addUser_ok h, IppRequestResponse.operation_add, if_neg (Ne.symm hn.1), Option.or_none]
  exact hnone

/-- The request names the subscriptions, and no sequence numbers. -/
theorem notificationsRequest_ok (h : p.notificationsRequest ids = .ok m) :
    m.operationInts "notify-subscription-ids" = ids ∧
      m.operationInts "notify-sequence-numbers" = [] := by
  obtain ⟨raw, hraw, h⟩ := bind_eq_ok.mp h
  obtain ⟨m₁, h₁, h⟩ := bind_eq_ok.mp h
  have hwithin := rawRequest_within hraw
  have hids : raw.operation "notify-subscription-ids" = none := hwithin _ (by decide)
  have hnumbers : raw.operation "notify-sequence-numbers" = none := hwithin _ (by decide)
  obtain rfl := addAttribute_ok h₁
  obtain rfl := addAttribute_ok h
  have hint : (ids.map IppValue.integer).filterMap Attrs.asInt = ids := by
    rw [List.filterMap_map]
    exact List.filterMap_some
  constructor
  · simp [IppRequestResponse.operationInts, IppRequestResponse.operation_add, hids, hint]
  · simp [IppRequestResponse.operationInts, IppRequestResponse.operation_add, hnumbers]

/-- So the printer is asked for every event of the subscriptions. -/
theorem notificationsRequest_asked (h : p.notificationsRequest ids = .ok m) (e : Occurrence) :
    asked m e = true ↔ e.subscription ∈ ids ∧ 1 ≤ e.sequence := by
  obtain ⟨hids, hnumbers⟩ := notificationsRequest_ok h
  unfold asked
  rw [hids, hnumbers, List.any_eq_true]
  simp only [List.getElem?_nil, Option.getD_none, Bool.and_eq_true, beq_iff_eq, decide_eq_true_eq]
  constructor
  · rintro ⟨⟨id, i⟩, hmem, rfl, hseq⟩
    exact ⟨List.fst_mem_of_mem_zipIdx hmem, hseq⟩
  · rintro ⟨hmem, hseq⟩
    obtain ⟨i, hi⟩ := List.mem_iff_getElem?.mp hmem
    exact ⟨(e.subscription, i), List.mem_zipIdx_iff_getElem?.mpr hi, rfl, hseq⟩

/-! ## Runs -/

omit [LawfulIppCrate] in
theorem next_collect_unbuilt {s : Feed} {e : Error} (h : p.notificationsRequest ids = .error e)
    (status : {s : Int16 // IppCrate.isSuccess s = true}) (header : List IppAttribute) :
    s.next p ids (.collect status header) = some { s with returned := [] :: s.returned } := by
  simp only [Feed.next, notifications_unbuilt h, List.flatMap_nil, List.nil_append, eventKeys]

omit [LawfulIppCrate] in
/-- A collection returns what the printer retains and is asked for. -/
theorem next_collect_built {s : Feed} (h : p.notificationsRequest ids = .ok m)
    (status : {s : Int16 // IppCrate.isSuccess s = true}) (header : List IppAttribute) :
    s.next p ids (.collect status header) =
      some
        { s with
          sent := (s.retained.filter (asked m)).map Occurrence.key ++ s.sent
          returned := (s.retained.filter (asked m)).map Occurrence.key :: s.returned } := by
  have hreply : (p.client.exchange (.replying fun post =>
      .ok (answerEvents status header s.retained post.request)) [] m).reply =
        .ok (answerEvents status header s.retained m) := rfl
  have haccept : IppClient.accept "Get-Notifications"
      (.ok (answerEvents status header s.retained m)) =
        .ok (answerEvents status header s.retained m) :=
    IppClient.accept_eq_ok.mpr ⟨rfl, status.2⟩
  simp only [Feed.next, notifications_built h, hreply, haccept]
  rw [List.flatMap_singleton]
  refine congrArg some ?_
  have hkeys := eventKeys_answerEvents status header s.retained m
  show Feed.mk _ _ _ (eventKeys (.ok (decodeNotifications _)) :: _) = _
  rw [hkeys]
  rfl

/-- What a run keeps while no event is sent again. -/
structure Feed.Kept (s : Feed) : Prop where
  once : s.AtMostOnce
  sent : ∀ k, k ∈ s.sent ↔ ∃ r ∈ s.returned, k ∈ r
  positive : ∀ e ∈ s.retained, 1 ≤ e.sequence

omit [IppCrate] [LawfulIppCrate] in
/-- A call that returns nothing. -/
theorem Feed.Kept.nothing {s : Feed} (h : s.Kept) :
    Feed.Kept { s with returned := [] :: s.returned } := by
  refine ⟨?_, fun k => ?_, h.positive⟩
  · exact List.pairwise_cons.mpr ⟨fun r _ k hk => (by cases hk), h.once⟩
  · rw [h.sent]
    simp

omit [IppCrate] [LawfulIppCrate] in
/-- A call that returns what was sent, none of which was sent before. -/
theorem Feed.Kept.collected {s : Feed} (h : s.Kept) {keys : List EventKey}
    (hnew : ∀ k ∈ keys, k ∉ s.sent) :
    Feed.Kept { s with sent := keys ++ s.sent, returned := keys :: s.returned } := by
  refine ⟨List.pairwise_cons.mpr ⟨fun r hr k hk hkr => ?_, h.once⟩, fun k => ?_, h.positive⟩
  · exact hnew k hk ((h.sent k).mpr ⟨r, hr, hkr⟩)
  · rw [List.mem_append, h.sent]
    simp

/-- **One step.** A step at which nothing that was sent is still retained keeps the invariant. -/
theorem Feed.Kept.next {s s' : Feed} (h : s.Kept) {l : FeedStep} (hl : Forgotten p ids s l)
    (hs : s.next p ids l = some s') : s'.Kept := by
  cases l with
  | occur e =>
    simp only [Feed.next] at hs
    split at hs
    · rename_i hguard
      cases hs
      refine ⟨h.once, h.sent, fun e' he' => ?_⟩
      rcases List.mem_append.mp he' with he' | he'
      · exact h.positive e' he'
      · rw [List.mem_singleton.mp he']
        exact hguard.1
    · cases hs
  | retain keys =>
    cases hs
    refine ⟨h.once, h.sent, fun e he => ?_⟩
    obtain ⟨k, -, hk⟩ := List.mem_filterMap.mp he
    exact h.positive e (List.mem_of_find?_eq_some hk)
  | collect status header =>
    cases hm : p.notificationsRequest ids with
    | error e =>
      rw [next_collect_unbuilt hm] at hs
      cases hs
      exact h.nothing
    | ok m =>
      rw [next_collect_built hm] at hs
      cases hs
      refine h.collected fun k hk => ?_
      obtain ⟨e, he, rfl⟩ := List.mem_map.mp hk
      obtain ⟨he, hasked⟩ := List.mem_filter.mp he
      exact hl m hm e he ((notificationsRequest_asked hm e).mp hasked).1
  | fail reply =>
    obtain ⟨reply, e, hreply⟩ := reply
    cases hs
    rw [eventKeys_failed hreply]
    exact h.nothing

/-- A collection of an event that was sent before returns it again. -/
theorem not_atMostOnce_next {s : Feed} (h : s.Kept) {l : FeedStep} (hl : ¬ Forgotten p ids s l) :
    ∃ s', s.next p ids l = some s' ∧ ¬ s'.AtMostOnce := by
  cases l with
  | occur e => exact absurd trivial hl
  | retain keys => exact absurd trivial hl
  | fail reply => exact absurd trivial hl
  | collect status header =>
    simp only [Forgotten, not_forall, not_not] at hl
    obtain ⟨m, hm, e, he, hid, hsent⟩ := hl
    refine ⟨_, next_collect_built hm status header, fun honce => ?_⟩
    obtain ⟨r, hr, hkr⟩ := (h.sent e.key).mp hsent
    have hasked : asked m e = true :=
      (notificationsRequest_asked hm e).mpr ⟨hid, h.positive e he⟩
    have hk : e.key ∈ (s.retained.filter (asked m)).map Occurrence.key :=
      List.mem_map_of_mem (List.mem_filter.mpr ⟨he, hasked⟩)
    exact (List.pairwise_cons.mp honce).1 r hr e.key hk hkr

end Run

/-- **At most once.** For every run of collections for the same subscriptions, interleaved with
events that occur and events that the printer drops: no event is returned by two calls exactly
when, at every collection, the printer retains no event of the subscriptions that it has sent
before. -/
theorem delivered_once_iff [IppCrate] [LawfulIppCrate] (p : IppPrinter) (ids : List Int32)
    (ls : List FeedStep) :
    (feedRun p ids).Throughout Feed.AtMostOnce Feed.start ls ↔
      (feedRun p ids).Meets (Forgotten p ids) Feed.start ls := by
  have h0 : Feed.start.Kept :=
    ⟨List.Pairwise.nil, fun k => by simp [Feed.start], fun e he => by cases he⟩
  exact Sys.throughout_iff_meets (fun _ _ _ h hl hs => h.next hl hs) (fun _ h => h.once)
    (fun _ _ h hl => not_atMostOnce_next h hl) h0

/-! ## Two collections of one event -/

section Reference

attribute [local instance] Reference.crate

/-- A handle of the queue `HP`. -/
def queuePrinter : IppPrinter where
  client := localClient
  uri := ⟨some "http", some ⟨"localhost:631", "localhost", some 631⟩, "/printers/HP", none⟩

/-- `successful-ok`. -/
def successfulOk : {s : Int16 // IppCrate.isSuccess s = true} := ⟨0, rfl⟩

/-- The first event of subscription 7. -/
def first : Occurrence := ⟨7, 1, []⟩

/-- An event occurs and is collected twice: it is returned twice. -/
theorem delivered_twice :
    ¬ ∀ (p : IppPrinter) (ids : List Int32) (ls : List FeedStep),
      (feedRun p ids).Throughout Feed.AtMostOnce Feed.start ls := by
  intro h
  have := Reference.lawful
  obtain ⟨m, hm⟩ : ∃ m, queuePrinter.notificationsRequest [7] = .ok m := ⟨_, rfl⟩
  have hasked : [first].filter (asked m) = [first] := by
    rw [List.filter_cons, if_pos ((notificationsRequest_asked hm first).mpr (by decide)),
      List.filter_nil]
  have hcollect : ∀ s : Feed, s.retained = [first] →
      (feedRun queuePrinter [7]).step s (.collect successfulOk []) =
        some { s with sent := [(7, 1)] ++ s.sent, returned := [(7, 1)] :: s.returned } := by
    intro s hs
    refine (next_collect_built hm successfulOk []).trans ?_
    rw [hs, hasked]
    rfl
  have hoccur : (feedRun queuePrinter [7]).step Feed.start (.occur first) =
      some ⟨[first], [(7, 1)], [], []⟩ := rfl
  have hexec : (feedRun queuePrinter [7]).exec Feed.start
      [.occur first, .collect successfulOk [], .collect successfulOk []] =
        some ⟨[first], [(7, 1)], [(7, 1), (7, 1)], [[(7, 1)], [(7, 1)]]⟩ := by
    rw [Sys.exec_cons hoccur, Sys.exec_cons (hcollect _ rfl), Sys.exec_cons (hcollect _ rfl)]
    rfl
  have honce := h queuePrinter [7] _ _ List.prefix_rfl _ hexec
  have hself : [(7, 1)] ∈ [[((7, 1) : EventKey)]] := List.mem_singleton.mpr rfl
  have hkey : (7, 1) ∈ [((7, 1) : EventKey)] := List.mem_singleton.mpr rfl
  exact (List.pairwise_cons.mp honce).1 _ hself _ hkey hkey

/-- Two events, the first of which the printer drops once it was collected. -/
theorem delivered_once_iff_dropped :
    (feedRun queuePrinter [7]).Throughout Feed.AtMostOnce Feed.start
        [.occur first, .collect successfulOk [], .occur ⟨7, 2, []⟩, .retain [(7, 2)],
          .collect successfulOk []] ↔
      (feedRun queuePrinter [7]).Meets (Forgotten queuePrinter [7]) Feed.start
        [.occur first, .collect successfulOk [], .occur ⟨7, 2, []⟩, .retain [(7, 2)],
          .collect successfulOk []] :=
  have := Reference.lawful
  delivered_once_iff queuePrinter [7] _

end Reference

end Ipp
