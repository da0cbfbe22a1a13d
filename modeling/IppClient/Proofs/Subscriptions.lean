import IppClient.Client.Visit
import IppClient.Proofs.DecoderRange
import IppClient.Proofs.Leases
import IppClient.Proofs.ListedValues
import IppClient.Proofs.Plans
import IppClient.Proofs.PrintStream

/-!
# Subscriptions, from the request to the reading

A server that keeps the subscriptions it is asked for, and gives them back as it was sent them,
shows to the readers what the callers asked for, except that a lease is sent as an `i32` of seconds:
what `subscribe`, `renew_subscription` and `cancel_subscription` write is what `subscriptions` and
`subscription` read, over any calls of any clients, one after another.

* `Registry.peer`: the server, which stores attributes and does not interpret them.
* `Book.step`: what the calls mean. The book has each lease as it was asked for.
* `Subscription.shown`: what is seen of a subscription. `Subscription.shown_eq_iff`: it is the
  subscription exactly if the lease is whole seconds that fit and no named event is spelled out.
* `Call.moves_book`: a call moves what the server holds, as it is read, as the book says.
* `subscriptions_tracked`: **so do all calls**, and the readers return what is seen of the book.
-/

namespace Ipp

open Base

/-! ## The server -/

/-- The value of the first attribute of a name. -/
def lookupIn (attributes : List IppAttribute) (name : String) : Option IppValue :=
  (attributes.find? fun a => a.name = name).map (·.value)

/-- The attributes of the first subscription group of a request. -/
def IppRequestResponse.subscriptionPart (m : IppRequestResponse) : List IppAttribute :=
  ((m.firstOf .subscriptionAttributes).map (·.attributes)).getD []

/-- A subscription that a server holds: whose it is, and its attributes as they were sent. -/
structure Held where
  id : Int32
  printer : Option String
  user : Option String
  attributes : List IppAttribute

/-- The group that a server sends for it. -/
def Held.toGroup (h : Held) : IppAttributeGroup where
  tag := .subscriptionAttributes
  attributes :=
    ⟨"notify-subscription-id", .integer h.id⟩ ::
      ((h.user.map fun user => ⟨"notify-subscriber-user-name", .nameWithoutLanguage user⟩).toList ++
        h.attributes)

/-- The subscription with other attributes, which come before those it has. -/
def Held.update (h : Held) (attributes : List IppAttribute) : Held :=
  { h with attributes := attributes ++ h.attributes }

/-- What a server holds, and the id it gives next. -/
structure Registry where
  next : Int32
  held : List Held

namespace Registry

/-- The registry after a request, and the subscriptions in the response. -/
def step (r : Registry) (m : IppRequestResponse) : Registry × List Held :=
  let id := m.operationInt "notify-subscription-id"
  if m.operationOrStatus = createPrinterSubscriptions then
    let created : Held :=
      { id := r.next
        printer := m.operationText "printer-uri"
        user := m.operationText "requesting-user-name"
        attributes := m.subscriptionPart }
    ({ next := r.next + 1, held := r.held ++ [created] }, [created])
  else if m.operationOrStatus = renewSubscription then
    ({ r with
        held := r.held.map fun h =>
          if some h.id = id then h.update m.subscriptionPart else h }, [])
  else if m.operationOrStatus = cancelSubscription then
    ({ r with held := r.held.filter fun h => some h.id ≠ id }, [])
  else if m.operationOrStatus = getSubscriptions then
    (r, r.held.filter fun h => h.printer = m.operationText "printer-uri")
  else if m.operationOrStatus = getSubscriptionAttributes then
    (r, r.held.filter fun h => some h.id = id)
  else (r, [])

/-- The server, which answers with the status `success`. -/
def peer (success : Int16) : Peer Registry Post Reply where
  step r post :=
    ((r.step post.request).1, .ok ⟨success, (r.step post.request).2.map Held.toGroup, []⟩)

end Registry

/-- The operations on subscriptions. -/
def subscriptionOperations : List Int16 :=
  [createPrinterSubscriptions, renewSubscription, cancelSubscription, getSubscriptions,
    getSubscriptionAttributes]

/-- Those that change what is held. -/
def subscriptionChanges : List Int16 :=
  [createPrinterSubscriptions, renewSubscription, cancelSubscription]

/-- The calls that send them. -/
def Call.ChangesSubscriptions : Call → Prop
  | .printer _ (.subscribe _ _) => True
  | .printer _ (.renewSubscription _ _) => True
  | .printer _ (.cancelSubscription _) => True
  | _ => False

/-- Requests about subscriptions are answered by the server, which holds `r` at the start. Other
requests may be answered in any way. -/
def World.Keeps (w : World) (success : Int16) (r : Registry) : Prop :=
  ∀ past post, post.request.operationOrStatus ∈ subscriptionOperations →
    w.reply past post = (Registry.peer success).answer r past post

/-! ## What the calls mean -/

/-- The subscription with a new lease, if one is asked for. -/
def Subscription.withLease (s : Subscription) (lease : Option Duration) : Subscription :=
  { s with lease := lease.or s.lease }

/-- The subscriptions as they were asked for, each with the printer it is for, and the id of the next
one. -/
structure Book where
  next : Int32
  entries : List (Option String × Subscription)

namespace Book

/-- A new subscription of the user. -/
def created (b : Book) (user : String) (events : List NotifyEvent) (lease : Option Duration) :
    Subscription where
  id := b.next
  events
  lease
  subscriber := some user

def subscribe (b : Book) (printer user : String) (events : List NotifyEvent)
    (lease : Option Duration) : Book where
  next := b.next + 1
  entries := b.entries ++ [(some printer, b.created user events lease)]

/-- The book with another subscription under the id. -/
def update (b : Book) (id : Int32) (f : Subscription → Subscription) : Book where
  next := b.next
  entries := b.entries.map fun entry =>
    (entry.1, if entry.2.id = id then f entry.2 else entry.2)

def renew (b : Book) (id : Int32) (lease : Option Duration) : Book :=
  b.update id fun s => s.withLease lease

def cancel (b : Book) (id : Int32) : Book where
  next := b.next
  entries := b.entries.filter fun entry => entry.2.id ≠ id

/-- The subscriptions of a printer. -/
def ofPrinter (b : Book) (printer : String) : List Subscription :=
  (b.entries.filter fun entry => entry.1 = some printer).map Prod.snd

/-- The subscription of an id. -/
def get (b : Book) (id : Int32) : Option Subscription :=
  (b.entries.find? fun entry => entry.2.id = id).map Prod.snd

variable [IppCrate]

/-- The book after a call. One whose request cannot be built has no effect, and a call of another
method has none either. -/
def step (b : Book) (c : IppClient) : Call → Book
  | .printer uri (.subscribe events lease) =>
    match IppPrinter.subscribeRequest ⟨c, uri⟩ events lease with
    | .ok _ => b.subscribe (IppCrate.printerUri uri) c.user events lease
    | .error _ => b
  | .printer uri (.renewSubscription id lease) =>
    match IppPrinter.renewSubscriptionRequest ⟨c, uri⟩ id lease with
    | .ok _ => b.renew id lease
    | .error _ => b
  | .printer uri (.cancelSubscription id) =>
    match IppPrinter.rawIntRequest ⟨c, uri⟩ cancelSubscription "notify-subscription-id" id with
    | .ok _ => b.cancel id
    | .error _ => b
  | _ => b

end Book

/-! ## What is seen of it -/

/-- What is seen of a lease that was asked for: its whole seconds, if the low 32 bits of their number
are a positive `i32`, and otherwise no lease. -/
def shownLease (d : Duration) : Option Duration :=
  let seconds := d.secs.toNat % 4294967296
  if 0 < seconds ∧ seconds < 2147483648 then some (.fromSecs (.ofNat seconds)) else none

/-- What is seen of a subscription that was asked for: each event is as its keyword is read. -/
def Subscription.shown (s : Subscription) : Subscription :=
  { s with
    events := (s.events.map NotifyEvent.keyword).map NotifyEvent.fromKeyword
    lease := s.lease.bind shownLease }

/-- A subscription that is seen, after a renewal of what is seen of it. -/
def Subscription.withShownLease (s : Subscription) (lease : Option Duration) : Subscription :=
  { s with lease := lease.elim s.lease shownLease }

/-- The book with what is seen of each subscription. -/
def Book.shown (b : Book) : Book where
  next := b.next
  entries := b.entries.map fun entry => (entry.1, entry.2.shown)

/-- The lease that is read for a number of seconds. -/
def readLease (v : Int32) : Option Duration :=
  if 0 < v then some (.fromSecs (asU64 v)) else none

/-- A held subscription, as it is read. -/
def Held.subscription (h : Held) : Subscription :=
  let a : Attrs := ⟨h.toGroup⟩
  { id := h.id
    events := (a.texts "notify-events").map NotifyEvent.fromKeyword
    lease := (a.int "notify-lease-duration").bind readLease
    subscriber := a.text "notify-subscriber-user-name" }

/-- What the registry holds, as it is read. -/
def Registry.book (r : Registry) : Book where
  next := r.next
  entries := r.held.map fun h => (h.printer, h.subscription)

theorem toNat_lowSeconds (d : Duration) :
    (UInt64.ofNat (d.secs.toNat % 4294967296)).toNat = d.secs.toNat % 4294967296 :=
  UInt64.toNat_ofNat_of_lt' (by rw [UInt64.size]; omega)

/-- A lease is seen as it was asked for exactly if it is a span of whole seconds that fits. -/
theorem shownLease_eq_iff {d : Duration} : shownLease d = some d ↔ IsSpan d := by
  unfold shownLease IsSpan
  dsimp only
  constructor
  · intro h
    split at h
    next hfits =>
      have hd := Option.some.inj h
      have hnanos : d.nanos = 0 := congrArg Duration.nanos hd.symm
      have hsecs : d.secs.toNat = d.secs.toNat % 4294967296 :=
        (congrArg (fun d => d.secs.toNat) hd.symm).trans (toNat_lowSeconds d)
      refine ⟨by omega, by omega, ?_⟩
      rw [hnanos]
      rfl
    next => cases h
  · rintro ⟨hpos, hlt, hnanos⟩
    rw [Nat.mod_eq_of_lt (by omega), if_pos ⟨hpos, hlt⟩, UInt64.ofNat_toNat, Duration.fromSecs]
    exact congrArg some (congrArg (Duration.mk d.secs) (Fin.ext hnanos.symm))

/-- What is read of what is sent for a lease. -/
theorem readLease_leaseSeconds (d : Duration) : readLease (leaseSeconds d) = shownLease d := by
  have hv : (leaseSeconds d).toInt = wrapI32 d.secs.toNat := toInt_narrow64 d.secs
  unfold readLease shownLease
  simp only [Int32.lt_iff_toInt_lt, hv, Int32.toInt_zero]
  rcases wrapI32_cases d.secs.toNat with ⟨hlt, hw⟩ | ⟨hge, hw⟩
  · by_cases hzero : d.secs.toNat % 4294967296 = 0
    · rw [if_neg (by omega), if_neg (by omega)]
    · have hwide : asU64 (leaseSeconds d) = .ofNat (d.secs.toNat % 4294967296) :=
        widen_eq (by rw [hv, hw, toNat_lowSeconds])
      rw [if_pos (by omega), if_pos (by omega), hwide]
  · rw [if_neg (by omega), if_neg (by omega)]

/-- **What is seen is what was asked for**, exactly where the lease is a span of whole seconds that
fits, and no named event is spelled out. -/
theorem Subscription.shown_eq_iff {s : Subscription} : s.shown = s ↔ s.Readable := by
  constructor
  · intro h
    have hevents : (s.events.map NotifyEvent.keyword).map NotifyEvent.fromKeyword = s.events :=
      congrArg Subscription.events h
    have hlease : s.lease.bind shownLease = s.lease := congrArg Subscription.lease h
    constructor
    · rw [List.map_map] at hevents
      exact List.map_inj_left.mp (hevents.trans (List.map_id s.events).symm)
    · intro d hd
      rw [hd] at hlease
      exact shownLease_eq_iff.mp hlease
  · intro h
    have hlease : s.lease.bind shownLease = s.lease := by
      cases hd : s.lease with
      | none => rfl
      | some d => exact shownLease_eq_iff.mpr (h.lease d hd)
    unfold shown
    rw [NotifyEvent.map_keyword h.events, hlease]

theorem Subscription.shown_withLease (s : Subscription) (lease : Option Duration) :
    (s.withLease lease).shown = s.shown.withShownLease lease := by
  cases lease <;> rfl

namespace Book

theorem shown_ofPrinter (b : Book) (printer : String) :
    b.shown.ofPrinter printer = (b.ofPrinter printer).map Subscription.shown := by
  simp only [ofPrinter, shown, List.filter_map, List.map_map]
  rfl

theorem shown_get (b : Book) (id : Int32) : b.shown.get id = (b.get id).map Subscription.shown := by
  simp only [get, shown, List.find?_map, Option.map_map]
  rfl

theorem shown_update {f g : Subscription → Subscription} (h : ∀ s, (f s).shown = g s.shown)
    (b : Book) (id : Int32) : (b.update id f).shown = b.shown.update id g := by
  simp only [update, shown, List.map_map]
  congr 1
  refine List.map_congr_left fun entry _ => ?_
  have hid : entry.2.shown.id = entry.2.id := rfl
  simp only [Function.comp_apply, hid]
  by_cases hentry : entry.2.id = id
  · rw [if_pos hentry, if_pos hentry, h]
  · rw [if_neg hentry, if_neg hentry]

theorem shown_cancel (b : Book) (id : Int32) : (b.cancel id).shown = b.shown.cancel id := by
  simp only [cancel, shown, List.filter_map]
  rfl

end Book

/-! ## Reading what is held -/

theorem lookupIn_append (l l' : List IppAttribute) (name : String) :
    lookupIn (l ++ l') name = (lookupIn l name).or (lookupIn l' name) := by
  rw [lookupIn, List.find?_append]
  unfold lookupIn
  cases l.find? fun a => a.name = name <;> rfl

theorem lookupIn_subscriptionPart (m : IppRequestResponse) (name : String) :
    lookupIn m.subscriptionPart name = m.lookup .subscriptionAttributes name := by
  unfold IppRequestResponse.subscriptionPart IppRequestResponse.lookup
  cases m.firstOf .subscriptionAttributes <;> rfl

namespace Held

variable (h : Held)

/-- An attribute that was sent is given back, after the id and the user. -/
theorem value_toGroup {name : String} (hn : name ≠ "notify-subscription-id") :
    Attrs.value ⟨h.toGroup⟩ name =
      (lookupIn (h.user.map fun user =>
        ⟨"notify-subscriber-user-name", .nameWithoutLanguage user⟩).toList name).or
          (lookupIn h.attributes name) := by
  rw [← lookupIn_append]
  have hgroup : Attrs.value ⟨h.toGroup⟩ name = lookupIn h.toGroup.attributes name := rfl
  rw [hgroup, toGroup, lookupIn, List.find?_cons_of_neg (by simpa using Ne.symm hn)]
  rfl

theorem value_toGroup_sent {name : String} (hn : name ≠ "notify-subscription-id")
    (hn' : name ≠ "notify-subscriber-user-name") :
    Attrs.value ⟨h.toGroup⟩ name = lookupIn h.attributes name := by
  rw [h.value_toGroup hn]
  cases h.user <;> simp [lookupIn, Ne.symm hn']

/-- A value that is not updated. -/
theorem value_update {attributes : List IppAttribute} {name : String}
    (hn : name ≠ "notify-subscription-id") (hnone : lookupIn attributes name = none) :
    Attrs.value ⟨(h.update attributes).toGroup⟩ name = Attrs.value ⟨h.toGroup⟩ name := by
  rw [value_toGroup _ hn, value_toGroup _ hn, update, lookupIn_append, hnone, Option.none_or]

theorem user_toGroup {user : String} (hu : h.user = some user) :
    Attrs.text ⟨h.toGroup⟩ "notify-subscriber-user-name" = some user := by
  simp [Attrs.text, Attrs.value, IppAttributeGroup.get, toGroup, hu, Attrs.asText]

theorem decode_toGroup : Subscription.decode h.toGroup = .ok h.subscription := by
  have hid : Attrs.int ⟨h.toGroup⟩ "notify-subscription-id" = some h.id := by
    simp [Attrs.int, Attrs.value, IppAttributeGroup.get, toGroup, Attrs.asInt]
  have hlease (o : Option Int32) :
      ((o.filter fun d => decide (0 < d)).map fun d => Duration.fromSecs (asU64 d)) =
        o.bind readLease := by
    cases o with
    | none => rfl
    | some v =>
      simp only [Option.filter_some, Option.bind_some, readLease, decide_eq_true_eq]
      split <;> rfl
  simp only [Subscription.decode, bind, Except.bind, pure, Except.pure,
    Attrs.requireInt_eq_ok.mpr hid, hlease, subscription]

end Held

/-- All that is seen of what is read is there. -/
theorem Registry.shown_book (r : Registry) : r.book.shown = r.book := by
  have hread (h : Held) : h.subscription.shown = h.subscription :=
    Subscription.shown_eq_iff.mpr (Subscription.decode_readable h.decode_toGroup)
  simp only [book, Book.shown, List.map_map, Function.comp_def, hread]

section Rules

variable [IppCrate] [LawfulIppCrate] [LawfulHeader] {p : IppPrinter} {m m' : IppRequestResponse}
  {id : Int32} {lease : Option Duration}

/-! ## What the requests write -/

/-- A raw request has no attribute of another name. -/
theorem rawRequest_lookup {opcode : Int16} (h : p.rawRequest opcode = .ok m) (tag : DelimiterTag)
    {name : String} (hn : name ∉ "requesting-user-name" :: headerNames) :
    m.lookup tag name = none := by
  cases hl : m.lookup tag name with
  | none => rfl
  | some v => exact absurd (rawRequest_has h (IppRequestResponse.has_of_lookup hl)).1 hn

omit [LawfulHeader] in
theorem addLease_lookup (h : addLease m lease = .ok m') (name : String) :
    m'.lookup .subscriptionAttributes name =
      (m.lookup .subscriptionAttributes name).or
        (if name = "notify-lease-duration" then
          lease.map fun d => .integer (leaseSeconds d) else none) := by
  cases lease with
  | none =>
    cases h
    simp
  | some d =>
    obtain rfl := addAttribute_ok h
    rw [IppRequestResponse.lookup_add_self]
    by_cases hn : name = "notify-lease-duration"
    · simp [hn, leaseSeconds]
    · simp [hn, Ne.symm hn]

/-- What `subscribe` writes into the subscription group. -/
theorem subscribeRequest_lookup {events : List NotifyEvent}
    (h : p.subscribeRequest events lease = .ok m) :
    m.lookup .subscriptionAttributes "notify-events" =
        some (.array (events.map fun e => .keyword e.keyword)) ∧
      m.lookup .subscriptionAttributes "notify-lease-duration" =
        lease.map fun d => .integer (leaseSeconds d) := by
  obtain ⟨raw, hraw, h⟩ := bind_eq_ok.mp h
  obtain ⟨keywords, hk, h⟩ := bind_eq_ok.mp h
  obtain ⟨m₁, h₁, h⟩ := bind_eq_ok.mp h
  obtain ⟨method, -, h⟩ := bind_eq_ok.mp h
  obtain ⟨m₂, h₂, h⟩ := bind_eq_ok.mp h
  obtain rfl : keywords = events.map fun e => .keyword e.keyword :=
    mapM_eq_ok (fun _ _ => bounded_ok) hk
  obtain rfl := addAttribute_ok h₁
  obtain rfl := addAttribute_ok h₂
  have hevents : raw.lookup .subscriptionAttributes "notify-events" = none :=
    rawRequest_lookup hraw _ (by decide)
  have hlease : raw.lookup .subscriptionAttributes "notify-lease-duration" = none :=
    rawRequest_lookup hraw _ (by decide)
  rw [addLease_lookup h, addLease_lookup h]
  simp [IppRequestResponse.lookup_add_self, hevents, hlease]

/-- A raw request about one subscription: its id, and no subscription group. -/
theorem rawIntRequest_lookup {opcode : Int16}
    (h : p.rawIntRequest opcode "notify-subscription-id" id = .ok m) :
    m.operationInt "notify-subscription-id" = some id ∧
      ∀ name ∉ "requesting-user-name" :: headerNames,
        m.lookup .subscriptionAttributes name = none := by
  obtain ⟨raw, hraw, h⟩ := bind_eq_ok.mp h
  obtain rfl := addAttribute_ok h
  have hid : raw.operation "notify-subscription-id" = none :=
    rawRequest_lookup hraw _ (by decide)
  constructor
  · simp [IppRequestResponse.operationInt, IppRequestResponse.operation_add, hid, Attrs.asInt]
  · intro name hn
    rw [IppRequestResponse.lookup_add_ne (by decide)]
    exact rawRequest_lookup hraw _ hn

/-- What `renew_subscription` writes: the id, and the lease. -/
theorem renewSubscriptionRequest_lookup (h : p.renewSubscriptionRequest id lease = .ok m) :
    m.operationInt "notify-subscription-id" = some id ∧
      m.lookup .subscriptionAttributes "notify-events" = none ∧
      m.lookup .subscriptionAttributes "notify-subscriber-user-name" = none ∧
      m.lookup .subscriptionAttributes "notify-lease-duration" =
        lease.map fun d => .integer (leaseSeconds d) := by
  obtain ⟨m₁, h₁, h⟩ := bind_eq_ok.mp h
  obtain ⟨hid, hnone⟩ := rawIntRequest_lookup h₁
  refine ⟨?_, ?_, ?_, ?_⟩
  · rw [← hid]
    cases lease with
    | none =>
      cases h
      rfl
    | some d =>
      obtain rfl := addAttribute_ok h
      have hadd := IppRequestResponse.lookup_add_ne
        (show DelimiterTag.operationAttributes ≠ .subscriptionAttributes by decide) m₁
      simp only [IppRequestResponse.operationInt, IppRequestResponse.operation, hadd]
  · rw [addLease_lookup h, hnone _ (by decide)]
    simp
  · rw [addLease_lookup h, hnone _ (by decide)]
    simp
  · rw [addLease_lookup h, hnone _ (by decide)]
    simp

/-! ## A call moves the book -/

variable {success : Int16} {r : Registry} {b : Book} {w : World}
  {past : List (Exchange Post Reply)} {cell : Cache}

omit [IppCrate] [LawfulIppCrate] [LawfulHeader] in
theorem next_eq (hb : r.book = b.shown) : r.next = b.next := congrArg Book.next hb

omit [IppCrate] [LawfulIppCrate] [LawfulHeader] in
/-- What is seen of the entries is what is read of what is held. -/
theorem entries_eq (hb : r.book = b.shown) :
    r.held.map (fun h => (h.printer, h.subscription)) =
      b.entries.map fun entry => (entry.1, entry.2.shown) := congrArg Book.entries hb

/-- A created subscription is read as the call asked for it, as far as that is seen. -/
theorem step_created {events : List NotifyEvent} (h : p.subscribeRequest events lease = .ok m)
    (hb : r.book = b.shown) :
    ∃ created : Held, created.printer = some (IppCrate.printerUri p.uri) ∧
      created.subscription = (b.created p.client.user events lease).shown ∧
      r.step m = ({ next := r.next + 1, held := r.held ++ [created] }, [created]) := by
  obtain ⟨hcode, hprinter, huser⟩ := Heading.mk.inj (heading_subscribeRequest h)
  obtain ⟨hevents, hlease⟩ := subscribeRequest_lookup h
  let created : Held :=
    { id := r.next
      printer := m.operationText "printer-uri"
      user := m.operationText "requesting-user-name"
      attributes := m.subscriptionPart }
  have hsent {name : String} (hn : name ≠ "notify-subscription-id")
      (hn' : name ≠ "notify-subscriber-user-name") :
      Attrs.value ⟨created.toGroup⟩ name = m.lookup .subscriptionAttributes name :=
    (created.value_toGroup_sent hn hn').trans (lookupIn_subscriptionPart m name)
  have htexts : Attrs.texts ⟨created.toGroup⟩ "notify-events" =
      events.map NotifyEvent.keyword := by
    rw [Attrs.texts, hsent (by decide) (by decide), hevents]
    simp [List.filterMap_map, Function.comp_def, Attrs.asText]
  have hint : (Attrs.int ⟨created.toGroup⟩ "notify-lease-duration").bind readLease =
      lease.bind shownLease := by
    rw [Attrs.int, hsent (by decide) (by decide), hlease]
    cases lease with
    | none => rfl
    | some d => exact readLease_leaseSeconds d
  have huser : Attrs.text ⟨created.toGroup⟩ "notify-subscriber-user-name" =
      some p.client.user := by
    refine created.user_toGroup ?_
    have hread : m.operationText "requesting-user-name" = some p.client.user := by
      rw [IppRequestResponse.operationText, huser]
      rfl
    exact hread
  refine ⟨created, ?_, ?_, ?_⟩
  · have hread : m.operationText "printer-uri" = some (IppCrate.printerUri p.uri) := by
      rw [IppRequestResponse.operationText, hprinter]
      rfl
    exact hread
  · have hid : created.subscription.id = b.next := next_eq hb
    simp only [Held.subscription, htexts, hint, huser] at hid ⊢
    rw [hid]
    rfl
  · rw [Registry.step, if_pos hcode]

theorem step_subscribe {events : List NotifyEvent} (h : p.subscribeRequest events lease = .ok m)
    (hb : r.book = b.shown) :
    (r.step m).1.book =
      (b.subscribe (IppCrate.printerUri p.uri) p.client.user events lease).shown := by
  obtain ⟨created, hprinter, hread, hstep⟩ := step_created h hb
  simp only [hstep, Book.subscribe, Book.shown, Registry.book, List.map_append, entries_eq hb,
    next_eq hb, List.map_cons, List.map_nil, hread, hprinter]

/-- A renewed subscription is read with its new lease, if there is one. -/
theorem update_renewed (h : p.renewSubscriptionRequest id lease = .ok m) (old : Held) :
    (old.update m.subscriptionPart).subscription = old.subscription.withShownLease lease := by
  obtain ⟨-, hevents, hsubscriber, hlease⟩ := renewSubscriptionRequest_lookup h
  have hsame {name : String} (hn : name ≠ "notify-subscription-id")
      (hnone : m.lookup .subscriptionAttributes name = none) :
      Attrs.value ⟨(old.update m.subscriptionPart).toGroup⟩ name =
        Attrs.value ⟨old.toGroup⟩ name :=
    old.value_update hn ((lookupIn_subscriptionPart m name).trans hnone)
  have htexts : Attrs.texts ⟨(old.update m.subscriptionPart).toGroup⟩ "notify-events" =
      Attrs.texts ⟨old.toGroup⟩ "notify-events" := by
    rw [Attrs.texts, Attrs.texts, hsame (by decide) hevents]
  have huser : Attrs.text ⟨(old.update m.subscriptionPart).toGroup⟩
      "notify-subscriber-user-name" =
        Attrs.text ⟨old.toGroup⟩ "notify-subscriber-user-name" := by
    rw [Attrs.text, Attrs.text, hsame (by decide) hsubscriber]
  cases lease with
  | none =>
    have hint : Attrs.int ⟨(old.update m.subscriptionPart).toGroup⟩ "notify-lease-duration" =
        Attrs.int ⟨old.toGroup⟩ "notify-lease-duration" := by
      rw [Attrs.int, Attrs.int, hsame (by decide) hlease]
    simp only [Held.subscription, htexts, huser, hint]
    rfl
  | some d =>
    have hint : Attrs.int ⟨(old.update m.subscriptionPart).toGroup⟩ "notify-lease-duration" =
        some (leaseSeconds d) := by
      rw [Attrs.int, Held.value_toGroup_sent _ (by decide) (by decide), Held.update,
        lookupIn_append, lookupIn_subscriptionPart, hlease]
      rfl
    simp only [Held.subscription, htexts, huser, hint, Option.bind_some, readLease_leaseSeconds]
    rfl

/-- The subscription of the id is renewed, and no other. -/
theorem step_renew (h : p.renewSubscriptionRequest id lease = .ok m) (hb : r.book = b.shown) :
    (r.step m).1.book = (b.renew id lease).shown := by
  have hcode : m.operationOrStatus = renewSubscription :=
    congrArg Heading.code (heading_renewSubscriptionRequest h)
  obtain ⟨hid, -⟩ := renewSubscriptionRequest_lookup h
  have hne : renewSubscription ≠ createPrinterSubscriptions := by decide
  rw [Book.renew, Book.shown_update (g := fun s => s.withShownLease lease)
    fun s => s.shown_withLease lease, ← hb]
  simp only [Registry.step, hcode, if_neg hne, if_true, hid, Registry.book, Book.update,
    List.map_map]
  congr 1
  refine List.map_congr_left fun old _ => ?_
  have hreadId : old.subscription.id = old.id := rfl
  have hprinter : (old.update m.subscriptionPart).printer = old.printer := rfl
  simp only [Function.comp_apply, Option.some.injEq, hreadId]
  by_cases hold : old.id = id
  · rw [if_pos hold, if_pos hold, update_renewed h, hprinter]
  · rw [if_neg hold, if_neg hold]

/-- A cancelled subscription is gone. -/
theorem step_cancel (h : p.rawIntRequest cancelSubscription "notify-subscription-id" id = .ok m)
    (hb : r.book = b.shown) : (r.step m).1.book = (b.cancel id).shown := by
  have hcode : m.operationOrStatus = cancelSubscription :=
    congrArg Heading.code (heading_rawIntRequest (by decide) (by decide) h)
  obtain ⟨hid, -⟩ := rawIntRequest_lookup h
  have hne : cancelSubscription ≠ createPrinterSubscriptions ∧
      cancelSubscription ≠ renewSubscription := by decide
  rw [Book.shown_cancel, ← hb]
  simp only [Registry.step, hcode, if_neg hne.1, if_neg hne.2, if_true, hid, Registry.book,
    Book.cancel, List.filter_map, Function.comp_def, Held.subscription, ne_eq,
    Option.some.injEq]

omit [IppCrate] [LawfulIppCrate] [LawfulHeader] in
/-- Requests of other operations leave the registry as it is. -/
theorem step_other (h : m.operationOrStatus ∉ subscriptionChanges) (r : Registry) :
    (r.step m).1 = r := by
  simp only [subscriptionChanges, List.mem_cons, List.not_mem_nil, or_false, not_or] at h
  obtain ⟨hcreate, hrenew, hcancel⟩ := h
  simp only [Registry.step, if_neg hcreate, if_neg hrenew, if_neg hcancel]
  split
  · rfl
  · split <;> rfl

omit [IppCrate] [LawfulIppCrate] [LawfulHeader] in
/-- What the server has after one more request of a client. -/
theorem after_exchange (c : IppClient) (m : IppRequestResponse) (r : Registry) :
    (Registry.peer success).after r (past ++ [c.exchange w past m]) =
      (((Registry.peer success).after r past).step m).1 := by
  rw [Peer.after_append]
  rfl

omit [IppCrate] [LawfulIppCrate] [LawfulHeader] in
theorem codes_noChange {call : Call} (h : ¬ call.ChangesSubscriptions) :
    ∀ code ∈ call.codes, code ∉ subscriptionChanges := by
  refine Call.forall_codes (fun call => ¬ call.ChangesSubscriptions) (fun m _ => ?_)
    (fun uri m h => ?_) (fun uri id closed m _ => ?_) h
  · cases m <;> rfl
  · cases m <;> first | rfl | exact absurd trivial h
  · cases m <;> rfl

omit [LawfulIppCrate] [LawfulHeader] in
theorem Book.step_other {call : Call} (h : ¬ call.ChangesSubscriptions) (b : Book) (c : IppClient) :
    b.step c call = b := by
  cases call with
  | client _ => rfl
  | printer uri method =>
    cases method with
    | subscribe _ _ | renewSubscription _ _ | cancelSubscription _ => exact absurd trivial h
    | _ => rfl
  | job _ _ _ _ => rfl

/-- **A call moves the book.** What the server holds is read after the call as the book says, as
far as that is seen. -/
theorem Call.moves_book (call : Call) (c : IppClient) (w : World)
    (past : List (Exchange Post Reply)) (cell : Cache) (success : Int16) (r : Registry) {b : Book}
    (hb : ((Registry.peer success).after r past).book = b.shown) :
    ((Registry.peer success).after r (past ++ (call.run c w past cell).trace)).book =
      (b.step c call).shown := by
  by_cases hcall : call.ChangesSubscriptions
  · cases call with
    | client _ => exact absurd hcall id
    | printer uri method =>
      cases method with
      | subscribe events lease =>
        have htrace : (Call.run c (.printer uri (.subscribe events lease)) w past cell).trace =
            (IppPrinter.subscribe ⟨c, uri⟩ events lease w past cell).trace :=
          Act.void_trace w past cell _
        rw [htrace, Book.step]
        unfold IppPrinter.subscribe
        cases hm : IppPrinter.subscribeRequest ⟨c, uri⟩ events lease with
        | error e => rwa [ask_unbuilt rfl, List.append_nil]
        | ok m => rw [ask_trace rfl, after_exchange, step_subscribe hm hb]
      | renewSubscription id lease =>
        rw [Book.step, Call.run, PrinterMethod.run, IppPrinter.renewSubscription]
        cases hm : IppPrinter.renewSubscriptionRequest ⟨c, uri⟩ id lease with
        | error e => rwa [perform_unbuilt rfl, List.append_nil]
        | ok m => rw [perform_trace rfl, after_exchange, step_renew hm hb]
      | cancelSubscription id =>
        rw [Book.step, Call.run, PrinterMethod.run, IppPrinter.cancelSubscription]
        cases hm : IppPrinter.rawIntRequest ⟨c, uri⟩ cancelSubscription "notify-subscription-id"
            id with
        | error e => rwa [perform_unbuilt rfl, List.append_nil]
        | ok m => rw [perform_trace rfl, after_exchange, step_cancel hm hb]
      | _ => exact absurd hcall id
    | job _ _ _ _ => exact absurd hcall id
  · rw [Book.step_other hcall, Peer.after_append, Peer.after_ignored]
    · exact hb
    · intro e he r'
      exact step_other (codes_noChange hcall _ (call.sentCode_mem he)) r'

/-! ## The readers -/

omit [IppCrate] [LawfulIppCrate] [LawfulHeader] in
/-- The groups of held subscriptions are all read. -/
theorem decodeAll_toGroup (status : Int16) (hs : List Held) :
    decodeAll ⟨status, hs.map Held.toGroup, []⟩ .subscriptionAttributes Subscription.decode =
      hs.map Held.subscription := by
  have hgroups : IppRequestResponse.groupsOf ⟨status, hs.map Held.toGroup, []⟩
      .subscriptionAttributes = hs.map Held.toGroup := by
    rw [IppRequestResponse.groupsOf, List.filter_eq_self]
    intro g hg
    obtain ⟨h, -, rfl⟩ := List.mem_map.mp hg
    rfl
  rw [decodeAll, hgroups, List.filterMap_map]
  exact List.filterMap_eq_map_iff_forall_eq_some.mpr fun h _ =>
    decoded_eq_some.mpr h.decode_toGroup

omit [LawfulIppCrate] [LawfulHeader] in
/-- A request about subscriptions, and what is read of the server's answer. -/
theorem ask_kept {α : Type} {request : Except Error IppRequestResponse} {label : String}
    {decode : IppRequestResponse → Except Error α} (hs : IppCrate.isSuccess success = true)
    (hw : w.Keeps success r) (hm : request = .ok m)
    (hop : m.operationOrStatus ∈ subscriptionOperations) :
    (p.ask request label decode w past cell).result =
      decode ⟨success,
        (((Registry.peer success).after r past).step m).2.map Held.toGroup, []⟩ := by
  have hreply : (p.client.exchange w past m).reply = .ok ⟨success,
      (((Registry.peer success).after r past).step m).2.map Held.toGroup, []⟩ :=
    hw past ⟨p.client.inner.uri, m⟩ hop
  have ha : IppClient.accept label (p.client.exchange w past m).reply = .ok ⟨success,
      (((Registry.peer success).after r past).step m).2.map Held.toGroup, []⟩ :=
    IppClient.accept_eq_ok.mpr ⟨hreply, hs⟩
  have hsend : p.client.send m label w past cell =
      ⟨IppClient.accept label (p.client.exchange w past m).reply, [p.client.exchange w past m],
        cell⟩ := IppClient.send_exchange m label
  rw [ha] at hsend
  unfold IppPrinter.ask
  rw [Act.ofExcept_ok_bind hm, Act.bind_ok w past cell hsend]
  rfl

/-- `subscribe` returns what is seen of the subscription that was asked for, with the id that it was
given. -/
theorem subscribe_kept (hs : IppCrate.isSuccess success = true) (hw : w.Keeps success r)
    (hb : ((Registry.peer success).after r past).book = b.shown)
    {events : List NotifyEvent} (hm : p.subscribeRequest events lease = .ok m) :
    (p.subscribe events lease w past cell).result =
      .ok (b.created p.client.user events lease).shown := by
  have hcode : m.operationOrStatus = createPrinterSubscriptions :=
    congrArg Heading.code (heading_subscribeRequest hm)
  obtain ⟨created, -, hread, hstep⟩ := step_created hm hb
  unfold IppPrinter.subscribe
  rw [ask_kept hs hw hm (by rw [hcode]; decide), firstSubscription, decodeAll_toGroup, hstep]
  exact congrArg Except.ok hread

omit [LawfulHeader] in
theorem subscriptions_kept (hs : IppCrate.isSuccess success = true) (hw : w.Keeps success r)
    (hm : p.rawRequest getSubscriptions = .ok m) :
    (p.subscriptions w past cell).result =
      .ok (((Registry.peer success).after r past).book.ofPrinter
        (IppCrate.printerUri p.uri)) := by
  obtain ⟨hcode, hprinter, -⟩ := Heading.mk.inj (heading_rawRequest (by decide) hm)
  have hp : m.operationText "printer-uri" = some (IppCrate.printerUri p.uri) := by
    rw [IppRequestResponse.operationText, hprinter]
    rfl
  have hstep (r' : Registry) : (r'.step m).2 =
      r'.held.filter fun h => h.printer = some (IppCrate.printerUri p.uri) := by
    rw [Registry.step, hcode, if_neg (by decide), if_neg (by decide), if_neg (by decide), hp]
    rfl
  unfold IppPrinter.subscriptions
  rw [ask_kept hs hw hm (by rw [hcode]; decide), decodeAll_toGroup, hstep]
  simp only [Book.ofPrinter, Registry.book, List.filter_map, List.map_map]
  rfl

theorem subscription_kept (hs : IppCrate.isSuccess success = true) (hw : w.Keeps success r)
    (hm : p.rawIntRequest getSubscriptionAttributes "notify-subscription-id" id = .ok m) :
    (p.subscription id w past cell).result =
      (((Registry.peer success).after r past).book.get id).elim
        (.error (missing "notify-subscription-id")) .ok := by
  have hcode : m.operationOrStatus = getSubscriptionAttributes :=
    congrArg Heading.code (heading_rawIntRequest (by decide) (by decide) hm)
  obtain ⟨hid, -⟩ := rawIntRequest_lookup hm
  have hstep (r' : Registry) : (r'.step m).2 = r'.held.filter fun h => some h.id = some id := by
    rw [Registry.step, hcode, if_neg (by decide), if_neg (by decide), if_neg (by decide), hid]
    rfl
  have hget (r' : Registry) : r'.book.get id =
      ((r'.held.filter fun h => some h.id = some id).map Held.subscription).head? := by
    rw [Book.get, Registry.book, List.find?_map, Option.map_map, List.head?_map, List.head?_filter]
    simp only [Option.some.injEq]
    rfl
  unfold IppPrinter.subscription
  rw [ask_kept hs hw hm (by rw [hcode]; decide), firstSubscription, decodeAll_toGroup, hstep, hget]
  cases List.head? _ <;> rfl

/-! ## All calls -/

/-- **Subscriptions are read as they were asked for.** After any calls of any clients, in any
order, a handle is shown what the calls meant: `subscriptions` returns those of its printer,
`subscription` the one of the id, and `subscribe` the new one. What is seen of a subscription is the
subscription that was asked for exactly if its lease is whole seconds that fit, or none, and no
named event is spelled out. -/
theorem subscriptions_tracked (w : World) (success : Int16) (r : Registry)
    (hs : IppCrate.isSuccess success = true) (hw : w.Keeps success r) (visits : List Visit)
    (p : IppPrinter) (cell : Cache) :
    let past := Peer.runs (Visit.trace w) [] visits
    let book := visits.foldl (fun b v => b.step v.client v.call) r.book
    (∀ m, p.rawRequest getSubscriptions = .ok m →
      (p.subscriptions w past cell).result =
        .ok ((book.ofPrinter (IppCrate.printerUri p.uri)).map Subscription.shown)) ∧
    (∀ id m, p.rawIntRequest getSubscriptionAttributes "notify-subscription-id" id = .ok m →
      (p.subscription id w past cell).result =
        (book.get id).elim (.error (missing "notify-subscription-id")) fun s => .ok s.shown) ∧
    (∀ events lease m, p.subscribeRequest events lease = .ok m →
      (p.subscribe events lease w past cell).result =
        .ok (book.created p.client.user events lease).shown) ∧
    ∀ s : Subscription, s.shown = s ↔ s.Readable := by
  have htracks : ((Registry.peer success).after r (Peer.runs (Visit.trace w) [] visits)).book =
      (visits.foldl (fun b v => b.step v.client v.call) r.book).shown :=
    Peer.runs_follow (Registry.peer success) (R := fun (b : Book) r => r.book = b.shown)
      (fun v past _ hb => v.call.moves_book v.client w past v.cell success r hb) [] visits
      r.shown_book.symm
  intro past book
  refine ⟨fun m hm => ?_, fun id m hm => ?_, fun events lease m hm => ?_,
    fun s => Subscription.shown_eq_iff⟩
  · rw [subscriptions_kept hs hw hm, htracks, Book.shown_ofPrinter]
  · rw [subscription_kept hs hw hm, htracks, Book.shown_get]
    cases Book.get _ id <;> rfl
  · exact subscribe_kept hs hw htracks hm

end Rules

/-! ## A subscription that is renewed -/

section Reference

attribute [local instance] Reference.crate

/-- A server that keeps subscriptions, and holds `r` at the start. -/
def keeper (r : Registry) : World where
  reply := (Registry.peer 0).answer r
  openFile _ := .ok []
  userLpoptions := none
  systemLpoptions := none

/-- The subscription 1 of two, which is renewed after the other was cancelled. -/
def renewals : List Visit :=
  [⟨localClient, .printer queueUri (.subscribe [.jobCompleted] none), none⟩,
    ⟨localClient, .printer queueUri (.subscribe [.printerStopped] none), none⟩,
    ⟨localClient, .printer queueUri (.cancelSubscription 2), none⟩,
    ⟨localClient, .printer queueUri (.renewSubscription 1 (some (.fromSecs 90))), none⟩]

theorem subscriptions_tracked_renewed :
    (IppPrinter.subscription ⟨localClient, queueUri⟩ 1 (keeper ⟨1, []⟩)
      (Peer.runs (Visit.trace (keeper ⟨1, []⟩)) [] renewals) none).result =
        .ok ⟨1, [.jobCompleted], some (.fromSecs 90), some "tester"⟩ := by
  have := Reference.lawful
  have := Reference.lawfulHeader
  obtain ⟨m, hm⟩ : ∃ m, IppPrinter.rawIntRequest ⟨localClient, queueUri⟩
      getSubscriptionAttributes "notify-subscription-id" 1 = .ok m := ⟨_, rfl⟩
  exact (subscriptions_tracked (keeper ⟨1, []⟩) 0 ⟨1, []⟩ rfl (fun _ _ _ => rfl) renewals
    ⟨localClient, queueUri⟩ none).2.1 1 m hm

end Reference

end Ipp
