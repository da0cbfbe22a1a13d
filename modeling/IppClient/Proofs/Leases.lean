import IppClient.Base.Narrow
import IppClient.Client.Operations
import IppClient.Proofs.MechanismError

/-!
# Durations on the wire

A lease is a `Duration`, and what is sent of it is `as_secs() as i32`; the timeout and the limit of
a device scan are narrowed the same way. The reader takes a lease of zero or less for no expiry.

* `Cups.asksWith_iff`: the two numbers that `devices_get` sends.
* `LeaseCall.askedLease`: the integer that `subscribe` and `renew_subscription` send.
* `LeaseSurvives`: what it should be.
* `leases_survive_iff`: **a lease survives exactly when it is zero, or is a second at least and its
  seconds keep their place among the `i32`s**; so do timeouts and limits that keep theirs.
-/

namespace Cups

open Base

/-! ## What a device scan sends -/

/-- `devices_get` asks the mechanism for devices with these two numbers: what it returns depends on
the answer to them alone. -/
def AsksWith (timeout : Duration) (limit : UInt32) (t l : Int32) : Prop :=
  ∀ p p' : MechanismProxy, p.devicesGet t l [] [] = p'.devicesGet t l [] [] →
    CupsPk.devicesGet ⟨p⟩ timeout limit = CupsPk.devicesGet ⟨p'⟩ timeout limit

/-- A mechanism that does all it is asked to, and answers a scan in this way. -/
def scanning (devices : Int32 → Int32 → Except ZbusError (String × Dictionary)) :
    MechanismProxy where
  printerAdd _ _ _ _ _ := .ok ""
  printerDelete _ := .ok ""
  printerRename _ _ := .ok ""
  printerSetDefault _ := .ok ""
  printerSetEnabled _ _ := .ok ""
  printerSetAcceptJobs _ _ _ := .ok ""
  printerSetInfo _ _ := .ok ""
  printerSetLocation _ _ := .ok ""
  printerAddOptionDefault _ _ _ := .ok ""
  devicesGet t l _ _ := devices t l
  jobCancelPurge _ _ := .ok ""

/-- `devices_get` sends the whole seconds of its timeout and its limit, both narrowed. -/
theorem asksWith_iff {timeout : Duration} {limit : UInt32} {t l : Int32} :
    AsksWith timeout limit t l ↔ t = timeoutSeconds timeout ∧ l = limit.toInt32 := by
  constructor
  · intro h
    by_contra hne
    -- Two mechanisms that differ in their answer to what is sent only.
    have := h (scanning fun _ _ => .ok ("", []))
      (scanning fun t' l' => if t' = timeoutSeconds timeout ∧ l' = limit.toInt32 then
        .error ⟨""⟩ else .ok ("", []))
      (by simp only [scanning, if_neg hne])
    simp only [CupsPk.devicesGet, scanning, and_self, if_true] at this
    cases this
  · rintro ⟨rfl, rfl⟩ p p' h
    simp only [CupsPk.devicesGet, h]

end Cups

namespace Ipp

open Base

/-- The integer sent for a lease: `as_secs() as i32`. -/
def leaseSeconds (d : Duration) : Int32 := d.secs.toInt64.toInt32

/-- The lease a request asks for: the `notify-lease-duration` its subscription group ends with. -/
def IppRequestResponse.askedLease (m : IppRequestResponse) : Option Int32 :=
  ((m.firstOf .subscriptionAttributes).bind fun g => g.attributes.getLast?).bind fun a =>
    if a.name = "notify-lease-duration" then Attrs.asInt a.value else none

/-! ## Narrowed spans -/

theorem secs_le_of_asNanos_le {d d' : Duration} (h : d'.asNanos ≤ d.asNanos) :
    d'.secs.toNat ≤ d.secs.toNat := by
  unfold Duration.asNanos at h
  have := d.nanos.isLt
  omega

theorem fromSecs_asNanos_le {d : Duration} {m : Nat} (h : m ≤ d.secs.toNat) :
    (Duration.fromSecs (.ofNat m)).asNanos ≤ d.asNanos ∧
      (Duration.fromSecs (.ofNat m)).secs.toNat = m := by
  have hlt : m < UInt64.size := Nat.lt_of_le_of_lt h d.secs.toNat_lt
  have hm : (UInt64.ofNat m).toNat = m := UInt64.toNat_ofNat_of_lt' hlt
  refine ⟨?_, hm⟩
  rw [Duration.asNanos_fromSecs, hm, Duration.asNanos]
  omega

/-- A span keeps its order when its seconds keep their place. -/
theorem narrowed_ordered_iff (d : Duration) :
    (0 ≤ d.secs.toInt64.toInt32 ∧
        ∀ d' : Duration, d'.asNanos ≤ d.asNanos →
          d'.secs.toInt64.toInt32 ≤ d.secs.toInt64.toInt32) ↔
      KeepsPlace d.secs.toNat := by
  rw [← wrapI32_ordered_iff]
  simp only [Int32.le_iff_toInt_le, toInt_narrow64, Int32.toInt_zero]
  refine and_congr_right fun _ => ⟨fun h m hm => ?_, fun h d' hd' => ?_⟩
  · obtain ⟨hle, hsecs⟩ := fromSecs_asNanos_le hm
    have := h _ hle
    rwa [hsecs] at this
  · exact h _ (secs_le_of_asNanos_le hd')

/-- A limit keeps its order when it fits. -/
theorem limit_ordered_iff (limit : UInt32) :
    (0 ≤ limit.toInt32 ∧ ∀ l : UInt32, l ≤ limit → l.toInt32 ≤ limit.toInt32) ↔
      limit.toNat < 2147483648 := by
  have hlimit : limit.toNat < 4294967296 := limit.toNat_lt
  have hplace : KeepsPlace limit.toNat ↔ limit.toNat < 2147483648 := by
    unfold KeepsPlace
    omega
  rw [← hplace, ← wrapI32_ordered_iff]
  simp only [Int32.le_iff_toInt_le, toInt_narrow32, Int32.toInt_zero, UInt32.le_iff_toNat_le]
  refine and_congr_right fun _ => ⟨fun h m hm => ?_, fun h l hl => h _ hl⟩
  have hm' : (UInt32.ofNat m).toNat = m :=
    UInt32.toNat_ofNat_of_lt' (Nat.lt_of_le_of_lt hm limit.toNat_lt)
  have := h (.ofNat m) (by rw [hm']; exact hm)
  rwa [hm'] at this

theorem leaseSeconds_of_lt {d : Duration} (h : d.secs.toNat < 2147483648) :
    (leaseSeconds d).toInt = d.secs.toNat := by
  rw [leaseSeconds, toInt_narrow64, wrapI32_of_lt h]

/-- The lease of a group that grants a positive integer. -/
theorem Subscription.lease_decode {group : IppAttributeGroup} {s : Subscription} {n : Int32}
    (h : Subscription.decode group = .ok s)
    (hn : Attrs.int ⟨group⟩ "notify-lease-duration" = some n) (hpos : 0 < n) :
    s.lease = some (.fromSecs (asU64 n)) := by
  obtain ⟨id, -, h⟩ := bind_eq_ok.mp h
  cases h
  simp only [hn, Option.filter_some, hpos, decide_true, if_true, Option.map_some]

/-! ## What is sent -/

section

variable [IppCrate]

/-- An exchange of some run of `subscribe` or of `renew_subscription` with the lease `d`. -/
inductive LeaseCall (p : IppPrinter) (d : Duration) (e : Exchange Post Reply) : Prop where
  | subscribe {events : List NotifyEvent} {w : World} {past : List (Exchange Post Reply)}
      {cell : Cache} (he : e ∈ (p.subscribe events (some d) w past cell).trace)
  | renew {id : Int32} {w : World} {past : List (Exchange Post Reply)} {cell : Cache}
      (he : e ∈ (p.renewSubscription id (some d) w past cell).trace)

/-- What `p` sends for `d` says what `d` says: it is no negative lease, no endless one unless `d` is
zero, not below what is sent for a shorter lease, and the seconds themselves where they fit, which a
server that grants them hands back. -/
structure LeaseSurvives (p : IppPrinter) (d : Duration) (n : Int32) : Prop where
  nonneg : 0 ≤ n
  positive : 0 < d.asNanos → 0 < n
  ordered : ∀ d' e' n', LeaseCall p d' e' → e'.call.request.askedLease = some n' →
    d'.asNanos ≤ d.asNanos → n' ≤ n
  exact : 1 ≤ d.secs.toNat → d.secs.toNat < 2147483648 → n.toInt = d.secs.toNat
  granted : 1 ≤ d.secs.toNat → d.secs.toNat < 2147483648 → ∀ group subscription,
    Attrs.int ⟨group⟩ "notify-lease-duration" = some n →
    Subscription.decode group = .ok subscription →
    subscription.lease = some (.fromSecs d.secs)

variable [LawfulAttribute] {p : IppPrinter} {d : Duration} {e : Exchange Post Reply}

theorem askedLease_addLease {m m' : IppRequestResponse}
    (h : addLease m (some d) = .ok m') : m'.askedLease = some (leaseSeconds d) := by
  rw [addAttribute_ok h, IppRequestResponse.askedLease, IppRequestResponse.firstOf_add]
  simp [Attrs.asInt, leaseSeconds]

theorem IppPrinter.subscribeRequest_askedLease {events : List NotifyEvent}
    {m : IppRequestResponse} (h : p.subscribeRequest events (some d) = .ok m) :
    m.askedLease = some (leaseSeconds d) := by
  obtain ⟨_, -, h⟩ := bind_eq_ok.mp h
  obtain ⟨_, -, h⟩ := bind_eq_ok.mp h
  obtain ⟨_, -, h⟩ := bind_eq_ok.mp h
  obtain ⟨_, -, h⟩ := bind_eq_ok.mp h
  obtain ⟨_, -, h⟩ := bind_eq_ok.mp h
  exact askedLease_addLease h

theorem IppPrinter.renewSubscriptionRequest_askedLease {id : Int32} {m : IppRequestResponse}
    (h : p.renewSubscriptionRequest id (some d) = .ok m) :
    m.askedLease = some (leaseSeconds d) := by
  obtain ⟨_, -, h⟩ := bind_eq_ok.mp h
  exact askedLease_addLease h

/-- Both methods send the whole seconds, narrowed. -/
theorem LeaseCall.askedLease (h : LeaseCall p d e) :
    e.call.request.askedLease = some (leaseSeconds d) := by
  cases h with
  | @subscribe events w past cell he =>
    have hs : Act.Emits (fun e => e.call.request.askedLease = some (leaseSeconds d))
        (p.subscribe events (some d)) :=
      ask_emits p fun m hm _ => IppPrinter.subscribeRequest_askedLease hm
    exact hs _ _ _ e he
  | @renew id w past cell he =>
    have hr : Act.Emits (fun e => e.call.request.askedLease = some (leaseSeconds d))
        (p.renewSubscription id (some d)) :=
      perform_emits p fun m hm _ => IppPrinter.renewSubscriptionRequest_askedLease hm
    exact hr _ _ _ e he

/-- A request that can be built with one lease can be built with any. -/
theorem addLease_taken {m m' : IppRequestResponse} (h : addLease m (some d) = .ok m')
    (d' : Duration) : ∃ m₁, addLease m (some d') = .ok m₁ := addAttribute_taken h m _ _

theorem IppPrinter.subscribeRequest_taken {events : List NotifyEvent} {m : IppRequestResponse}
    (h : p.subscribeRequest events (some d) = .ok m) (d' : Duration) :
    ∃ m', p.subscribeRequest events (some d') = .ok m' := by
  obtain ⟨request, hrequest, h⟩ := bind_eq_ok.mp h
  obtain ⟨keywords, hkeywords, h⟩ := bind_eq_ok.mp h
  obtain ⟨request₁, hrequest₁, h⟩ := bind_eq_ok.mp h
  obtain ⟨method, hmethod, h⟩ := bind_eq_ok.mp h
  obtain ⟨request₂, hrequest₂, h⟩ := bind_eq_ok.mp h
  obtain ⟨m', h'⟩ := addLease_taken h d'
  exact ⟨m', bind_eq_ok.mpr ⟨_, hrequest, bind_eq_ok.mpr ⟨_, hkeywords, bind_eq_ok.mpr
    ⟨_, hrequest₁, bind_eq_ok.mpr ⟨_, hmethod, bind_eq_ok.mpr ⟨_, hrequest₂, h'⟩⟩⟩⟩⟩⟩

theorem IppPrinter.renewSubscriptionRequest_taken {id : Int32} {m : IppRequestResponse}
    (h : p.renewSubscriptionRequest id (some d) = .ok m) (d' : Duration) :
    ∃ m', p.renewSubscriptionRequest id (some d') = .ok m' := by
  obtain ⟨request, hrequest, h⟩ := bind_eq_ok.mp h
  obtain ⟨m', h'⟩ := addLease_taken h d'
  exact ⟨m', bind_eq_ok.mpr ⟨_, hrequest, h'⟩⟩

/-- The same call with another lease gets as far. -/
theorem LeaseCall.other (h : LeaseCall p d e) (d' : Duration) : ∃ e', LeaseCall p d' e' := by
  cases h with
  | @subscribe events w past cell he =>
    cases hm : p.subscribeRequest events (some d) with
    | error err =>
      rw [IppPrinter.subscribe, ask_unbuilt hm] at he
      cases he
    | ok m =>
      obtain ⟨m', hm'⟩ := IppPrinter.subscribeRequest_taken hm d'
      have htrace : (p.subscribe events (some d') w past cell).trace =
          [p.client.exchange w past m'] := ask_trace hm' w past cell
      exact ⟨_, .subscribe (htrace ▸ List.mem_singleton_self _)⟩
  | @renew id w past cell he =>
    cases hm : p.renewSubscriptionRequest id (some d) with
    | error err =>
      rw [IppPrinter.renewSubscription, perform_unbuilt hm] at he
      cases he
    | ok m =>
      obtain ⟨m', hm'⟩ := IppPrinter.renewSubscriptionRequest_taken hm d'
      have htrace : (p.renewSubscription id (some d') w past cell).trace =
          [p.client.exchange w past m'] := perform_trace hm' w past cell
      exact ⟨_, .renew (htrace ▸ List.mem_singleton_self _)⟩

/-- **Which leases survive.** -/
theorem leaseSurvives_iff (h : LeaseCall p d e) :
    LeaseSurvives p d (leaseSeconds d) ↔
      d.asNanos = 0 ∨ (1 ≤ d.secs.toNat ∧ KeepsPlace d.secs.toNat) := by
  -- What is sent for another lease.
  have hother (d' : Duration) : ∃ e', LeaseCall p d' e' ∧
      e'.call.request.askedLease = some (leaseSeconds d') := by
    obtain ⟨e', he'⟩ := h.other d'
    exact ⟨e', he', he'.askedLease⟩
  have hsent {d' : Duration} {e' : Exchange Post Reply} {n' : Int32} (h' : LeaseCall p d' e')
      (hn : e'.call.request.askedLease = some n') : n' = leaseSeconds d' :=
    Option.some.inj (hn.symm.trans h'.askedLease)
  constructor
  · intro hs
    have hkeeps : KeepsPlace d.secs.toNat := by
      refine (narrowed_ordered_iff d).mp ⟨hs.nonneg, fun d' hle => ?_⟩
      obtain ⟨e', he', hn'⟩ := hother d'
      exact hs.ordered d' e' _ he' hn' hle
    by_cases hz : d.asNanos = 0
    · exact .inl hz
    · refine .inr ⟨?_, hkeeps⟩
      by_contra hsecs
      -- Less than a second: the integer is zero.
      have hpos := hs.positive (by omega)
      rw [Int32.lt_iff_toInt_lt, leaseSeconds_of_lt (by omega), Int32.toInt_zero] at hpos
      omega
  · rintro (hz | ⟨hs, hkeeps⟩)
    · have hsecs : d.secs.toNat = 0 := by
        unfold Duration.asNanos at hz
        omega
      have hkeeps : KeepsPlace d.secs.toNat := .inl (by omega)
      obtain ⟨hnonneg, hordered⟩ := (narrowed_ordered_iff d).mpr hkeeps
      refine ⟨hnonneg, by omega, fun d' e' n' he' hn' hle => ?_, by omega, by omega⟩
      rw [hsent he' hn']
      exact hordered d' hle
    · obtain ⟨hnonneg, hordered⟩ := (narrowed_ordered_iff d).mpr hkeeps
      have hpos : 0 < leaseSeconds d := by
        rw [Int32.lt_iff_toInt_lt, leaseSeconds, toInt_narrow64, Int32.toInt_zero]
        rcases hkeeps with h | h
        · rw [wrapI32_of_lt h]
          omega
        · rcases wrapI32_cases d.secs.toNat with hw | hw <;> omega
      refine ⟨hnonneg, fun _ => hpos, fun d' e' n' he' hn' hle => ?_, fun _ => leaseSeconds_of_lt,
        fun _ hlt group s hint hdec => ?_⟩
      · rw [hsent he' hn']
        exact hordered d' hle
      · rw [Subscription.lease_decode hdec hint hpos, asU64, widen_eq (leaseSeconds_of_lt hlt)]

/-- **Which leases, timeouts and limits survive the wire.** A lease does exactly when it is zero,
or at least one second with seconds that keep their place among the `i32`s; the timeout and the
limit of a device scan are non-negative and in order exactly when they keep theirs. -/
theorem leases_survive_iff (h : LeaseCall p d e) {timeout : Duration} {limit : UInt32} {t l : Int32}
    (hscan : Cups.AsksWith timeout limit t l) :
    ((∃ n, e.call.request.askedLease = some n ∧ LeaseSurvives p d n) ↔
      d.asNanos = 0 ∨ (1 ≤ d.secs.toNat ∧ KeepsPlace d.secs.toNat)) ∧
    ((0 ≤ t ∧ ∀ timeout' limit' t' l', Cups.AsksWith timeout' limit' t' l' →
        timeout'.asNanos ≤ timeout.asNanos → t' ≤ t) ↔
      KeepsPlace timeout.secs.toNat) ∧
    ((0 ≤ l ∧ ∀ timeout' limit' t' l', Cups.AsksWith timeout' limit' t' l' →
        limit' ≤ limit → l' ≤ l) ↔
      limit.toNat < 2147483648) := by
  obtain ⟨rfl, rfl⟩ := Cups.asksWith_iff.mp hscan
  refine ⟨?_, ?_, ?_⟩
  · rw [h.askedLease, ← leaseSurvives_iff h]
    constructor
    · rintro ⟨n, hn, hs⟩
      cases hn
      exact hs
    · exact fun hs => ⟨_, rfl, hs⟩
  · rw [← narrowed_ordered_iff]
    refine and_congr_right fun _ => ⟨fun h d' hle => ?_, ?_⟩
    · exact h d' 0 _ _ (Cups.asksWith_iff.mpr ⟨rfl, rfl⟩) hle
    · rintro h timeout' limit' t' l' hscan' hle
      obtain ⟨rfl, rfl⟩ := Cups.asksWith_iff.mp hscan'
      exact h timeout' hle
  · rw [← limit_ordered_iff]
    refine and_congr_right fun _ => ⟨fun h limit' hle => ?_, ?_⟩
    · exact h timeout limit' _ _ (Cups.asksWith_iff.mpr ⟨rfl, rfl⟩) hle
    · rintro h timeout' limit' t' l' hscan' hle
      obtain ⟨rfl, rfl⟩ := Cups.asksWith_iff.mp hscan'
      exact h limit' hle

end

/-! ## A lease of half a second -/

section Reference

attribute [local instance] Reference.crate

/-- The handle of a queue of the local daemon. -/
def leaseQueue : IppPrinter :=
  ⟨localClient, ⟨some "http", some ⟨"localhost:631", "localhost", some 631⟩, "/printers/laser", none⟩⟩

/-- What renewing subscription `7` of the queue sends, when nothing answers. -/
def renewal (d : Duration) : List (Exchange Post Reply) :=
  (leaseQueue.renewSubscription 7 (some d) (.answering fun _ => refused) [] none).trace

/-- Half a second. -/
def halfSecond : Duration := ⟨0, ⟨500000000, by decide⟩⟩

/-- The request for half a second. -/
def halfSecondRenewal : Exchange Post Reply :=
  (renewal halfSecond).headD ⟨⟨leaseQueue.uri, ⟨0, [], []⟩⟩, refused⟩

theorem halfSecondRenewal_call : LeaseCall leaseQueue halfSecond halfSecondRenewal := by
  have he : halfSecondRenewal ∈ renewal halfSecond := List.mem_singleton.mpr rfl
  exact .renew he

theorem leases_survive_iff_halfSecond :
    (∃ n, halfSecondRenewal.call.request.askedLease = some n ∧
        LeaseSurvives leaseQueue halfSecond n) ↔
      halfSecond.asNanos = 0 ∨
        (1 ≤ halfSecond.secs.toNat ∧ KeepsPlace halfSecond.secs.toNat) :=
  have := Reference.lawful.toLawfulAttribute
  have hscan : Cups.AsksWith halfSecond 5 0 5 := Cups.asksWith_iff.mpr ⟨by decide, by decide⟩
  (leases_survive_iff halfSecondRenewal_call hscan).1

/-- Half a second is sent as no expiry at all. -/
theorem halfSecond_sent_as_endless :
    ¬ ∀ (p : IppPrinter) (d : Duration) (e : Exchange Post Reply), LeaseCall p d e →
      0 < d.asNanos → ∃ n, e.call.request.askedLease = some n ∧ 0 < n := by
  intro h
  obtain ⟨n, hn, hpos⟩ := h leaseQueue halfSecond halfSecondRenewal halfSecondRenewal_call
    (by decide)
  have hzero : halfSecondRenewal.call.request.askedLease = some 0 := by decide
  rw [hzero] at hn
  cases hn
  exact absurd hpos (by decide)

end Reference

end Ipp
