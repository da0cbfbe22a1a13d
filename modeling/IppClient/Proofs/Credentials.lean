import IppClient.Client.Builder
import IppClient.Client.Session
import IppClient.Proofs.Removal

/-!
# Where the credentials go

A client sends its HTTP Basic credentials with every request, and every request of every call and
of every poll goes to the one URI it was built with, whatever printer it names. So the builder can
tell, before the first request, whether anyone on the way will read the password.

* `applyAll_eq`: what a sequence of the builder's methods sets: the last value of each, and every
  certificate.
* `Call.run_posts`, `poll_posts`: every request goes to the client's URI.
* `Uri.IsProtected`: nobody on the way reads what is sent to the URI. `isConfidential` compares texts
  as they are written, so it knows less: never a URI that is not protected, and every protected one
  in `Uri.UsualSpelling`.
* `credentials_warned`: **no request exposes the credentials unwarned**, in every session of the
  client, and for the usual spellings the builder warns of nothing else.
-/

namespace Ipp

open Base

/-! ## What the builder's methods set -/

namespace BuilderCall

def user? : BuilderCall → Option String
  | .user name => some name
  | _ => none

def requestTimeout? : BuilderCall → Option Duration
  | .requestTimeout timeout => some timeout
  | _ => none

def basicAuth? : BuilderCall → Option (String × String)
  | .basicAuth name password => some (name, password)
  | _ => none

def caCert? : BuilderCall → Option (List UInt8)
  | .caCert certificate => some certificate
  | _ => none

def acceptInvalidCerts? : BuilderCall → Option Bool
  | .dangerAcceptInvalidCerts accept => some accept
  | _ => none

end BuilderCall

/-- The last value that the calls set. -/
def lastSet {α : Type} (value : BuilderCall → Option α) (calls : List BuilderCall) : Option α :=
  (calls.filterMap value).getLast?

/-- The builder after a sequence of calls. -/
def IppClientBuilder.applyAll (b : IppClientBuilder) (calls : List BuilderCall) :
    IppClientBuilder := calls.foldl IppClientBuilder.apply b

theorem lastSet_concat {α : Type} (value : BuilderCall → Option α) (calls : List BuilderCall)
    (call : BuilderCall) :
    lastSet value (calls ++ [call]) = (value call).or (lastSet value calls) := by
  cases h : value call <;> simp [lastSet, h]

theorem applyAll_eq (uri : String) (calls : List BuilderCall) :
    (IppClientBuilder.new uri).applyAll calls =
      { uri
        user := lastSet BuilderCall.user? calls
        basicAuth := lastSet BuilderCall.basicAuth? calls
        requestTimeout := lastSet BuilderCall.requestTimeout? calls
        caCerts := calls.filterMap BuilderCall.caCert?
        acceptInvalidCerts := (lastSet BuilderCall.acceptInvalidCerts? calls).getD false } := by
  induction calls using List.reverseRecOn with
  | nil => rfl
  | append_singleton calls call ih =>
    have hstep : (IppClientBuilder.new uri).applyAll (calls ++ [call]) =
        ((IppClientBuilder.new uri).applyAll calls).apply call := by
      rw [IppClientBuilder.applyAll, List.foldl_append]
      rfl
    rw [hstep, ih]
    cases call <;>
      simp [IppClientBuilder.apply, lastSet_concat, BuilderCall.user?, BuilderCall.basicAuth?,
        BuilderCall.requestTimeout?, BuilderCall.caCert?, BuilderCall.acceptInvalidCerts?]

section Rules

variable [IppCrate] (c : IppClient)

/-! ## Where the requests go -/

theorem defaultPrinter_posts : Posts c c.defaultPrinter := c.defaultPrinter_emits fun _ _ _ => rfl

theorem printers_posts : Posts c c.printers :=
  Act.Emits.bind (defaultPrinter_posts c) fun _ =>
    request_emits c (fun _ _ _ => rfl) fun _ => Act.Emits.pure _

theorem jobs_posts (which : WhichJobs) : Posts c (c.jobs which) :=
  request_emits c (fun _ _ _ => rfl) fun _ => Act.Emits.pure _

theorem jobAction_posts (operation : Operation) (label queue : String) (id : JobId) :
    Posts c (c.jobAction operation label queue id) :=
  Act.Emits.bind_ofExcept fun _ _ => jobActionAt_emits c fun _ _ _ => rfl

theorem ClientMethod.run_posts (method : ClientMethod) : Posts c (method.run c) := by
  cases method with
  | defaultPrinter => exact Act.Emits.void (defaultPrinter_posts c)
  | printers => exact Act.Emits.void (printers_posts c)
  | jobs which => exact Act.Emits.void (jobs_posts c which)
  | job queue id =>
    refine Act.Emits.void <| Act.Emits.bind_ofExcept fun request _ => ?_
    have hpost : Posts c (c.post request) :=
      Act.Emits.bind (Act.Emits.call fun _ => rfl) fun _ => Act.Emits.ofExcept _
    refine Act.Emits.bind hpost fun resp => ?_
    split
    · exact Act.Emits.pure _
    · exact Act.Emits.bind (Act.Emits.ofExcept _) fun _ => Act.Emits.pure _
  | classes =>
    exact Act.Emits.void (request_emits c (fun _ _ _ => rfl) fun _ => Act.Emits.pure _)
  | ppds filter =>
    exact Act.Emits.void (request_emits c (fun _ _ _ => rfl) fun _ => Act.Emits.pure _)
  | printer name =>
    exact Act.Emits.void <| Act.Emits.bind_ofExcept fun _ _ => printerAt_posts c _
  | printerAt uri => exact Act.Emits.void (printerAt_posts c uri)
  | cancelJob queue id | holdJob queue id | releaseJob queue id | restartJob queue id =>
    exact jobAction_posts c _ _ queue id
  | moveJob queue id destination =>
    exact request_emits c (fun _ _ _ => rfl) fun _ => Act.Emits.pure _
  | purgeJobs queue =>
    exact Act.Emits.bind_ofExcept fun _ _ =>
      request_emits c (fun _ _ _ => rfl) fun _ => Act.Emits.pure _
  | identifyPrinter queue action =>
    exact Act.Emits.bind_ofExcept fun uri _ => identifyPrinterAt_posts c uri action
  | validateJob queue format =>
    exact Act.Emits.bind_ofExcept fun uri _ => validateJobAt_posts c uri format
  | printBytes queue bytes format name =>
    exact Act.Emits.void <| Act.Emits.bind_ofExcept fun _ _ =>
      request_emits c (fun _ _ _ => rfl) fun _ => Act.Emits.ofExcept _
  | printStream queue reader format name =>
    exact Act.Emits.void <| Act.Emits.bind_ofExcept fun uri _ =>
      printStreamAt_posts c uri reader format name
  | printFile queue path =>
    exact Act.Emits.void <| Act.Emits.bind (openFile_emits path) fun file =>
      Act.Emits.bind_ofExcept fun uri _ => printStreamAt_posts c uri file _ _

theorem Call.run_posts (call : Call) : Posts c (call.run c) := by
  cases call with
  | client method => exact method.run_posts c
  | printer uri method => exact method.run_posts ⟨c, uri⟩
  | job uri id closed method => exact method.run_posts ⟨⟨c, uri⟩, id, closed⟩

theorem poll_posts (l : EventLoop) : Posts c (c.poll l) := by
  have hsnapshot : Posts c c.snapshot :=
    Act.Emits.bind (printers_posts c) fun _ =>
      Act.Emits.bind (jobs_posts c _) fun _ => Act.Emits.pure _
  intro w past cell e he
  rw [c.poll_apply] at he
  exact hsnapshot w past _ e he

/-! ## What they expose -/

end Rules

/-- The IPv4 address `127.x.y.z`. -/
def loopbackAddress (x y z : UInt8) : String :=
  "127." ++ toString x.toNat ++ "." ++ toString y.toNat ++ "." ++ toString z.toNat

/-- The host is the machine itself: its name, one of its IPv4 addresses, or the IPv6 address `::1`,
with the brackets around it or without. -/
def IsLoopback (host : String) : Prop :=
  host ∈ ["localhost", "::1", "[::1]"] ∨ ∃ x y z, host = loopbackAddress x y z

namespace Uri

/-- Nobody on the way can read what is sent to the URI: its scheme stands for TLS, or its host is
the machine itself. Schemes and host names compare without case. -/
def IsProtected (uri : Uri) : Prop :=
  (∃ scheme, uri.scheme = some scheme ∧ Text.lower scheme ∈ ["https", "ipps"]) ∨
    ∃ authority, uri.authority = some authority ∧ IsLoopback (Text.lower authority.host)

/-- The scheme and the host are in lower case, and no address `127.x.y.z` but the usual one stands
for the machine itself. -/
structure UsualSpelling (uri : Uri) : Prop where
  scheme : ∀ scheme, uri.scheme = some scheme → Text.lower scheme = scheme
  host : ∀ authority, uri.authority = some authority →
    Text.lower authority.host = authority.host
  address : ∀ authority, uri.authority = some authority →
    ∀ x y z, authority.host = loopbackAddress x y z → authority.host = "127.0.0.1"

end Uri

theorem isConfidential_iff {uri : Uri} :
    isConfidential uri = true ↔
      (∃ scheme, uri.scheme = some scheme ∧ scheme ∈ ["https", "ipps"]) ∨
        ∃ authority, uri.authority = some authority ∧
          authority.host ∈ ["localhost", "127.0.0.1", "::1", "[::1]"] := by
  unfold isConfidential
  split
  next h =>
    refine iff_of_true rfl (.inl ?_)
    obtain h | h := h
    · exact ⟨_, h, by decide⟩
    · exact ⟨_, h, by decide⟩
  next h =>
    have hscheme : ¬ ∃ scheme, uri.scheme = some scheme ∧ scheme ∈ ["https", "ipps"] := by
      rintro ⟨scheme, hs, hmem⟩
      rw [hs] at h
      simp only [List.mem_cons, List.not_mem_nil, or_false] at hmem
      exact h (hmem.imp (congrArg some) (congrArg some))
    rw [or_iff_right hscheme]
    cases uri.authority with
    | none => simp
    | some authority =>
      simp only [Option.map_some, Option.some.injEq, exists_eq_left', List.mem_cons,
        List.not_mem_nil, or_false]
      split <;> simp_all

/-- **What the client takes for confidential is protected.** -/
theorem isProtected_of_isConfidential {uri : Uri} (h : isConfidential uri = true) :
    uri.IsProtected := by
  obtain ⟨scheme, hs, hmem⟩ | ⟨authority, ha, hmem⟩ := isConfidential_iff.mp h
  · refine .inl ⟨scheme, hs, ?_⟩
    simp only [List.mem_cons, List.not_mem_nil, or_false] at hmem
    obtain rfl | rfl := hmem <;> decide
  · refine .inr ⟨authority, ha, ?_⟩
    simp only [List.mem_cons, List.not_mem_nil, or_false] at hmem
    generalize authority.host = host at hmem ⊢
    obtain rfl | rfl | rfl | rfl := hmem
    · exact .inl (by decide)
    · exact .inr ⟨0, 0, 1, by decide⟩
    · exact .inl (by decide)
    · exact .inl (by decide)

/-- In the usual spelling, the client takes all that is protected for confidential. -/
theorem isConfidential_of_isProtected {uri : Uri} (hu : uri.UsualSpelling) (h : uri.IsProtected) :
    isConfidential uri = true := by
  rw [isConfidential_iff]
  obtain ⟨scheme, hs, hmem⟩ | ⟨authority, ha, hloop⟩ := h
  · exact .inl ⟨scheme, hs, hu.scheme scheme hs ▸ hmem⟩
  · refine .inr ⟨authority, ha, ?_⟩
    rw [hu.host authority ha] at hloop
    obtain hmem | ⟨x, y, z, hx⟩ := hloop
    · simp only [List.mem_cons, List.not_mem_nil, or_false] at hmem ⊢
      exact hmem.imp_right .inr
    · rw [hu.address authority ha x y z hx]
      decide

/-- The request of the exchange took the client's credentials over a connection that others can
read. -/
def Exposes (c : IppClient) (e : Exchange Post Reply) : Prop :=
  c.inner.basicAuth ≠ none ∧ ¬ e.call.uri.IsProtected

theorem warnings_ne_nil_iff {b : IppClientBuilder} {parsed : Uri} :
    b.warnings parsed ≠ [] ↔ b.basicAuth ≠ none ∧ isConfidential parsed = false := by
  unfold IppClientBuilder.warnings
  cases b.basicAuth with
  | none => simp
  | some credentials => cases isConfidential parsed <;> simp

section Warning

variable [IppCrate]

/-- A client that was built has the settings of its builder, and so has the warning. -/
theorem buildLogged_ok {b : IppClientBuilder} {envUser : Option String} {c : IppClient}
    {log : List String} (h : b.buildLogged envUser = .ok (c, log)) :
    IppCrate.parseUri b.uri = .ok c.inner.uri ∧
      c.inner = ⟨c.inner.uri, b.requestTimeout, b.basicAuth, b.caCerts, b.acceptInvalidCerts⟩ ∧
      c.user = b.user.getD (defaultUser envUser) ∧ log = b.warnings c.inner.uri := by
  obtain ⟨c', hc, h⟩ := bind_eq_ok.mp h
  cases h
  obtain ⟨parsed, hp, hc⟩ := bind_eq_ok.mp hc
  cases hc
  exact ⟨mapError_eq_ok.mp hp, rfl, rfl, rfl⟩

/-- A request to the client's URI exposes the credentials only if `build` warned, and in the usual
spelling it does if `build` warned. -/
theorem exposes_warned {b : IppClientBuilder} {envUser : Option String} {c : IppClient}
    {log : List String} (h : b.buildLogged envUser = .ok (c, log)) {e : Exchange Post Reply}
    (he : e.call.uri = c.inner.uri) :
    (Exposes c e → log ≠ []) ∧ (c.inner.uri.UsualSpelling → log ≠ [] → Exposes c e) := by
  obtain ⟨-, hinner, -, hlog⟩ := buildLogged_ok h
  have hauth : c.inner.basicAuth = b.basicAuth := by rw [hinner]
  rw [hlog, warnings_ne_nil_iff, Exposes, he, hauth]
  constructor
  · rintro ⟨hb, hopen⟩
    exact ⟨hb, Bool.eq_false_iff.mpr fun hc => hopen (isProtected_of_isConfidential hc)⟩
  · rintro hu ⟨hb, hc⟩
    refine ⟨hb, fun hp => ?_⟩
    rw [isConfidential_of_isProtected hu hp] at hc
    cases hc

/-- **No exposure goes unwarned.** Whatever methods of the builder are called, in whatever order, the
client has the last value of each setting and all certificates; and in every session of it each
request goes to the builder's URI, and exposes the credentials only if `build` warned. If the URI
is in the usual spelling, `build` warned only if each request does. -/
theorem credentials_warned (uri : String) (calls : List BuilderCall) (envUser : Option String)
    {c : IppClient} {log : List String}
    (h : ((IppClientBuilder.new uri).applyAll calls).buildLogged envUser = .ok (c, log))
    (s : Session) (ls : List SessionStep) :
    c.user = (lastSet BuilderCall.user? calls).getD (defaultUser envUser) ∧
      ∃ parsed, IppCrate.parseUri uri = .ok parsed ∧
        c.inner =
          { uri := parsed
            requestTimeout := lastSet BuilderCall.requestTimeout? calls
            basicAuth := lastSet BuilderCall.basicAuth? calls
            caCerts := calls.filterMap BuilderCall.caCert?
            ignoreTlsErrors := (lastSet BuilderCall.acceptInvalidCerts? calls).getD false } ∧
        (sessions c).Throughout
          (Session.Since (fun e => e.call.uri = parsed ∧ (Exposes c e → log ≠ []) ∧
            (parsed.UsualSpelling → log ≠ [] → Exposes c e)) s) s ls := by
  have hexposes : ∀ e : Exchange Post Reply, e.call.uri = c.inner.uri →
      e.call.uri = c.inner.uri ∧ (Exposes c e → log ≠ []) ∧
        (c.inner.uri.UsualSpelling → log ≠ [] → Exposes c e) := fun e he =>
    ⟨he, exposes_warned h he⟩
  rw [applyAll_eq] at h
  obtain ⟨hparsed, hinner, huser, -⟩ := buildLogged_ok h
  refine ⟨huser, c.inner.uri, hparsed, hinner, ?_⟩
  have hmeets : (sessions c).Meets (fun _ _ => True) s ls := Sys.meets_of_mem fun _ _ _ => trivial
  refine Sys.throughout_of_meets (fun u l u' hu _ hs => ?_) (Session.Since.refl _ s) hmeets
  exact hu.step hs (fun w call _ e he => hexposes e (call.run_posts c w u.past u.cell e he))
    fun w stream _ e he => hexposes e (poll_posts c _ w u.past u.cell e he)

end Warning

/-! ## A printer on the network -/

section Reference

attribute [local instance] Reference.crate

/-- Credentials for a printer on the network, without TLS. -/
def networkCalls : List BuilderCall := [.user "tester", .basicAuth "tester" "secret"]

/-- The client is warned about, and its request for the queues exposes the credentials. -/
theorem credentials_warned_network :
    ∃ c log, ((IppClientBuilder.new "ipp://printer.example:631").applyAll networkCalls).buildLogged
        none = .ok (c, log) ∧ log ≠ [] ∧
      (sessions c).Throughout (Session.Since (fun e => Exposes c e) Session.start) Session.start
        [.call (oneQueue 3) (.client .printers)] := by
  obtain ⟨c, log, h⟩ : ∃ c log, ((IppClientBuilder.new "ipp://printer.example:631").applyAll
      networkCalls).buildLogged none = .ok (c, log) := ⟨_, _, rfl⟩
  have hlog : log ≠ [] := by
    cases h
    exact List.cons_ne_nil _ _
  obtain ⟨-, parsed, hparsed, -, hrun⟩ := credentials_warned "ipp://printer.example:631"
    networkCalls none h Session.start [.call (oneQueue 3) (.client .printers)]
  have hplain : parsed = ⟨some "ipp", some ⟨"printer.example:631", "printer.example", some 631⟩,
      "/", none⟩ := by
    cases hparsed
    rfl
  have husual : parsed.UsualSpelling := by
    rw [hplain]
    refine ⟨?_, ?_, ?_⟩
    · rintro _ ⟨⟩
      decide
    · rintro _ ⟨⟩
      decide
    · rintro _ ⟨⟩ x y z hhost
      have hchars := congrArg String.toList hhost
      simp only [loopbackAddress, String.toList_append] at hchars
      cases hchars
  refine ⟨c, log, h, hlog, hrun.imp fun s hs => ?_⟩
  obtain ⟨t, ht, hP⟩ := hs
  exact ⟨t, ht, fun e he => (hP e he).2.2 husual hlog⟩

end Reference

end Ipp
