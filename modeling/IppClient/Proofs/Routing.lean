import IppClient.Client.Operations

/-!
# Where a handle's requests go

`IppClient::at` takes the URI of any printer, and its documentation says that the printer needs no
relationship to the daemon. Every request of the handle is posted to the daemon all the same: the
URI goes into the `printer-uri` attribute only.

* `Transmits c u e`: `e` is an exchange of an operation of the handle of `u`, of a job opened from
  it, or of `printer_at`.
* `Transmits.uri_eq`: every one of them is posted to the client's own URI.
* `handle_endpoint_iff`: **requests of handles reach their printers exactly when the printers live
  at the host and port of the client's base URI.**
-/

namespace Ipp

open Base

section

variable [IppCrate]

/-- The client was built with the base URI `b`: by `with_uri`, or by the builder. -/
inductive ConnectsTo (c : IppClient) (b : Uri) : Prop where
  | withUri {base user : String} (hb : IppCrate.parseUri base = .ok b)
      (h : IppClient.withUri base user = .ok c)
  | builder {options : IppClientBuilder} {envUser : Option String}
      (hb : IppCrate.parseUri options.uri = .ok b) (h : options.build envUser = .ok c)

/-- An exchange of some run of an operation that addresses the printer at `v`: of the handle that
`at` gives for it, of a job opened from that handle, or of `printer_at`. -/
inductive Transmits (c : IppClient) (v : Uri) (e : Exchange Post Reply) : Prop where
  | method {u : String} {p : IppPrinter} (hu : IppCrate.parseUri u = .ok v)
      (hp : c.atUri u = .ok p) (method : PrinterMethod) {w : World}
      {past : List (Exchange Post Reply)} {cell : Cache}
      (he : e ∈ (method.run p w past cell).trace)
  | jobMethod {u : String} {p : IppPrinter} {j : IppJob} (hu : IppCrate.parseUri u = .ok v)
      (hp : c.atUri u = .ok p) (hj : Opened p j) (method : JobMethod) {w : World}
      {past : List (Exchange Post Reply)} {cell : Cache}
      (he : e ∈ (method.run j w past cell).trace)
  | printerAt {u : String} (hu : IppCrate.parseUri u = .ok v) {w : World}
      {past : List (Exchange Post Reply)} {cell : Cache}
      (he : e ∈ (c.printerAt u w past cell).trace)

theorem ConnectsTo.uri_eq {c : IppClient} {b : Uri} (h : ConnectsTo c b) : c.inner.uri = b := by
  cases h with
  | withUri hb h => exact Except.ok.inj ((IppClient.withUri_ok h).1.symm.trans hb)
  | builder hb h => exact Except.ok.inj ((IppClientBuilder.build_ok h).symm.trans hb)

theorem atUri_client {c : IppClient} {u : String} {p : IppPrinter} (h : c.atUri u = .ok p) :
    p.client = c := by
  obtain ⟨parsed, -, h⟩ := bind_eq_ok.mp h
  cases h
  rfl

/-- Every request goes to the URI of the client, whatever printer it is for. -/
theorem Transmits.uri_eq {c : IppClient} {v : Uri} {e : Exchange Post Reply}
    (h : Transmits c v e) : e.call.uri = c.inner.uri := by
  cases h with
  | method _ hp method he =>
    have hc := atUri_client hp
    subst hc
    exact method.run_posts _ _ _ _ e he
  | jobMethod _ hp hj method he =>
    have hc := atUri_client hp
    rw [← hj.printer_eq] at hc
    subst hc
    exact method.run_posts _ _ _ _ e he
  | printerAt _ he => exact printerAt_posts c _ _ _ _ e he

/-- **Where requests go.** For two requests of handles of one client (or of one handle): each
reaches the host and port of its printer, and requests for printers at different hosts or ports
go to different ones, exactly when both printers are at the host and port of the base URI. -/
theorem handle_endpoint_iff {c : IppClient} {b v v' : Uri} {e e' : Exchange Post Reply}
    (hc : ConnectsTo c b) (he : Transmits c v e) (he' : Transmits c v' e') :
    (e.call.uri.endpoint = v.endpoint ∧ e'.call.uri.endpoint = v'.endpoint ∧
        (v.endpoint ≠ v'.endpoint → e.call.uri.endpoint ≠ e'.call.uri.endpoint)) ↔
      b.endpoint = v.endpoint ∧ b.endpoint = v'.endpoint := by
  rw [he.uri_eq, he'.uri_eq, hc.uri_eq]
  constructor
  · rintro ⟨h, h', -⟩
    exact ⟨h, h'⟩
  · rintro ⟨h, h'⟩
    exact ⟨h, h', fun hne => absurd (h.symm.trans h') hne⟩

end

/-! ## A network printer, asked through a client of the local daemon -/

section Reference

attribute [local instance] Reference.crate

/-- The URI `ipp://printer.local/ipp/print`. -/
def networkPrinter : Uri :=
  ⟨some "ipp", some ⟨"printer.local", "printer.local", none⟩, "/ipp/print", none⟩

/-- The `Get-Printer-Attributes` that the handle of the network printer sends. -/
def strayRequest : Exchange Post Reply where
  call :=
    { uri := localClient.inner.uri
      request :=
        { operationOrStatus := Operation.getPrinterAttributes.code
          groups := [⟨.operationAttributes,
            Reference.header ++ [⟨"printer-uri", .uri "ipp://printer.local/ipp/print"⟩]⟩]
          payload := [] } }
  reply := refused

theorem localClient_connectsTo : ConnectsTo localClient localClient.inner.uri := by
  have hb : IppCrate.parseUri "http://localhost:631" = .ok localClient.inner.uri := rfl
  exact .withUri hb localClient_built

theorem strayRequest_transmits : Transmits localClient networkPrinter strayRequest := by
  have hu : IppCrate.parseUri "ipp://printer.local/ipp/print" = .ok networkPrinter := rfl
  have hp : localClient.atUri "ipp://printer.local/ipp/print" =
      .ok ⟨localClient, networkPrinter⟩ := rfl
  have he : strayRequest ∈
      (PrinterMethod.attributes.run ⟨localClient, networkPrinter⟩
        (.answering fun _ => refused) [] none).trace :=
    List.mem_singleton.mpr rfl
  exact .method hu hp .attributes he

theorem handle_endpoint_iff_networkPrinter :
    (strayRequest.call.uri.endpoint = networkPrinter.endpoint ∧
        strayRequest.call.uri.endpoint = networkPrinter.endpoint ∧
        (networkPrinter.endpoint ≠ networkPrinter.endpoint →
          strayRequest.call.uri.endpoint ≠ strayRequest.call.uri.endpoint)) ↔
      localClient.inner.uri.endpoint = networkPrinter.endpoint ∧
        localClient.inner.uri.endpoint = networkPrinter.endpoint :=
  handle_endpoint_iff localClient_connectsTo strayRequest_transmits strayRequest_transmits

/-- The request for the network printer goes to the local daemon. -/
theorem handle_misses_networkPrinter :
    ¬ ∀ (c : IppClient) (b v : Uri) (e : Exchange Post Reply), ConnectsTo c b →
      Transmits c v e → e.call.uri.endpoint = v.endpoint := by
  intro h
  have hm := h localClient localClient.inner.uri networkPrinter strayRequest
    localClient_connectsTo strayRequest_transmits
  revert hm
  decide

end Reference

end Ipp
