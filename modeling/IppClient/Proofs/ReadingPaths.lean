import IppClient.Client.Handle
import IppClient.Proofs.Acceptance

/-!
# The ways to read a queue

`printers` reads every queue at once; `printer`, `printer_at` and `IppPrinter::attributes` read one.
All decode the same group with `Printer::decode`, but only the list marks the default destination.

* `PrintServer`, `World.Serves`: a server that answers the list and the single reads with the same
  groups.
* `printerAttributesAt_served`: the single reads return what decodes of the group, and no more.
* `printers_served`: the list holds the same, with the mark.
* `reading_paths_agree_iff`: **all ways to read a queue agree exactly when the queue is not the
  default destination, or cannot be read at all.**
-/

namespace Ipp

open Base

/-- A print server, by the groups it answers: all of them, and the one of each queue's URI. -/
structure PrintServer where
  printers : List IppAttributeGroup
  queueAt : Uri → Option IppAttributeGroup

section

variable [IppCrate]

/-- The world answers the reads of this client as the server does. -/
structure World.Serves (w : World) (c : IppClient) (s : PrintServer) : Prop where
  list : ∀ past m, printersRequest = .ok m → ∃ resp, (c.exchange w past m).reply = .ok resp ∧
    IppCrate.isSuccess resp.operationOrStatus = true ∧ resp.groupsOf .printerAttributes = s.printers
  single : ∀ past uri m group, IppCrate.getPrinterAttributes uri = .ok m →
    s.queueAt uri = some group → ∃ resp, (c.exchange w past m).reply = .ok resp ∧
      IppCrate.isSuccess resp.operationOrStatus = true ∧
      resp.firstOf .printerAttributes = some group

/-- The group is the only one of the server with this name. -/
structure PrintServer.Queue (s : PrintServer) (n : String) (group : IppAttributeGroup) : Prop where
  listed : group ∈ s.printers
  named : Attrs.text ⟨group⟩ "printer-name" = some n
  only : ∀ g ∈ s.printers, Attrs.text ⟨g⟩ "printer-name" = some n → g = group

/-- The request to a URI can be built, and the URI is that of a group of the server. -/
structure PrintServer.Reaches (s : PrintServer) (uri : Uri) (group : IppAttributeGroup) : Prop where
  built : ∃ m, IppCrate.getPrinterAttributes uri = .ok m
  at_uri : s.queueAt uri = some group

/-- A single read returns what the list holds for the queue: the same printer, or none in both. -/
def SameReading (n : String) (printers : List Printer) (single : Except Error Printer) : Prop :=
  single.toOption = printers.find? fun p => p.name = n

/-! ## The single reads -/

variable {c : IppClient} {w : World} {s : PrintServer} {past : List (Exchange Post Reply)}
  {cell : Cache} {n : String} {group : IppAttributeGroup} {uri : Uri}

theorem printerAttributesAt_served (hs : w.Serves c s) (hr : s.Reaches uri group) :
    (c.printerAttributesAt uri w past cell).result = Printer.decode group := by
  obtain ⟨m, hm⟩ := hr.built
  obtain ⟨resp, hreply, hok, hgroup⟩ := hs.single past uri m group hm hr.at_uri
  have hsend : c.send m "Get-Printer-Attributes" w past cell =
      ⟨.ok resp, [c.exchange w past m], cell⟩ := by
    rw [IppClient.send_exchange, IppClient.accept_eq_ok.mpr ⟨hreply, hok⟩]
  have hd : decodePrinter resp = Printer.decode group := by
    rw [IppRequestResponse.firstOf] at hgroup
    rw [decodePrinter, hgroup]
  unfold IppClient.printerAttributesAt
  rw [Act.ofExcept_ok_bind (transport_ok hm), Act.bind_ok w past cell hsend, hd]
  rfl

theorem printerAt_served (hs : w.Serves c s) {text : String} (hp : IppCrate.parseUri text = .ok uri)
    (hr : s.Reaches uri group) : (c.printerAt text w past cell).result = Printer.decode group := by
  have hp' : IppClient.parsePrinterUri text = .ok uri := by
    rw [IppClient.parsePrinterUri, hp]
    rfl
  unfold IppClient.printerAt
  rw [Act.ofExcept_ok_bind hp']
  exact printerAttributesAt_served hs hr

theorem printer_served (hs : w.Serves c s) (hu : c.printerUri n = .ok uri)
    (ht : IppCrate.parseUri (IppCrate.uriText uri) = .ok uri) (hr : s.Reaches uri group) :
    (c.printer n w past cell).result = Printer.decode group := by
  unfold IppClient.printer
  rw [Act.ofExcept_ok_bind hu]
  exact printerAt_served hs ht hr

theorem queue_attributes_served (hs : w.Serves c s) {q : IppPrinter} (hq : c.queue n = .ok q)
    (hu : c.printerUri n = .ok uri) (hr : s.Reaches uri group) :
    (q.attributes w past cell).result = Printer.decode group := by
  obtain ⟨u, hu', h⟩ := bind_eq_ok.mp hq
  rw [hu] at hu'
  cases hu'
  cases h
  exact printerAttributesAt_served hs hr

/-! ## The list -/

omit [IppCrate] in
theorem Printer.decode_name {p : Printer} (hn : Attrs.text ⟨group⟩ "printer-name" = some n)
    (hd : Printer.decode group = .ok p) : p.name = n := by
  have hr : Attrs.text ⟨group⟩ "printer-name" = some p.name :=
    (Printer.exists_decode_iff.mp ⟨p, hd, rfl⟩).1
  rw [hn] at hr
  exact (Option.some.inj hr).symm

omit [IppCrate] in
/-- The name of an entry is that of its group. -/
theorem Printer.decodeMarked_text {default : Option String} {p : Printer}
    (hd : Printer.decodeMarked default group = .ok p) :
    Attrs.text ⟨group⟩ "printer-name" = some p.name := by
  rw [Printer.decodeMarked] at hd
  cases hp : Printer.decode group with
  | error e => rw [hp] at hd; cases hd
  | ok p' =>
    rw [hp] at hd
    cases hd
    exact (Printer.exists_decode_iff.mp ⟨p', hp, rfl⟩).1

omit [IppCrate] in
/-- The lookup of a queue in the printers of a list: what decodes of its group, marked. -/
theorem find?_decodePrinters {resp : IppRequestResponse} {default : Option String}
    (hq : s.Queue n group) (hg : resp.groupsOf .printerAttributes = s.printers) :
    (decodePrinters resp default).find? (fun p => p.name = n) =
      (Printer.decodeMarked default group).toOption := by
  have hown : ∀ p ∈ decodePrinters resp default, p.name = n →
      Printer.decodeMarked default group = .ok p := by
    intro p hp hpn
    rw [decodePrinters_eq_decodeAll, decodeAll, hg] at hp
    obtain ⟨g, hgs, hd⟩ := List.mem_filterMap.mp hp
    have hd' := decoded_eq_some.mp hd
    rw [hq.only g hgs (hpn ▸ Printer.decodeMarked_text hd')] at hd'
    exact hd'
  cases hd : Printer.decodeMarked default group with
  | error e =>
    rw [Except.toOption, List.find?_eq_none]
    intro p hp hpn
    have := hown p hp (by simpa using hpn)
    rw [hd] at this
    cases this
  | ok p =>
    have hpn : p.name = n := by
      have ht := Printer.decodeMarked_text hd
      rw [hq.named] at ht
      exact (Option.some.inj ht).symm
    have hmem : p ∈ decodePrinters resp default := by
      rw [decodePrinters_eq_decodeAll, decodeAll, hg]
      exact List.mem_filterMap.mpr ⟨group, hq.listed, decoded_eq_some.mpr hd⟩
    have hsome : ((decodePrinters resp default).find? fun p => p.name = n).isSome = true :=
      List.find?_isSome.mpr ⟨p, hmem, decide_eq_true hpn⟩
    obtain ⟨p', hp'⟩ := Option.isSome_iff_exists.mp hsome
    have he := hown p' (List.mem_of_find?_eq_some hp') (by simpa using List.find?_some hp')
    rw [hd] at he
    rw [hp', ← Except.ok.inj he]
    rfl

/-- The list a server answers, and what it holds for a queue. -/
theorem printers_served (hs : w.Serves c s) {m : IppRequestResponse} (hm : printersRequest = .ok m)
    {default : Option String} (hd : (c.defaultPrinter w past cell).result = .ok default)
    (hq : s.Queue n group) :
    ∃ printers, (c.printers w past cell).result = .ok printers ∧
      (printers.find? fun p => p.name = n) = (Printer.decodeMarked default group).toOption := by
  rcases hdp : c.defaultPrinter w past cell with ⟨r, t, cell'⟩
  rw [hdp] at hd
  obtain rfl : r = .ok default := hd
  obtain ⟨resp, hreply, hok, hgroups⟩ := hs.list (past ++ t) m hm
  have hsend : c.send m "CUPS-Get-Printers" w (past ++ t) cell' =
      ⟨.ok resp, [c.exchange w (past ++ t) m], cell'⟩ := by
    rw [IppClient.send_exchange, IppClient.accept_eq_ok.mpr ⟨hreply, hok⟩]
  refine ⟨decodePrinters resp default, ?_, find?_decodePrinters hq hgroups⟩
  unfold IppClient.printers
  rw [Act.bind_ok w past cell hdp, Act.ofExcept_ok_bind hm, Act.bind_ok w _ _ hsend]
  rfl

omit [IppCrate] in
/-- The mark changes a printer exactly when it is the default. -/
theorem Printer.decodeMarked_eq_iff (hn : Attrs.text ⟨group⟩ "printer-name" = some n)
    (default : Option String) :
    (Printer.decode group).toOption = (Printer.decodeMarked default group).toOption ↔
      default ≠ some n ∨ Printer.acceptable group = false := by
  rw [Printer.decodeMarked, ← Bool.not_eq_true, Printer.acceptable_iff]
  cases hd : Printer.decode group with
  | error e =>
    refine iff_of_true rfl (.inr ?_)
    rintro ⟨p, hp⟩
    cases hp
  | ok p =>
    have hname := Printer.decode_name hn hd
    have hunmarked : p.isDefault = false := by
      simp only [Printer.decode, bind_eq_ok] at hd
      obtain ⟨_, -, _, -, _, -, h⟩ := hd
      cases h
      rfl
    simp only [Except.map, Except.toOption, Option.some.injEq, Except.ok.injEq, exists_eq',
      not_true_eq_false, or_false, hname]
    constructor
    · intro h hdef
      have hf := congrArg Printer.isDefault h
      rw [hunmarked, hdef] at hf
      simp at hf
    · intro h
      have hb : (default == some n) = false := by simpa using h
      rw [hb, ← hunmarked, ← hname]

/-- **The ways to read a queue.** For every server that answers the list and the single reads with
the same groups, every default printer, every queue and every state of the client: `printers`
returns a list, and `printer`, `printer_at` (by any text of a URI that reaches the queue) and
`queue(..).attributes` return what is in it, exactly when the queue is not the default printer or
its group is not readable. -/
theorem reading_paths_agree_iff (hs : w.Serves c s) (hm : ∃ m, printersRequest = .ok m)
    {default : Option String} (hd : (c.defaultPrinter w past cell).result = .ok default)
    (hq : s.Queue n group) (hu : c.printerUri n = .ok uri)
    (ht : IppCrate.parseUri (IppCrate.uriText uri) = .ok uri) (hr : s.Reaches uri group)
    {text : String} {uri' : Uri} (ht' : IppCrate.parseUri text = .ok uri')
    (hr' : s.Reaches uri' group) {q : IppPrinter} (hqueue : c.queue n = .ok q)
    (past₁ past₂ past₃ : List (Exchange Post Reply)) (cell₁ cell₂ cell₃ : Cache) :
    ∃ printers, (c.printers w past cell).result = .ok printers ∧
      (SameReading n printers (c.printer n w past₁ cell₁).result ∧
          SameReading n printers (c.printerAt text w past₂ cell₂).result ∧
          SameReading n printers (q.attributes w past₃ cell₃).result ↔
        default ≠ some n ∨ Printer.acceptable group = false) := by
  obtain ⟨m, hm⟩ := hm
  obtain ⟨printers, hps, hfind⟩ := printers_served hs hm hd hq
  refine ⟨printers, hps, ?_⟩
  rw [SameReading, SameReading, SameReading, printer_served hs hu ht hr,
    printerAt_served hs ht' hr', queue_attributes_served hs hqueue hu hr, hfind, and_self,
    and_self]
  exact Printer.decodeMarked_eq_iff hq.named default

end

/-! ## A server with one queue -/

section Reference

attribute [local instance] Reference.crate

/-- The queue `HP`, idle. -/
def idleQueue : IppAttributeGroup :=
  ⟨.printerAttributes,
    [⟨"printer-name", .nameWithoutLanguage "HP"⟩, ⟨"printer-state", .enum 3⟩]⟩

/-- A server with the one queue `HP`, wherever it is asked for. -/
def idleServer : PrintServer := { printers := [idleQueue], queueAt := fun _ => some idleQueue }

/-- A world that answers every request with the queue `HP`, also the one for the default. -/
def idleWorld : World := .answering fun _ => accepted [idleQueue]

theorem idleWorld_serves : idleWorld.Serves localClient idleServer where
  list _ _ _ := ⟨_, rfl, rfl, rfl⟩
  single _ _ _ group _ h := by
    cases h
    exact ⟨_, rfl, rfl, rfl⟩

theorem idleQueue_only : idleServer.Queue "HP" idleQueue where
  listed := List.mem_singleton.mpr rfl
  named := rfl
  only _ hg _ := List.mem_singleton.mp hg

/-- The URI of the queue `HP`. -/
def hpUri : Uri := ⟨some "http", some ⟨"localhost:631", "localhost", some 631⟩, "/printers/HP", none⟩

theorem hpUri_reaches : idleServer.Reaches hpUri idleQueue := ⟨⟨_, rfl⟩, rfl⟩

/-- The queue `HP` is the default of the list, and not that of `printer`. -/
theorem defaultQueue_reads_differently :
    ¬ ∀ (c : IppClient) (w : World) (s : PrintServer) (past past' : List (Exchange Post Reply))
      (cell cell' : Cache) (n : String) (group : IppAttributeGroup) (uri : Uri)
      (printers : List Printer), w.Serves c s → s.Queue n group → c.printerUri n = .ok uri →
        s.Reaches uri group → (c.printers w past cell).result = .ok printers →
          SameReading n printers (c.printer n w past' cell').result := by
  intro h
  obtain ⟨printers, hp⟩ : ∃ printers,
      (localClient.printers idleWorld [] (some (some "HP"))).result = .ok printers := ⟨_, rfl⟩
  have hs := h localClient idleWorld idleServer [] [] (some (some "HP")) none "HP" idleQueue hpUri
    printers idleWorld_serves idleQueue_only rfl hpUri_reaches hp
  cases hp
  have hf := congrArg (Option.map Printer.isDefault) hs
  revert hf
  decide

theorem reading_paths_agree_iff_otherDefault :
    ∃ printers, (localClient.printers idleWorld [] (some (some "Brother"))).result = .ok printers ∧
      (SameReading "HP" printers (localClient.printer "HP" idleWorld [] none).result ∧
          SameReading "HP" printers
            (localClient.printerAt "http://localhost:631/printers/HP" idleWorld [] none).result ∧
          SameReading "HP" printers
            ((⟨localClient, hpUri⟩ : IppPrinter).attributes idleWorld [] none).result ↔
        some "Brother" ≠ some "HP" ∨ Printer.acceptable idleQueue = false) := by
  have hu : localClient.printerUri "HP" = .ok hpUri := rfl
  have ht : IppCrate.parseUri (IppCrate.uriText hpUri) = .ok hpUri := rfl
  have ht' : IppCrate.parseUri "http://localhost:631/printers/HP" = .ok hpUri := rfl
  exact reading_paths_agree_iff idleWorld_serves ⟨_, rfl⟩ rfl idleQueue_only hu ht hpUri_reaches
    ht' hpUri_reaches rfl [] [] [] none none none

end Reference

end Ipp
