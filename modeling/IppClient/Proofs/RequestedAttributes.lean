import IppClient.Client.Daemon
import IppClient.Proofs.Readings

/-!
# The attributes a request asks for are the ones its reply is read by

A list request names the attributes it wants, and a server may leave all others out. Every decoder
reads its group through `Attrs`, so what it makes of a group depends only on the names it reads
(`ReadsOnly`); those are names the request lists.

* `Suffices names decode`: `decode` makes the same of a group and of what is left of it when only
  `names` are kept, a failure included.
* `requested_suffice`: **each list request asks for names that suffice for the decoder of its
  reply.**
* `decodeAll_only`, `decodeJobs_only`, `decodePrinters_only`: a whole reply that is cut down to the
  names loses nothing.
-/

namespace Ipp

/-- The decoder needs no attribute but those named. -/
def Suffices {α : Type} (names : List String) (decode : IppAttributeGroup → Except Error α) :
    Prop :=
  ∀ g : IppAttributeGroup, decode (g.only names) = decode g

/-- The request, once built, asks for `names`, and these suffice for the decoder of its reply. -/
structure AsksEnough {α : Type} (request : Except Error IppRequestResponse) (names : List String)
    (decode : IppAttributeGroup → Except Error α) : Prop where
  asks : ∀ m, request = .ok m → m.requested = names
  enough : Suffices names decode

/-! ## The names a decoder reads suffice for it -/

theorem ReadsOnly.suffices {α : Type} {scalars lists names : List String}
    {decode : IppAttributeGroup → Except Error α} (h : ReadsOnly scalars lists decode)
    (hs : scalars ⊆ names) (hl : lists ⊆ names) : Suffices names decode :=
  fun g => h (g.only names) g ((Attrs.agree_only g names).alike hs hl)

theorem Printer.decode_suffices : Suffices printerAttributes Printer.decode :=
  Printer.decode_reads.suffices (by decide) (by decide)

theorem Job.decode_suffices : Suffices jobAttributes Job.decode :=
  Job.decode_reads.suffices (by decide) (by decide)

theorem Class.decode_suffices : Suffices classAttributes Class.decode :=
  Class.decode_reads.suffices (by decide) (by decide)

theorem Ppd.decode_suffices : Suffices ppdAttributes Ppd.decode :=
  Ppd.decode_reads.suffices (by decide) (by decide)

/-! ## The requests -/

section Requests

variable [IppCrate] [LawfulIppCrate]

/-- **Requested attributes suffice.** Every list request asks for names that suffice for the
decoder of its reply: printers, jobs (a list and a single one), classes and drivers. -/
theorem requested_suffice (c : IppClient) :
    AsksEnough printersRequest printerAttributes Printer.decode ∧
      (∀ which, AsksEnough (c.jobsRequest which) jobAttributes Job.decode) ∧
      (∀ printer id, AsksEnough (c.jobRequest printer id) jobAttributes Job.decode) ∧
      AsksEnough classesRequest classAttributes Class.decode ∧
      ∀ filter, AsksEnough (ppdsRequest filter) ppdAttributes Ppd.decode := by
  refine ⟨⟨fun m hm => ?_, Printer.decode_suffices⟩,
    fun which => ⟨fun m hm => ?_, Job.decode_suffices⟩,
    fun printer id => ⟨fun m hm => ?_, Job.decode_suffices⟩,
    ⟨fun m hm => ?_, Class.decode_suffices⟩, fun filter => ⟨fun m hm => ?_, Ppd.decode_suffices⟩⟩
  · exact (printersRequest_ok hm).2
  · exact (jobsRequest_ok hm).2.1
  · exact jobRequest_ok hm
  · exact classesRequest_ok hm
  · exact ppdsRequest_ok hm

end Requests

section Reference

attribute [local instance] Reference.crate

/-- Over the reference crates the requests can be built, so that they do ask. -/
theorem requested_suffice_localClient :
    (∃ m, printersRequest = .ok m ∧ m.requested = printerAttributes) ∧
      AsksEnough (localClient.jobsRequest .completed) jobAttributes Job.decode :=
  have := Reference.lawful
  ⟨⟨_, rfl, (requested_suffice localClient).1.asks _ rfl⟩,
    (requested_suffice localClient).2.1 .completed⟩

end Reference

/-! ## Whole replies -/

/-- The reply with `names` alone left in every group. -/
def IppRequestResponse.only (m : IppRequestResponse) (names : List String) : IppRequestResponse :=
  { m with groups := m.groups.map fun g => g.only names }

theorem groupsOf_only (m : IppRequestResponse) (names : List String) (tag : DelimiterTag) :
    (m.only names).groupsOf tag = (m.groupsOf tag).map fun g => g.only names := by
  unfold IppRequestResponse.groupsOf IppRequestResponse.only
  rw [List.filter_map]
  rfl

theorem Suffices.decoded_only {α : Type} {names : List String}
    {decode : IppAttributeGroup → Except Error α} (h : Suffices names decode)
    (g : IppAttributeGroup) : decoded decode (g.only names) = decoded decode g := by
  unfold decoded
  rw [h g]

/-- A reply that was cut down to sufficient names decodes to the same values. -/
theorem decodeAll_only {α : Type} {names : List String}
    {decode : IppAttributeGroup → Except Error α} (h : Suffices names decode)
    (resp : IppRequestResponse) (tag : DelimiterTag) :
    decodeAll (resp.only names) tag decode = decodeAll resp tag decode := by
  have hd : (decoded decode ∘ fun g => g.only names) = decoded decode := by
    funext g
    exact h.decoded_only g
  unfold decodeAll
  rw [groupsOf_only, List.filterMap_map, hd]

theorem decodeJobs_only (resp : IppRequestResponse) :
    decodeJobs (resp.only jobAttributes) = decodeJobs resp :=
  decodeAll_only Job.decode_suffices resp .jobAttributes

theorem decodePrinters_only (resp : IppRequestResponse) (default : Option String) :
    decodePrinters (resp.only printerAttributes) default = decodePrinters resp default := by
  unfold decodePrinters
  rw [groupsOf_only, List.filterMap_map]
  refine congrArg (fun f => List.filterMap f (resp.groupsOf .printerAttributes)) ?_
  funext g
  simp only [Function.comp_apply, Printer.decode_suffices.decoded_only g]

end Ipp
