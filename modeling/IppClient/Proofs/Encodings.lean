import IppClient.Proofs.Readings

/-!
# Equivalent encodings

IPP has several encodings of one value: a text with or without its language, a number as an
integer or as an enum, a list of one as a bare value. Servers mix them freely.

* `SameItem`, `SameValue`, `SameGroup`: what may be replaced by what, any number of times.
* `SameValue.listsAlike`, `SameValue.readsAlike`: the accessors do not see the replacement.
* `decoding_invariant`: **all seven decoders make the same of two such groups**, a failure
  included.
-/

namespace Ipp

/-- The attributes that are lists, and may come as a bare value where they have one member. -/
def listAttributes : List String :=
  ["media-supported", "sides-supported", "print-color-mode-supported", "print-quality-supported",
    "output-bin-supported", "printer-uri-supported", "printer-state-reasons", "job-state-reasons",
    "marker-names", "marker-levels", "marker-types", "marker-colors", "marker-low-levels",
    "member-names", "notify-events"]

/-- Two encodings of one value: a text or a name with its language or without, a number as an
integer or an enum; in an array, of each member. -/
inductive SameItem : IppValue → IppValue → Prop
  | text (language text : String) :
    SameItem (.textWithoutLanguage text) (.textWithLanguage language text)
  | name (language name : String) :
    SameItem (.nameWithoutLanguage name) (.nameWithLanguage language name)
  | number (v : Int32) : SameItem (.integer v) (.enum v)
  | inArray (before after : List IppValue) {v w : IppValue} (h : SameItem v w) :
    SameItem (.array (before ++ v :: after)) (.array (before ++ w :: after))

/-- Two encodings of the value of an attribute, after any number of replacements either way. -/
inductive SameValue (attr : String) : IppValue → IppValue → Prop
  | refl (v : IppValue) : SameValue attr v v
  | symm {v w : IppValue} (h : SameValue attr v w) : SameValue attr w v
  | trans {u v w : IppValue} (h : SameValue attr u v) (h' : SameValue attr v w) :
    SameValue attr u w
  | item {v w : IppValue} (h : SameItem v w) : SameValue attr v w
  | single {v : IppValue} (h : attr ∈ listAttributes) (hv : ∀ items, v ≠ .array items) :
    SameValue attr v (.array [v])

/-- The groups have the same attributes, each with one value in some encoding of it. -/
def SameGroup (g g' : IppAttributeGroup) : Prop :=
  List.Forall₂ (fun a b => a.name = b.name ∧ SameValue a.name a.value b.value)
    g.attributes g'.attributes

/-! ## What the accessors see -/

namespace Attrs

/-- The texts of a value, as `Attrs::texts` reads them. -/
def asTexts : IppValue → List String
  | .array items => items.filterMap asText
  | other => (asText other).toList

/-- The numbers of a value, as `Attrs::ints` reads them. -/
def asInts : IppValue → List Int32
  | .array items => items.filterMap asInt
  | other => (asInt other).toList

/-- The truth value of a value, as `Attrs::bool` reads it. -/
def asBool : IppValue → Option Bool
  | .boolean v => some v
  | _ => none

variable (a : Attrs) (n : String)

theorem text_eq_elim : a.text n = (a.value n).elim none asText := by
  unfold text
  cases a.value n <;> rfl

theorem int_eq_elim : a.int n = (a.value n).elim none asInt := by
  unfold int
  cases a.value n <;> rfl

theorem bool_eq_elim : a.bool n = (a.value n).elim none asBool := by
  unfold bool
  cases a.value n with
  | none => rfl
  | some v => cases v <;> rfl

theorem texts_eq_elim : a.texts n = (a.value n).elim [] asTexts := by
  unfold texts
  cases a.value n with
  | none => rfl
  | some v => cases v <;> rfl

theorem ints_eq_elim : a.ints n = (a.value n).elim [] asInts := by
  unfold ints
  cases a.value n with
  | none => rfl
  | some v => cases v <;> rfl

end Attrs

/-- As one value the two read alike. -/
structure ReadsAlike (v w : IppValue) : Prop where
  text : Attrs.asText v = Attrs.asText w
  int : Attrs.asInt v = Attrs.asInt w
  bool : Attrs.asBool v = Attrs.asBool w

/-- As a list the two read alike. -/
structure ListsAlike (v w : IppValue) : Prop where
  texts : Attrs.asTexts v = Attrs.asTexts w
  ints : Attrs.asInts v = Attrs.asInts w

theorem SameItem.readsAlike {v w : IppValue} (h : SameItem v w) : ReadsAlike v w := by
  cases h <;> exact ⟨rfl, rfl, rfl⟩

theorem SameItem.listsAlike {v w : IppValue} (h : SameItem v w) : ListsAlike v w := by
  cases h with
  | text language text => exact ⟨rfl, rfl⟩
  | name language name => exact ⟨rfl, rfl⟩
  | number v => exact ⟨rfl, rfl⟩
  | inArray before after h =>
    have hr := h.readsAlike
    constructor
    · simp only [Attrs.asTexts, List.filterMap_append, List.filterMap_cons, hr.text]
    · simp only [Attrs.asInts, List.filterMap_append, List.filterMap_cons, hr.int]

theorem listsAlike_single {v : IppValue} (hv : ∀ items, v ≠ .array items) :
    ListsAlike v (.array [v]) := by
  cases v with
  | array items => exact absurd rfl (hv items)
  | _ => exact ⟨rfl, rfl⟩

namespace SameValue

variable {attr : String} {v w : IppValue}

/-- No replacement is seen by the list accessors. -/
theorem listsAlike (h : SameValue attr v w) : ListsAlike v w := by
  induction h with
  | refl v => exact ⟨rfl, rfl⟩
  | symm _ ih => exact ⟨ih.texts.symm, ih.ints.symm⟩
  | trans _ _ ih ih' => exact ⟨ih.texts.trans ih'.texts, ih.ints.trans ih'.ints⟩
  | item h => exact h.listsAlike
  | single _ hv => exact listsAlike_single hv

/-- On an attribute that is no list, none is seen by the others. -/
theorem readsAlike (h : SameValue attr v w) (hl : attr ∉ listAttributes) :
    ReadsAlike v w := by
  induction h with
  | refl v => exact ⟨rfl, rfl, rfl⟩
  | symm _ ih => exact ⟨ih.text.symm, ih.int.symm, ih.bool.symm⟩
  | trans _ _ ih ih' =>
    exact ⟨ih.text.trans ih'.text, ih.int.trans ih'.int, ih.bool.trans ih'.bool⟩
  | item h => exact h.readsAlike
  | single hmem _ => exact absurd hmem hl

end SameValue

/-! ## What the decoders see -/

/-- The first attribute of a name in the one group is that of the other. -/
theorem SameGroup.value {g g' : IppAttributeGroup} (h : SameGroup g g') (n : String) :
    Option.Rel (SameValue n) (Attrs.value ⟨g⟩ n) (Attrs.value ⟨g'⟩ n) := by
  obtain ⟨tag, attributes⟩ := g
  obtain ⟨tag', attributes'⟩ := g'
  simp only [SameGroup, Attrs.value, IppAttributeGroup.get] at h ⊢
  induction h with
  | nil => exact .none
  | @cons a b l l' hab _ ih =>
    obtain ⟨hname, hvalue⟩ := hab
    rw [List.find?_cons, List.find?_cons, ← hname]
    by_cases ha : a.name = n
    · simp only [ha, decide_true, Option.map_some]
      exact .some (ha ▸ hvalue)
    · simp only [ha, decide_false]
      exact ih

/-- What reads related values alike reads related optional values alike. -/
theorem elim_eq_of_rel {α β : Type} {R : α → α → Prop} {o o' : Option α} {f : α → β} (d : β)
    (h : Option.Rel R o o') (hf : ∀ {v w}, R v w → f v = f w) : o.elim d f = o'.elim d f := by
  cases h with
  | none => rfl
  | some hvw => exact hf hvw

/-- Groups of equivalent encodings read alike, where no list attribute is read as one value. -/
theorem SameGroup.alike {g g' : IppAttributeGroup} (h : SameGroup g g')
    {scalars : List String} (lists : List String)
    (hs : ∀ n ∈ scalars, n ∉ listAttributes) : Attrs.Alike scalars lists ⟨g⟩ ⟨g'⟩ where
  text n hn := by
    rw [Attrs.text_eq_elim, Attrs.text_eq_elim]
    exact elim_eq_of_rel none (h.value n) fun hv => (hv.readsAlike (hs n hn)).text
  int n hn := by
    rw [Attrs.int_eq_elim, Attrs.int_eq_elim]
    exact elim_eq_of_rel none (h.value n) fun hv => (hv.readsAlike (hs n hn)).int
  bool n hn := by
    rw [Attrs.bool_eq_elim, Attrs.bool_eq_elim]
    exact elim_eq_of_rel none (h.value n) fun hv => (hv.readsAlike (hs n hn)).bool
  texts n _ := by
    rw [Attrs.texts_eq_elim, Attrs.texts_eq_elim]
    exact elim_eq_of_rel [] (h.value n) fun hv => hv.listsAlike.texts
  ints n _ := by
    rw [Attrs.ints_eq_elim, Attrs.ints_eq_elim]
    exact elim_eq_of_rel [] (h.value n) fun hv => hv.listsAlike.ints

/-- A decoder that reads no list attribute as one value does not see the encoding. -/
theorem ReadsOnly.eq_of_sameGroup {α : Type} {scalars lists : List String}
    {decode : IppAttributeGroup → Except Error α} (h : ReadsOnly scalars lists decode)
    (hs : ∀ n ∈ scalars, n ∉ listAttributes) {g g' : IppAttributeGroup} (hg : SameGroup g g') :
    decode g = decode g' :=
  h g g' (hg.alike lists hs)

/-- **Decoding is invariant under equivalent encodings.** Printers, jobs, classes, drivers,
documents, subscriptions and notifications decode to the same, and fail the same. -/
theorem decoding_invariant (g g' : IppAttributeGroup) (h : SameGroup g g') :
    Printer.decode g = Printer.decode g' ∧ Job.decode g = Job.decode g' ∧
      Class.decode g = Class.decode g' ∧ Ppd.decode g = Ppd.decode g' ∧
      Document.decode g = Document.decode g' ∧ Subscription.decode g = Subscription.decode g' ∧
      Notification.decode g = Notification.decode g' :=
  ⟨Printer.decode_reads.eq_of_sameGroup (by decide) h,
    Job.decode_reads.eq_of_sameGroup (by decide) h,
    Class.decode_reads.eq_of_sameGroup (by decide) h,
    Ppd.decode_reads.eq_of_sameGroup (by decide) h,
    Document.decode_reads.eq_of_sameGroup (by decide) h,
    Subscription.decode_reads.eq_of_sameGroup (by decide) h,
    Notification.decode_reads.eq_of_sameGroup (by decide) h⟩

/-- A printer as one server sends it: plain texts, one reason in a bare keyword. -/
def untaggedPrinter : IppAttributeGroup :=
  ⟨.printerAttributes, [⟨"printer-name", .nameWithoutLanguage "laser"⟩,
    ⟨"printer-state", .integer 5⟩, ⟨"printer-state-reasons", .keyword "media-jam-error"⟩]⟩

/-- The same printer from another: a name in a language, the state as an enum, a list of one. -/
def taggedPrinter : IppAttributeGroup :=
  ⟨.printerAttributes, [⟨"printer-name", .nameWithLanguage "en" "laser"⟩,
    ⟨"printer-state", .enum 5⟩, ⟨"printer-state-reasons", .array [.keyword "media-jam-error"]⟩]⟩

theorem decoding_invariant_taggedPrinter :
    Printer.decode untaggedPrinter = Printer.decode taggedPrinter := by
  have h : SameGroup untaggedPrinter taggedPrinter :=
    .cons ⟨rfl, .item (.name "en" "laser")⟩ (.cons ⟨rfl, .item (.number 5)⟩
      (.cons ⟨rfl, .single (by decide) (fun _ h => by cases h)⟩ .nil))
  exact (decoding_invariant untaggedPrinter taggedPrinter h).1

end Ipp
