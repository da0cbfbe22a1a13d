import IppClient.Proofs.RoundTrip

/-!
# What the decoders can return

The texts of attributes are bounded, so those of a decoded value are too. For each decoder, exactly
which values it returns from the groups that the crate can hold.

* `Attrs.text_fits`, `Attrs.texts_fit`: what is read is within the bound.
* `IppAttributeGroup.sized_ofTable`: a group made from a table of values within theirs.
* `StateReason.wire_shortest`: how short a text of a reason can be.
* `decoders_exact`: **what each of the seven decoders can return.**
-/

namespace Ipp

open Base

/-! ## Bounds -/

/-- The text is within the widest bound, that of a text or a URI. -/
def Fits (s : String) : Prop := s.utf8ByteSize ≤ StringKind.text.maxBytes

theorem fits_empty : Fits "" := Nat.zero_le _

theorem StringKind.maxBytes_le (kind : StringKind) : kind.maxBytes ≤ StringKind.text.maxBytes := by
  cases kind <;> decide

namespace Attrs

variable {group : IppAttributeGroup} {name : String}

theorem asText_eq (v : IppValue) : asText v = v.boundedText.map Prod.snd := by
  cases v <;> rfl

theorem asText_fits {v : IppValue} {s : String} (hv : ¬v.Oversized) (hs : asText v = some s) :
    Fits s := by
  rw [asText_eq] at hs
  obtain ⟨⟨kind, s⟩, hb, rfl⟩ := Option.map_eq_some_iff.mp hs
  exact (Nat.not_lt.mp fun h => hv (.text hb h)).trans kind.maxBytes_le

theorem value_sized (h : group.Sized) {v : IppValue} (hv : value ⟨group⟩ name = some v) :
    ¬v.Oversized := by
  obtain ⟨a, ha, rfl⟩ := Option.map_eq_some_iff.mp hv
  exact (h a (List.mem_of_find?_eq_some ha)).2

/-- A text that is read. -/
theorem text_fits (h : group.Sized) {s : String} (hs : text ⟨group⟩ name = some s) : Fits s := by
  obtain ⟨v, hv, hs⟩ := Option.bind_eq_some_iff.mp hs
  exact asText_fits (value_sized h hv) hs

/-- A text that may be missing. -/
theorem getD_fits (h : group.Sized) (name : String) : Fits ((text ⟨group⟩ name).getD "") := by
  cases hs : text ⟨group⟩ name with
  | none => exact fits_empty
  | some s => exact text_fits h hs

theorem valuesOf_sized (h : group.Sized) {v : IppValue} (hv : v ∈ valuesOf ⟨group⟩ name) :
    ¬v.Oversized := by
  unfold valuesOf at hv
  split at hv
  · rename_i items hvalue
    exact fun ho => value_sized h hvalue (.item hv ho)
  · rename_i hvalue
    rw [List.mem_singleton.mp hv]
    exact value_sized h hvalue
  · cases hv

/-- A list of texts that is read. -/
theorem texts_fit (h : group.Sized) {s : String} (hs : s ∈ texts ⟨group⟩ name) : Fits s := by
  rw [texts_eq] at hs
  obtain ⟨v, hv, hs⟩ := List.mem_filterMap.mp hs
  exact asText_fits (valuesOf_sized h hv) hs

end Attrs

/-! ## Groups within the bounds -/

namespace IppValue

@[simp] theorem text_sized {s : String} : ¬(textWithoutLanguage s).Oversized ↔ Fits s := by
  constructor
  · exact fun h => Nat.not_lt.mp fun hlt => h (.text rfl hlt)
  · rintro h (⟨hv, hlt⟩ | _ | _)
    cases hv
    exact Nat.not_lt.mpr h hlt

@[simp] theorem uri_sized {s : String} : ¬(uri s).Oversized ↔ Fits s := by
  constructor
  · exact fun h => Nat.not_lt.mp fun hlt => h (.text rfl hlt)
  · rintro h (⟨hv, hlt⟩ | _ | _)
    cases hv
    exact Nat.not_lt.mpr h hlt

@[simp] theorem integer_sized (v : Int32) : ¬(integer v).Oversized := by
  rintro (⟨hv, -⟩ | _ | _)
  cases hv

@[simp] theorem enum_sized (v : Int32) : ¬(enum v).Oversized := by
  rintro (⟨hv, -⟩ | _ | _)
  cases hv

@[simp] theorem boolean_sized (v : Bool) : ¬(boolean v).Oversized := by
  rintro (⟨hv, -⟩ | _ | _)
  cases hv

@[simp] theorem array_sized {items : List IppValue} :
    ¬(array items).Oversized ↔ ∀ v ∈ items, ¬v.Oversized := by
  constructor
  · exact fun h v hv ho => h (.item hv ho)
  · rintro h (⟨hv, -⟩ | ⟨hv, ho⟩ | _)
    · cases hv
    · exact h _ hv ho

end IppValue

/-- An attribute that is left out, or within its bounds. -/
def Within (o : Option IppValue) : Prop := ∀ v, o = some v → ¬v.Oversized

@[simp] theorem within_some {v : IppValue} : Within (some v) ↔ ¬v.Oversized := by simp [Within]

@[simp] theorem within_map {α : Type} {f : α → IppValue} {o : Option α} :
    Within (o.map f) ↔ ∀ x ∈ o, ¬(f x).Oversized := by
  cases o <;> simp [Within]

/-- An attribute of several values. -/
@[simp] theorem within_many {α : Type} {f : α → IppValue} {l : List α} :
    Within (manyValues (l.map f)) ↔ ∀ x ∈ l, ¬(f x).Oversized := by
  match l with
  | [] => simp [Within, manyValues]
  | [x] => simp [Within, manyValues]
  | x₁ :: x₂ :: l => simp [Within, manyValues]

theorem IppAttributeGroup.sized_ofTable {tag : DelimiterTag}
    {table : List (String × Option IppValue)}
    (hnames : (table.map Prod.fst).all
      (fun name => decide (name.utf8ByteSize ≤ StringKind.name.maxBytes)) = true)
    (h : ∀ o ∈ table.map Prod.snd, Within o) : (ofTable tag table).Sized := by
  intro a ha
  obtain ⟨entry, hentry, hentryv⟩ := List.mem_filterMap.mp ha
  obtain ⟨v, hv, rfl⟩ := Option.map_eq_some_iff.mp hentryv
  exact ⟨of_decide_eq_true (List.all_eq_true.mp hnames _ (List.mem_map_of_mem hentry)),
    h _ (List.mem_map_of_mem hentry) v hv⟩

/-! ## The texts of a reason -/

/-- No text that is read as the reason is shorter than the one that is written. -/
theorem StateReason.wire_shortest {raw : String} (h : raw ≠ "none") :
    (parse raw).wire.utf8ByteSize ≤ raw.utf8ByteSize := by
  obtain ⟨s, k, rfl, hp⟩ | ⟨-, hp⟩ := suffixed_cases raw
  · rw [hp]
    unfold wire
    split
    · rw [String.utf8ByteSize_append]
      exact Nat.le_add_right _ _
    · exact Nat.le_refl _
  · rw [hp]
    unfold wire
    rw [if_pos ⟨hp, h⟩]

theorem StateReason.wire_fits {texts : List String} (h : ∀ t ∈ texts, Fits t) :
    ∀ r ∈ parseList texts, Fits r.wire := by
  intro r hr
  obtain ⟨raw, hraw, rfl⟩ := List.mem_map.mp hr
  obtain ⟨hmem, hne⟩ := List.mem_filter.mp hraw
  exact (wire_shortest (of_decide_eq_true hne)).trans (h raw hmem)

/-! ## Jobs -/

/-- The texts of a job. -/
def Job.texts (j : Job) : List String :=
  j.printer :: (j.name.toList ++ j.user.toList ++ j.reasons.map StateReason.wire)

theorem Job.toGroup_sized {j : Job} (h : ∀ t ∈ j.texts, Fits t) : j.toGroup.Sized := by
  simp only [texts, List.forall_mem_cons, List.forall_mem_append, List.forall_mem_map,
    Option.mem_toList] at h
  obtain ⟨hprinter, ⟨hname, huser⟩, hreasons⟩ := h
  refine IppAttributeGroup.sized_ofTable rfl ?_
  simpa [table] using ⟨hprinter, hname, huser, hreasons⟩

/-- A part of a text that fits. -/
theorem printerNameFromUri_fits {uri name : String} (h : Fits uri)
    (hn : printerNameFromUri uri = some name) : Fits name := by
  simp only [printerNameFromUri] at hn
  split at hn
  · cases hn
  · cases hn
    exact (Text.utf8ByteSize_afterLast_le uri '/').trans h

theorem Job.decode_fits {group : IppAttributeGroup} {j : Job} (hg : group.Sized)
    (h : Job.decode group = .ok j) : ∀ t ∈ j.texts, Fits t := by
  simp only [Job.decode, bind_eq_ok] at h
  obtain ⟨id, -, value, -, state, -, h⟩ := h
  cases h
  simp only [texts, List.forall_mem_cons, List.forall_mem_append, List.forall_mem_map,
    Option.mem_toList]
  refine ⟨?_, ⟨fun t ht => Attrs.text_fits hg ht, fun t ht => Attrs.text_fits hg ht⟩,
    StateReason.wire_fits fun t ht => Attrs.texts_fit hg ht⟩
  cases hn : (Attrs.text ⟨group⟩ "job-printer-uri").bind printerNameFromUri with
  | none => exact fits_empty
  | some name =>
    obtain ⟨uri, huri, hn⟩ := Option.bind_eq_some_iff.mp hn
    exact printerNameFromUri_fits (Attrs.text_fits hg huri) hn

/-! ## Printers -/

/-- The texts of the values of an option. -/
def OptionValues.texts (o : OptionValues String) : List String := o.supported ++ o.default.toList

/-- The texts of a printer. -/
def Printer.texts (p : Printer) : List String :=
  p.name :: p.uri :: p.deviceUri :: (p.info.toList ++ p.location.toList ++
    p.reasons.map StateReason.wire ++
    (p.supplies.map Supply.name ++ p.supplies.filterMap Supply.kind ++
      p.supplies.filterMap Supply.colour) ++
    (p.options.media.texts ++ p.options.sides.texts ++ p.options.colorMode.texts ++
      p.options.outputBin.texts))

theorem Printer.toGroup_sized {p : Printer} (h : ∀ t ∈ p.texts, Fits t) : p.toGroup.Sized := by
  simp only [texts, OptionValues.texts, List.forall_mem_cons, List.forall_mem_append,
    List.forall_mem_map, Option.mem_toList] at h
  obtain ⟨hname, huri, hdevice, ⟨⟨⟨hinfo, hlocation⟩, hreasons⟩, ⟨hnames, hkinds⟩, hcolours⟩,
    ⟨⟨⟨hmedia, hmedium⟩, hsides, hside⟩, hmodes, hmode⟩, hbins, hbin⟩ := h
  have hkinds : ∀ t, ∀ s ∈ p.supplies, s.kind = some t → Fits t :=
    fun t s hs hk => hkinds t (List.mem_filterMap.mpr ⟨s, hs, hk⟩)
  have hcolours : ∀ t, ∀ s ∈ p.supplies, s.colour = some t → Fits t :=
    fun t s hs hk => hcolours t (List.mem_filterMap.mpr ⟨s, hs, hk⟩)
  refine IppAttributeGroup.sized_ofTable rfl ?_
  simpa [table] using ⟨hname, hdevice, huri, hinfo, hlocation, hreasons, hnames, hkinds, hcolours,
    hmedia, hmedium, hsides, hside, hmodes, hmode, hbins, hbin⟩

theorem Printer.decode_readable {group : IppAttributeGroup} {p : Printer}
    (h : Printer.decode group = .ok p) : p.Readable := by
  simp only [Printer.decode, bind_eq_ok] at h
  obtain ⟨name, -, value, -, state, -, h⟩ := h
  cases h
  exact ⟨rfl, Supply.readable_decodeList⟩

/-- The texts of supplies are those of the lists. -/
theorem Supply.decodeList_fits {names types colours : List String} {levels low : List Int32}
    (hnames : ∀ t ∈ names, Fits t) (htypes : ∀ t ∈ types, Fits t)
    (hcolours : ∀ t ∈ colours, Fits t) :
    ∀ s ∈ decodeList names levels types colours low,
      Fits s.name ∧ (∀ t ∈ s.kind, Fits t) ∧ ∀ t ∈ s.colour, Fits t := by
  intro s hs
  obtain ⟨i, hi⟩ := List.mem_iff_getElem?.mp hs
  rw [decodeList_getElem?] at hi
  obtain ⟨name, hname, hi⟩ := Option.bind_eq_some_iff.mp hi
  obtain ⟨level, -, rfl⟩ := Option.map_eq_some_iff.mp hi
  exact ⟨hnames name (List.mem_of_getElem? hname), fun t ht => htypes t (List.mem_of_getElem? ht),
    fun t ht => hcolours t (List.mem_of_getElem? ht)⟩

theorem Printer.decode_fits {group : IppAttributeGroup} {p : Printer} (hg : group.Sized)
    (h : Printer.decode group = .ok p) : ∀ t ∈ p.texts, Fits t := by
  simp only [Printer.decode, bind_eq_ok] at h
  obtain ⟨name, hname, value, -, state, -, h⟩ := h
  cases h
  have htext {n : String} : ∀ t, Attrs.text ⟨group⟩ n = some t → Fits t :=
    fun t ht => Attrs.text_fits hg ht
  have htexts {n : String} : ∀ t ∈ Attrs.texts ⟨group⟩ n, Fits t :=
    fun t ht => Attrs.texts_fit hg ht
  have hsupplies : ∀ s ∈ Supply.decodeList (Attrs.texts ⟨group⟩ "marker-names")
      (Attrs.ints ⟨group⟩ "marker-levels") (Attrs.texts ⟨group⟩ "marker-types")
      (Attrs.texts ⟨group⟩ "marker-colors") (Attrs.ints ⟨group⟩ "marker-low-levels"),
      Fits s.name ∧ (∀ t ∈ s.kind, Fits t) ∧ ∀ t ∈ s.colour, Fits t :=
    Supply.decodeList_fits htexts htexts htexts
  simp only [texts, OptionValues.texts, PrinterOptions.decode, List.forall_mem_cons,
    List.forall_mem_append, List.forall_mem_map, Option.mem_toList]
  refine ⟨htext name (Attrs.requireText_eq_ok.mp hname), ?_, Attrs.getD_fits hg _, ⟨⟨⟨htext, htext⟩,
    StateReason.wire_fits htexts⟩, ⟨fun s hs => (hsupplies s hs).1, ?_⟩, ?_⟩,
    ⟨⟨⟨htexts, htext⟩, htexts, htext⟩, htexts, htext⟩, htexts, htext⟩
  · cases hl : Attrs.texts ⟨group⟩ "printer-uri-supported" with
    | nil => exact fits_empty
    | cons uri rest => exact htexts uri (hl ▸ List.mem_cons_self)
  · intro t ht
    obtain ⟨s, hs, hk⟩ := List.mem_filterMap.mp ht
    exact (hsupplies s hs).2.1 t hk
  · intro t ht
    obtain ⟨s, hs, hk⟩ := List.mem_filterMap.mp ht
    exact (hsupplies s hs).2.2 t hk

/-! ## Subscriptions and notifications -/

/-- The texts of a subscription. -/
def Subscription.texts (s : Subscription) : List String :=
  s.events.map NotifyEvent.keyword ++ s.subscriber.toList

/-- The texts of a notification. -/
def Notification.texts (n : Notification) : List String := n.event.keyword :: n.text.toList

theorem Subscription.toGroup_sized {s : Subscription} (h : ∀ t ∈ s.texts, Fits t) :
    s.toGroup.Sized := by
  simp only [texts, List.forall_mem_append, List.forall_mem_map, Option.mem_toList] at h
  refine IppAttributeGroup.sized_ofTable rfl ?_
  simpa using h

theorem Notification.toGroup_sized {n : Notification} (h : ∀ t ∈ n.texts, Fits t) :
    n.toGroup.Sized := by
  simp only [texts, List.forall_mem_cons, Option.mem_toList] at h
  refine IppAttributeGroup.sized_ofTable rfl ?_
  simpa using h

/-- An event that a keyword is read as has the keyword. -/
theorem NotifyEvent.keyword_fromKeyword (keyword : String) :
    (NotifyEvent.fromKeyword keyword).keyword = keyword := by
  unfold NotifyEvent.fromKeyword
  split <;> rfl

theorem Subscription.decode_readable {group : IppAttributeGroup} {s : Subscription}
    (h : Subscription.decode group = .ok s) : s.Readable := by
  simp only [Subscription.decode, bind_eq_ok] at h
  obtain ⟨id, -, h⟩ := h
  cases h
  constructor
  · intro e he
    obtain ⟨keyword, -, rfl⟩ := List.mem_map.mp he
    exact NotifyEvent.canonical_fromKeyword keyword
  · intro d hd
    obtain ⟨v, hv, rfl⟩ := Option.map_eq_some_iff.mp hd
    have hpos : 0 < v := by simpa using (Option.filter_eq_some_iff.mp hv).2
    obtain ⟨h0, hlt⟩ := toNat_asU64 hpos
    exact ⟨h0, hlt, rfl⟩

theorem Subscription.decode_fits {group : IppAttributeGroup} {s : Subscription} (hg : group.Sized)
    (h : Subscription.decode group = .ok s) : ∀ t ∈ s.texts, Fits t := by
  simp only [Subscription.decode, bind_eq_ok] at h
  obtain ⟨id, -, h⟩ := h
  cases h
  simp only [texts, List.forall_mem_append, List.forall_mem_map, Option.mem_toList,
    NotifyEvent.keyword_fromKeyword]
  exact ⟨fun t ht => Attrs.texts_fit hg ht, fun t ht => Attrs.text_fits hg ht⟩

theorem Notification.decode_canonical {group : IppAttributeGroup} {n : Notification}
    (h : Notification.decode group = .ok n) : n.event.Canonical := by
  simp only [Notification.decode, bind_eq_ok] at h
  obtain ⟨id, -, h⟩ := h
  cases h
  cases Attrs.text ⟨group⟩ "notify-subscribed-event" with
  | none => rfl
  | some keyword => exact NotifyEvent.canonical_fromKeyword keyword

theorem Notification.decode_fits {group : IppAttributeGroup} {n : Notification}
    (hg : group.Sized) (h : Notification.decode group = .ok n) : ∀ t ∈ n.texts, Fits t := by
  simp only [Notification.decode, bind_eq_ok] at h
  obtain ⟨id, -, h⟩ := h
  cases h
  simp only [texts, List.forall_mem_cons, Option.mem_toList]
  refine ⟨?_, fun t ht => Attrs.text_fits hg ht⟩
  cases he : Attrs.text ⟨group⟩ "notify-subscribed-event" with
  | none => exact fits_empty
  | some keyword =>
    simp only [Option.map_some, Option.getD_some, NotifyEvent.keyword_fromKeyword]
    exact Attrs.text_fits hg he

/-! ## Classes, drivers and documents -/

/-- The texts of a class. -/
def Class.texts (c : Class) : List String := c.name :: c.members

/-- The texts of a driver. -/
def Ppd.texts (p : Ppd) : List String := [p.name, p.makeAndModel, p.deviceId]

/-- The texts of a document. -/
def Document.texts (d : Document) : List String := d.name.toList ++ d.format.toList

theorem Class.toGroup_sized {c : Class} (h : ∀ t ∈ c.texts, Fits t) : c.toGroup.Sized := by
  simp only [texts, List.forall_mem_cons] at h
  refine IppAttributeGroup.sized_ofTable rfl ?_
  simpa using h

theorem Ppd.toGroup_sized {p : Ppd} (h : ∀ t ∈ p.texts, Fits t) : p.toGroup.Sized := by
  refine IppAttributeGroup.sized_ofTable rfl ?_
  simpa [texts] using h

theorem Document.toGroup_sized {d : Document} (h : ∀ t ∈ d.texts, Fits t) : d.toGroup.Sized := by
  simp only [texts, List.forall_mem_append, Option.mem_toList] at h
  refine IppAttributeGroup.sized_ofTable rfl ?_
  simpa using h

theorem Class.decode_fits {group : IppAttributeGroup} {c : Class} (hg : group.Sized)
    (h : Class.decode group = .ok c) : ∀ t ∈ c.texts, Fits t := by
  simp only [Class.decode, bind_eq_ok] at h
  obtain ⟨name, hname, h⟩ := h
  cases h
  exact List.forall_mem_cons.mpr ⟨Attrs.text_fits hg (Attrs.requireText_eq_ok.mp hname),
    fun t ht => Attrs.texts_fit hg ht⟩

theorem Ppd.decode_fits {group : IppAttributeGroup} {p : Ppd} (hg : group.Sized)
    (h : Ppd.decode group = .ok p) : ∀ t ∈ p.texts, Fits t := by
  simp only [Ppd.decode, bind_eq_ok] at h
  obtain ⟨name, hname, h⟩ := h
  cases h
  simp only [texts, List.forall_mem_cons, List.not_mem_nil, false_implies, implies_true, and_true]
  exact ⟨Attrs.text_fits hg (Attrs.requireText_eq_ok.mp hname), Attrs.getD_fits hg _,
    Attrs.getD_fits hg _⟩

theorem Document.decode_fits {group : IppAttributeGroup} {d : Document} (hg : group.Sized)
    (h : Document.decode group = .ok d) : ∀ t ∈ d.texts, Fits t := by
  simp only [Document.decode, bind_eq_ok] at h
  obtain ⟨number, -, h⟩ := h
  cases h
  simp only [texts, List.forall_mem_append, Option.mem_toList]
  exact ⟨fun t ht => Attrs.text_fits hg ht, fun t ht => Attrs.text_fits hg ht⟩

/-! ## All of them -/

/-- Exactly these values come out of the decoder, from a group within its bounds. -/
def Returns {α : Type} (decode : IppAttributeGroup → Except Error α) (values : α → Prop) : Prop :=
  ∀ a, (∃ group : IppAttributeGroup, group.Sized ∧ decode group = .ok a) ↔ values a

/-- It is enough that the values have what the decoder gives them, and that each of them has a group
within its bounds. -/
theorem Returns.of {α : Type} {decode : IppAttributeGroup → Except Error α} {P : α → Prop}
    {texts : α → List String} (toGroup : α → IppAttributeGroup)
    (hdecode : ∀ {group a}, decode group = .ok a → P a)
    (hfits : ∀ {group a}, group.Sized → decode group = .ok a → ∀ t ∈ texts a, Fits t)
    (hsized : ∀ {a}, (∀ t ∈ texts a, Fits t) → (toGroup a).Sized)
    (hback : ∀ {a}, P a → decode (toGroup a) = .ok a) :
    Returns decode fun a => P a ∧ ∀ t ∈ texts a, Fits t := by
  refine fun a => ⟨?_, fun h => ⟨toGroup a, hsized h.2, hback h.1⟩⟩
  rintro ⟨group, hg, h⟩
  exact ⟨hdecode h, hfits hg h⟩

/-- **What the decoders return.** A value comes out of its decoder, from some group that the crate
can hold, exactly when it is one of these, and its texts fit. -/
theorem decoders_exact :
    Returns Job.decode (fun j => j.WellFormed ∧ ∀ t ∈ j.texts, Fits t) ∧
    Returns Printer.decode (fun p => p.Readable ∧ ∀ t ∈ p.texts, Fits t) ∧
    Returns Subscription.decode (fun s => s.Readable ∧ ∀ t ∈ s.texts, Fits t) ∧
    Returns Notification.decode (fun n => n.event.Canonical ∧ ∀ t ∈ n.texts, Fits t) ∧
    Returns Class.decode (fun c => ∀ t ∈ c.texts, Fits t) ∧
    Returns Ppd.decode (fun p => ∀ t ∈ p.texts, Fits t) ∧
    Returns Document.decode (fun d => ∀ t ∈ d.texts, Fits t) := by
  refine ⟨.of Job.toGroup Job.decode_wellFormed Job.decode_fits Job.toGroup_sized
      Job.decode_toGroup,
    .of Printer.toGroup Printer.decode_readable Printer.decode_fits Printer.toGroup_sized
      Printer.decode_toGroup,
    .of Subscription.toGroup Subscription.decode_readable Subscription.decode_fits
      Subscription.toGroup_sized Subscription.decode_toGroup,
    .of Notification.toGroup Notification.decode_canonical Notification.decode_fits
      Notification.toGroup_sized Notification.decode_toGroup,
    fun c => ⟨?_, ?_⟩, fun p => ⟨?_, ?_⟩, fun d => ⟨?_, ?_⟩⟩
  · rintro ⟨group, hg, h⟩
    exact Class.decode_fits hg h
  · exact fun h => ⟨c.toGroup, Class.toGroup_sized h, c.decode_toGroup⟩
  · rintro ⟨group, hg, h⟩
    exact Ppd.decode_fits hg h
  · exact fun h => ⟨p.toGroup, Ppd.toGroup_sized h, p.decode_toGroup⟩
  · rintro ⟨group, hg, h⟩
    exact Document.decode_fits hg h
  · exact fun h => ⟨d.toGroup, Document.toGroup_sized h, d.decode_toGroup⟩

end Ipp
