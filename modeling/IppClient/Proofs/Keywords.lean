import IppClient.Model

/-!
# Keywords that carry parts

Two keywords of the wire are taken apart: a state reason at its severity suffix and a media name
at its underscores. Neither parser loses anything, and the worst severity of a printer is read off
the raw list.

* `StateReason.parse_append_suffix`, `StateReason.parse_of_not_suffixed`: what is parsed.
* `StateReason.parse_eq_parse_iff`: the one pair of texts that a reason does not tell apart.
* `highestSeverity_parseList`: the maximum is `StateReason.worst` of the raw list.
* `MediaSize.parse_eq_some`: a name is parsed exactly when it is `class_name_dimensions`.
-/

namespace Ipp

open Base

/-! ## The severity suffix -/

/-- The suffix that names a severity. -/
def Severity.suffix : Severity → String
  | .error => "-error"
  | .warning => "-warning"
  | .report => "-report"

namespace StateReason

/-- The raw reason ends in the suffix of `s`. -/
def EndsIn (raw : String) (s : Severity) : Prop := ∃ k, raw = k ++ s.suffix

instance (raw : String) (s : Severity) : Decidable (EndsIn raw s) :=
  decidable_of_iff ((Text.stripEnd raw s.suffix).isSome = true) <| by
    simp only [Option.isSome_iff_exists, Text.stripEnd_eq_some, EndsIn]

/-- The raw reason ends in one of the three suffixes. -/
def Suffixed (raw : String) : Prop := ∃ s, EndsIn raw s

theorem stripEnd_append_suffix (k : String) (s : Severity) :
    Text.stripEnd (k ++ s.suffix) s.suffix = some k :=
  Text.stripEnd_eq_some.mpr rfl

/-- A text ends in one suffix at most: the three end in different letters. -/
theorem EndsIn.unique {raw : String} {s t : Severity} (hs : EndsIn raw s) (ht : EndsIn raw t) :
    s = t := by
  obtain ⟨k, hk⟩ := hs
  obtain ⟨l, hl⟩ := ht
  have h : (k ++ s.suffix).toList.getLast? = (l ++ t.suffix).toList.getLast? := by rw [← hk, ← hl]
  cases s <;> cases t <;> simp [Severity.suffix] at h ⊢

theorem stripEnd_suffix_eq_none {k : String} {s t : Severity} (h : t ≠ s) :
    Text.stripEnd (k ++ s.suffix) t.suffix = none := by
  rw [Text.stripEnd_eq_none]
  intro rest hr
  exact h (EndsIn.unique ⟨rest, hr⟩ ⟨k, rfl⟩)

/-- Only the outermost suffix is taken off. -/
theorem parse_append_suffix (k : String) (s : Severity) : parse (k ++ s.suffix) = ⟨k, s⟩ := by
  have hs := stripEnd_append_suffix k s
  unfold parse
  cases s with
  | error =>
    simp only [Severity.suffix] at hs ⊢
    simp only [List.findSome?_cons, hs, Option.map_some, Option.getD_some]
  | warning =>
    have he := stripEnd_suffix_eq_none (k := k) (s := .warning) (t := .error) (by decide)
    simp only [Severity.suffix] at hs he ⊢
    simp only [List.findSome?_cons, hs, he, Option.map_some, Option.map_none, Option.getD_some]
  | report =>
    have he := stripEnd_suffix_eq_none (k := k) (s := .report) (t := .error) (by decide)
    have hw := stripEnd_suffix_eq_none (k := k) (s := .report) (t := .warning) (by decide)
    simp only [Severity.suffix] at hs he hw ⊢
    simp only [List.findSome?_cons, hs, he, hw, Option.map_some, Option.map_none,
      Option.getD_some]

theorem parse_of_not_suffixed {raw : String} (h : ¬Suffixed raw) : parse raw = ⟨raw, .report⟩ := by
  have hnone : ∀ s : Severity, Text.stripEnd raw s.suffix = none := by
    intro s
    rw [Text.stripEnd_eq_none]
    exact fun k hk => h ⟨s, k, hk⟩
  have he := hnone .error
  have hw := hnone .warning
  have hr := hnone .report
  simp only [Severity.suffix] at he hw hr
  simp only [parse, List.findSome?_cons, List.findSome?_nil, he, hw, hr, Option.map_none,
    Option.getD_none]

/-- Every raw reason is a keyword with a suffix, or has none and is its own keyword. -/
theorem suffixed_cases (raw : String) :
    (∃ s k, raw = k ++ s.suffix ∧ parse raw = ⟨k, s⟩) ∨
      (¬Suffixed raw ∧ parse raw = ⟨raw, .report⟩) := by
  by_cases h : Suffixed raw
  · obtain ⟨s, k, rfl⟩ := h
    exact .inl ⟨s, k, rfl, parse_append_suffix k s⟩
  · exact .inr ⟨h, parse_of_not_suffixed h⟩

/-- Two texts are one reason only where one spells out the severity that the other leaves out. -/
theorem parse_eq_parse_iff {r r' : String} (hne : r ≠ r') :
    parse r = parse r' ↔
      (r' = r ++ Severity.report.suffix ∧ ¬Suffixed r) ∨
        (r = r' ++ Severity.report.suffix ∧ ¬Suffixed r') := by
  constructor
  · intro h
    obtain ⟨s, k, hr, hp⟩ | ⟨hn, hp⟩ := suffixed_cases r <;>
      obtain ⟨s', k', hr', hp'⟩ | ⟨hn', hp'⟩ := suffixed_cases r' <;>
      rw [hp, hp'] at h <;> injection h with hk hs
    · exact absurd (by rw [hr, hr', hk, hs]) hne
    · rw [hk, hs] at hr
      exact .inr ⟨hr, hn'⟩
    · rw [← hk, ← hs] at hr'
      exact .inl ⟨hr', hn⟩
    · exact absurd hk hne
  · rintro (⟨rfl, h⟩ | ⟨rfl, h⟩)
    · rw [parse_append_suffix, parse_of_not_suffixed h]
    · rw [parse_append_suffix, parse_of_not_suffixed h]

/-- A severity above the default one is the suffix. -/
theorem severity_parse_eq {r : String} {s : Severity} (hs : s ≠ .report) :
    (parse r).severity = s ↔ EndsIn r s := by
  constructor
  · intro h
    obtain ⟨t, k, hr, hp⟩ | ⟨-, hp⟩ := suffixed_cases r <;> rw [hp] at h
    · exact ⟨k, h ▸ hr⟩
    · exact absurd h.symm hs
  · rintro ⟨k, rfl⟩
    rw [parse_append_suffix]

/-! ## The worst of a list -/

/-- The alarm level of a raw list: its worst suffix, and a report if it has any reason at all. -/
def worst (raw : List String) : Option Severity :=
  if ∃ r ∈ raw, EndsIn r .error then some .error
  else if ∃ r ∈ raw, EndsIn r .warning then some .warning
  else if ∃ r ∈ raw, r ≠ "none" then some .report
  else none

example : worst ["none", "toner-low-warning", "media-jam"] = some .warning := by decide

theorem EndsIn.ne_none {r : String} {s : Severity} (h : EndsIn r s) : r ≠ "none" := by
  obtain ⟨k, rfl⟩ := h
  intro hk
  have hl : (k ++ s.suffix).toList.length = 4 := by
    rw [hk]
    rfl
  have hs : 6 ≤ s.suffix.toList.length := by cases s <;> decide
  rw [String.toList_append, List.length_append] at hl
  omega

theorem mem_severities {raw : List String} {s : Severity} :
    s ∈ (parseList raw).map (·.severity) ↔ ∃ r ∈ raw, r ≠ "none" ∧ (parse r).severity = s := by
  simp only [parseList, List.map_map, List.mem_map, List.mem_filter, decide_eq_true_eq,
    Function.comp_apply, and_assoc]

/-- A list has a severity of `s` when a raw reason of it is read as one. -/
theorem highestSeverity_eq_some {raw : List String} {r : String} {s : Severity} (hr : r ∈ raw)
    (hn : r ≠ "none") (hs : (parse r).severity = s)
    (hmax : ∀ t ∈ (parseList raw).map (·.severity), t ≤ s) :
    ((parseList raw).map (·.severity)).max? = some s :=
  List.max?_eq_some_iff.mpr ⟨mem_severities.mpr ⟨r, hr, hn, hs⟩, hmax⟩

/-- **The maximum of the parsed reasons is the worst of the raw ones.** -/
theorem highestSeverity_parseList (raw : List String) :
    ((parseList raw).map (·.severity)).max? = worst raw := by
  unfold worst
  split
  · rename_i h
    obtain ⟨r, hr, he⟩ := h
    have hs : (parse r).severity = .error := (severity_parse_eq (by decide)).mpr he
    refine highestSeverity_eq_some hr he.ne_none hs fun t _ => ?_
    cases t <;> decide
  · rename_i herr
    have hno : Severity.error ∉ (parseList raw).map (·.severity) := by
      intro h
      obtain ⟨r, hr, -, he⟩ := mem_severities.mp h
      exact herr ⟨r, hr, (severity_parse_eq (by decide)).mp he⟩
    split
    · rename_i h
      obtain ⟨r, hr, hw⟩ := h
      refine highestSeverity_eq_some hr hw.ne_none ((severity_parse_eq (by decide)).mpr hw)
        fun t ht => ?_
      cases t with
      | error => exact absurd ht hno
      | warning => exact le_refl _
      | report => decide
    · rename_i hwarn
      have hno' : Severity.warning ∉ (parseList raw).map (·.severity) := by
        intro h
        obtain ⟨r, hr, -, hw⟩ := mem_severities.mp h
        exact hwarn ⟨r, hr, (severity_parse_eq (by decide)).mp hw⟩
      have hreport : ∀ t ∈ (parseList raw).map (·.severity), t = .report := by
        intro t ht
        cases t with
        | error => exact absurd ht hno
        | warning => exact absurd ht hno'
        | report => rfl
      split
      · rename_i h
        obtain ⟨r, hr, hn⟩ := h
        have hs : (parse r).severity = .report :=
          hreport _ (mem_severities.mpr ⟨r, hr, hn, rfl⟩)
        exact highestSeverity_eq_some hr hn hs fun t ht => le_of_eq (hreport t ht)
      · rename_i h
        rw [List.max?_eq_none_iff, List.map_eq_nil_iff, parseList, List.map_eq_nil_iff,
          List.filter_eq_nil_iff]
        intro r hr hn
        exact h ⟨r, hr, of_decide_eq_true hn⟩

/-- Only which reasons there are counts, not their order, their number or the `none`s. -/
theorem worst_congr {raw raw' : List String} (h : ∀ r, r ≠ "none" → (r ∈ raw ↔ r ∈ raw')) :
    worst raw = worst raw' := by
  have hex : ∀ P : String → Prop, (∀ r, P r → r ≠ "none") →
      ((∃ r ∈ raw, P r) ↔ ∃ r ∈ raw', P r) := by
    intro P hP
    constructor
    · rintro ⟨r, hr, hp⟩
      exact ⟨r, (h r (hP r hp)).mp hr, hp⟩
    · rintro ⟨r, hr, hp⟩
      exact ⟨r, (h r (hP r hp)).mpr hr, hp⟩
  have hend : ∀ s, (∃ r ∈ raw, EndsIn r s) ↔ ∃ r ∈ raw', EndsIn r s := fun s =>
    hex (EndsIn · s) fun _ he => he.ne_none
  have hany : (∃ r ∈ raw, r ≠ "none") ↔ ∃ r ∈ raw', r ≠ "none" :=
    hex (· ≠ "none") fun _ hn => hn
  unfold worst
  simp only [hend, hany]

/-- More reasons are never less severe. -/
theorem worst_mono {raw raw' : List String} (h : raw ⊆ raw') {s : Severity}
    (hs : worst raw = some s) : ∃ s', worst raw' = some s' ∧ s ≤ s' := by
  rw [← highestSeverity_parseList, List.max?_eq_some_iff] at hs
  have hmem : s ∈ (parseList raw').map (·.severity) := by
    obtain ⟨r, hr, hn, hr'⟩ := mem_severities.mp hs.1
    exact mem_severities.mpr ⟨r, h hr, hn, hr'⟩
  cases hmax : ((parseList raw').map (·.severity)).max? with
  | none =>
    rw [List.max?_eq_none_iff] at hmax
    rw [hmax] at hmem
    cases hmem
  | some s' =>
    refine ⟨s', by rw [← highestSeverity_parseList, hmax], ?_⟩
    exact (List.max?_eq_some_iff.mp hmax).2 s hmem

end StateReason

/-- The raw state reasons of a group. -/
def rawReasons (group : IppAttributeGroup) : List String :=
  Attrs.texts ⟨group⟩ "printer-state-reasons"

theorem Printer.highestSeverity_decode {group : IppAttributeGroup} {p : Printer}
    (h : Printer.decode group = .ok p) :
    p.highestSeverity = StateReason.worst (rawReasons group) := by
  have hr : p.reasons = StateReason.parseList (rawReasons group) := by
    simp only [Printer.decode, bind_eq_ok] at h
    obtain ⟨_, -, _, -, _, -, h⟩ := h
    cases h
    rfl
  rw [Printer.highestSeverity, hr, StateReason.highestSeverity_parseList]

/-- **State reasons lose nothing but the default suffix**, and the worst one is found. -/
theorem state_reasons_lossless :
    (∀ k (s : Severity), StateReason.parse (k ++ s.suffix) = ⟨k, s⟩) ∧
    (∀ raw, (∀ k (s : Severity), raw ≠ k ++ s.suffix) →
      StateReason.parse raw = ⟨raw, .report⟩) ∧
    (∀ r r', r ≠ r' → (StateReason.parse r = StateReason.parse r' ↔
      (r' = r ++ "-report" ∧ ¬StateReason.Suffixed r) ∨
        (r = r' ++ "-report" ∧ ¬StateReason.Suffixed r'))) ∧
    (∀ group p, Printer.decode group = .ok p →
      p.highestSeverity = StateReason.worst (rawReasons group)) ∧
    (∀ group group' p p', Printer.decode group = .ok p → Printer.decode group' = .ok p' →
      (∀ r, r ≠ "none" → (r ∈ rawReasons group ↔ r ∈ rawReasons group')) →
      p.highestSeverity = p'.highestSeverity) ∧
    (∀ group group' p p', Printer.decode group = .ok p → Printer.decode group' = .ok p' →
      rawReasons group ⊆ rawReasons group' →
      ∀ s, p.highestSeverity = some s → ∃ s', p'.highestSeverity = some s' ∧ s ≤ s') := by
  refine ⟨StateReason.parse_append_suffix, ?_, fun _ _ => StateReason.parse_eq_parse_iff,
    fun _ _ => Printer.highestSeverity_decode, ?_, ?_⟩
  · rintro raw h
    exact StateReason.parse_of_not_suffixed fun ⟨s, k, hk⟩ => h k s hk
  · intro group group' p p' hp hp' h
    rw [Printer.highestSeverity_decode hp, Printer.highestSeverity_decode hp']
    exact StateReason.worst_congr h
  · intro group group' p p' hp hp' h s hs
    rw [Printer.highestSeverity_decode hp] at hs
    rw [Printer.highestSeverity_decode hp']
    exact StateReason.worst_mono h hs

/-- A printer with a jam and a low toner. -/
def jammedPrinter : IppAttributeGroup :=
  ⟨.printerAttributes, [⟨"printer-name", .nameWithoutLanguage "laser"⟩, ⟨"printer-state", .enum 5⟩,
    ⟨"printer-state-reasons", .array [.keyword "none", .keyword "toner-low-warning",
      .keyword "media-jam-error"]⟩]⟩

/-- The jam decides, and the `none` does not count. -/
theorem jammed_printer_severity :
    ∃ p, Printer.decode jammedPrinter = .ok p ∧ p.highestSeverity = some .error := by
  obtain ⟨-, -, -, h, -, -⟩ := state_reasons_lossless
  exact ⟨_, rfl, h jammedPrinter _ rfl⟩

/-! ## Media names -/

/-- The keyword is `class_name_dimensions`: three parts, no underscore in the outer two. -/
structure PwgShape (keyword c name dimensions : String) : Prop where
  eq : keyword = c ++ "_" ++ name ++ "_" ++ dimensions
  class_ne : c ≠ ""
  name_ne : name ≠ ""
  dimensions_ne : dimensions ≠ ""
  class_plain : '_' ∉ c.toList
  dimensions_plain : '_' ∉ dimensions.toList

/-- **A media name is parsed exactly when it has the shape**, into its parts. -/
theorem MediaSize.parse_eq_some {keyword : String} {m : MediaSize} :
    MediaSize.parse keyword = some m ↔
      PwgShape keyword m.class m.name m.dimensions ∧ m.keyword = keyword ∧
        m.borderless = Text.contains m.name ".borderless" := by
  constructor
  · intro h
    obtain ⟨⟨head, dimensions⟩, hr, h⟩ := Option.bind_eq_some_iff.mp h
    obtain ⟨⟨c, name⟩, hs, h⟩ := Option.bind_eq_some_iff.mp h
    obtain ⟨hk, hd⟩ := Text.rsplitOnce_eq_some.mp hr
    obtain ⟨hh, hc⟩ := Text.splitOnce_eq_some.mp hs
    simp only at h
    split at h
    · cases h
    · rename_i hne
      simp only [not_or] at hne
      cases h
      exact ⟨⟨by rw [hk, hh]; rfl, hne.1, hne.2.1, hne.2.2, hc, hd⟩, rfl, rfl⟩
  · rintro ⟨⟨hk, hc, hn, hd, hpc, hpd⟩, rfl, hb⟩
    have hr : Text.rsplitOnce m.keyword '_' = some (m.class ++ "_" ++ m.name, m.dimensions) :=
      Text.rsplitOnce_eq_some.mpr ⟨hk, hpd⟩
    have hs : Text.splitOnce (m.class ++ "_" ++ m.name) '_' = some (m.class, m.name) :=
      Text.splitOnce_eq_some.mpr ⟨rfl, hpc⟩
    have hne : ¬(m.class = "" ∨ m.name = "" ∨ m.dimensions = "") := by simp [hc, hn, hd]
    simp only [MediaSize.parse, hr, hs, Option.bind_eq_bind, Option.bind_some, if_neg hne,
      ← hb]

theorem PwgShape.parse {keyword c name dimensions : String}
    (h : PwgShape keyword c name dimensions) :
    MediaSize.parse keyword =
      some ⟨keyword, c, name, dimensions, Text.contains name ".borderless"⟩ :=
  MediaSize.parse_eq_some.mpr ⟨h, rfl, rfl⟩

/-- The parts of a keyword are determined by it: its first and its last underscore. -/
theorem PwgShape.unique {keyword c c' name name' dimensions dimensions' : String}
    (h : PwgShape keyword c name dimensions) (h' : PwgShape keyword c' name' dimensions') :
    c = c' ∧ name = name' ∧ dimensions = dimensions' := by
  have hp := h.parse
  rw [h'.parse] at hp
  injection hp with hm
  injection hm with _ hc hn hd _
  exact ⟨hc.symm, hn.symm, hd.symm⟩

/-- **Media names lose nothing**: what is parsed is the one decomposition of the name, which
rebuilds it. -/
theorem media_names_lossless :
    (∀ k, (MediaSize.parse k).isSome = true ↔ ∃ c n d, PwgShape k c n d) ∧
    (∀ k c n d c' n' d', PwgShape k c n d → PwgShape k c' n' d' → c = c' ∧ n = n' ∧ d = d') ∧
    (∀ k c n d, PwgShape k c n d → ∃ m, MediaSize.parse k = some m ∧
      m.class = c ∧ m.name = n ∧ m.dimensions = d ∧ m.keyword = k ∧
      (m.borderless = true ↔ ∃ a b, n = a ++ ".borderless" ++ b)) ∧
    (∀ k m, MediaSize.parse k = some m → m.class ++ "_" ++ m.name ++ "_" ++ m.dimensions = k) ∧
    (∀ k k' m m', MediaSize.parse k = some m → MediaSize.parse k' = some m' →
      m.class = m'.class → m.name = m'.name → m.dimensions = m'.dimensions → k = k') := by
  have hrebuild : ∀ k m, MediaSize.parse k = some m →
      m.class ++ "_" ++ m.name ++ "_" ++ m.dimensions = k :=
    fun k m h => (MediaSize.parse_eq_some.mp h).1.eq.symm
  refine ⟨fun k => ⟨fun h => ?_, ?_⟩, fun _ _ _ _ _ _ _ => PwgShape.unique, ?_, hrebuild, ?_⟩
  · obtain ⟨m, hm⟩ := Option.isSome_iff_exists.mp h
    exact ⟨_, _, _, (MediaSize.parse_eq_some.mp hm).1⟩
  · rintro ⟨c, n, d, h⟩
    rw [h.parse]
    rfl
  · intro k c n d h
    exact ⟨_, h.parse, rfl, rfl, rfl, rfl, Text.contains_eq_true⟩
  · intro k k' m m' hm hm' hc hn hd
    rw [← hrebuild k m hm, ← hrebuild k' m' hm', hc, hn, hd]

end Ipp
