import Mathlib.Tactic.Common

/-!
# IPP messages

The data types of the `ipp` crate that the client reads and builds: values, attributes, attribute
groups and messages (`IppRequestResponse`), with the container operations (`groups_of`,
`first_of`, `get`, `add`). A group is a list of attributes; `get` returns the first of a name.

Text is a `String` everywhere: the length bounds of the crate's string types are in the
conversions, which is where the code meets them, and in `IppAttributeGroup.Sized` (both in
`IppClient.Wire.Crate`).
-/

namespace Ipp

/-- `ipp::value::IppValue`. -/
inductive IppValue where
  | integer (v : Int32)
  | enum (v : Int32)
  | octetString (v : List UInt8)
  | textWithoutLanguage (v : String)
  | nameWithoutLanguage (v : String)
  | textWithLanguage (language text : String)
  | nameWithLanguage (language name : String)
  | charset (v : String)
  | naturalLanguage (v : String)
  | uri (v : String)
  | uriScheme (v : String)
  | rangeOfInteger (min max : Int32)
  | boolean (v : Bool)
  | keyword (v : String)
  | array (items : List IppValue)
  | collection (members : List (String × IppValue))
  | mimeMediaType (v : String)
  | memberAttrName (v : String)
  | dateTime (fields : List UInt8)
  | resolution (crossFeed feed : Int32) (units : Int8)
  | noValue
  | other (tag : UInt8) (data : List UInt8)

/-- The value is an empty array, or has one in it: a list of values that has none. -/
inductive IppValue.HasEmptyArray : IppValue → Prop
  | here : HasEmptyArray (.array [])
  | item {v : IppValue} {items : List IppValue} (h : v ∈ items) (hv : HasEmptyArray v) :
    HasEmptyArray (.array items)
  | member {name : String} {v : IppValue} {members : List (String × IppValue)}
      (h : (name, v) ∈ members) (hv : HasEmptyArray v) : HasEmptyArray (.collection members)

/-- `ipp::attribute::IppAttribute`. -/
structure IppAttribute where
  name : String
  value : IppValue

/-- `ipp::model::DelimiterTag`: the tags that open a group. -/
inductive DelimiterTag where
  | operationAttributes
  | jobAttributes
  | printerAttributes
  | unsupportedAttributes
  | subscriptionAttributes
  | eventNotificationAttributes
  | documentAttributes
  deriving DecidableEq

/-- `ipp::attribute::IppAttributeGroup`. -/
structure IppAttributeGroup where
  tag : DelimiterTag
  attributes : List IppAttribute

namespace IppAttributeGroup

/-- `IppAttributeGroup::get`: the first attribute of that name. -/
def get (g : IppAttributeGroup) (name : String) : Option IppAttribute :=
  g.attributes.find? fun a => a.name = name

end IppAttributeGroup

/-- The body of a request: the bytes of a document. -/
abbrev Payload := List UInt8

/-- `ipp::request::IppRequestResponse`: a request or a response. The header field holds the
operation of a request and the status of a response. -/
structure IppRequestResponse where
  operationOrStatus : Int16
  groups : List IppAttributeGroup
  payload : Payload

namespace IppRequestResponse

/-- `attributes().groups_of(tag)`. -/
def groupsOf (m : IppRequestResponse) (tag : DelimiterTag) : List IppAttributeGroup :=
  m.groups.filter fun g => g.tag = tag

/-- `attributes().first_of(tag)`. -/
def firstOf (m : IppRequestResponse) (tag : DelimiterTag) : Option IppAttributeGroup :=
  (m.groupsOf tag).head?

/-- `add` on a list of groups: at the end of the first group with the tag, or in a new group. -/
def addTo (tag : DelimiterTag) (a : IppAttribute) : List IppAttributeGroup → List IppAttributeGroup
  | [] => [⟨tag, [a]⟩]
  | g :: gs => if g.tag = tag then ⟨g.tag, g.attributes ++ [a]⟩ :: gs else g :: addTo tag a gs

/-- `attributes_mut().add(tag, attribute)`. -/
def add (m : IppRequestResponse) (tag : DelimiterTag) (a : IppAttribute) : IppRequestResponse :=
  { m with groups := addTo tag a m.groups }

/-- The value of an attribute in the first group with the tag. -/
def lookup (m : IppRequestResponse) (tag : DelimiterTag) (name : String) : Option IppValue :=
  (m.firstOf tag).bind fun g => (g.get name).map (·.value)

/-- An operation attribute. -/
def operation (m : IppRequestResponse) (name : String) : Option IppValue :=
  m.lookup .operationAttributes name

/-- The message has the attribute, in a group with the tag. -/
def Has (m : IppRequestResponse) (tag : DelimiterTag) (a : IppAttribute) : Prop :=
  ∃ g ∈ m.groups, g.tag = tag ∧ a ∈ g.attributes

/-! ## Lookups after `add` -/

theorem groupsOf_addTo_ne {tag tag' : DelimiterTag} (h : tag' ≠ tag) (a : IppAttribute)
    (gs : List IppAttributeGroup) :
    (addTo tag a gs).filter (fun g => g.tag = tag') = gs.filter fun g => g.tag = tag' := by
  induction gs with
  | nil => simp [addTo, Ne.symm h]
  | cons g gs ih =>
    unfold addTo
    split
    · rename_i hg
      simp [hg, Ne.symm h]
    · simp [List.filter_cons, ih]

/-- Adding to another group does not change a lookup. -/
theorem lookup_add_ne {tag tag' : DelimiterTag} (h : tag' ≠ tag) (m : IppRequestResponse)
    (a : IppAttribute) (name : String) : (m.add tag a).lookup tag' name = m.lookup tag' name := by
  simp only [lookup, firstOf, groupsOf, add, groupsOf_addTo_ne h]

theorem firstOf_add (m : IppRequestResponse) (tag : DelimiterTag) (a : IppAttribute) :
    (m.add tag a).firstOf tag =
      some ⟨tag, ((m.firstOf tag).map (·.attributes)).getD [] ++ [a]⟩ := by
  simp only [firstOf, groupsOf, add]
  induction m.groups with
  | nil => simp [addTo]
  | cons g gs ih =>
    unfold addTo
    split
    · rename_i hg
      simp [hg]
    · rename_i hg
      simpa [hg] using ih

/-- Adding to the same group: an attribute that was there stays, and the new one is found if none
of its name was. -/
theorem lookup_add_self (m : IppRequestResponse) (tag : DelimiterTag) (a : IppAttribute)
    (name : String) :
    (m.add tag a).lookup tag name =
      (m.lookup tag name).or (if a.name = name then some a.value else none) := by
  simp only [lookup, firstOf_add, Option.bind_some, IppAttributeGroup.get, List.find?_append]
  cases m.firstOf tag with
  | none => by_cases h : a.name = name <;> simp [h]
  | some g =>
    cases hf : g.attributes.find? (fun a => a.name = name) with
    | none => by_cases h : a.name = name <;> simp [hf, h]
    | some b => simp [hf]

@[simp] theorem operation_add_job (m : IppRequestResponse) (a : IppAttribute) (name : String) :
    (m.add .jobAttributes a).operation name = m.operation name :=
  lookup_add_ne (by decide) m a name

theorem operation_add (m : IppRequestResponse) (a : IppAttribute) (name : String) :
    (m.add .operationAttributes a).operation name =
      (m.operation name).or (if a.name = name then some a.value else none) :=
  lookup_add_self m _ a name

/-- What is found in a message is in it. -/
theorem has_of_lookup {m : IppRequestResponse} {tag : DelimiterTag} {name : String} {v : IppValue}
    (h : m.lookup tag name = some v) : m.Has tag ⟨name, v⟩ := by
  obtain ⟨g, hg, h⟩ := Option.bind_eq_some_iff.mp h
  obtain ⟨a, ha, rfl⟩ := Option.map_eq_some_iff.mp h
  have hmem := List.mem_filter.mp (List.mem_of_mem_head? hg)
  have hname : a.name = name := by simpa using List.find?_some ha
  refine ⟨g, hmem.1, by simpa using hmem.2, ?_⟩
  rw [← hname]
  exact List.mem_of_find?_eq_some ha

/-! ## Attributes after `add` -/

/-- `add` adds the one attribute, and drops none. -/
theorem has_add {m : IppRequestResponse} {tag tag' : DelimiterTag} {a b : IppAttribute} :
    (m.add tag a).Has tag' b ↔ m.Has tag' b ∨ (tag' = tag ∧ b = a) := by
  simp only [Has, add]
  induction m.groups with
  | nil => simp [addTo, eq_comm]
  | cons g gs ih =>
    unfold addTo
    split
    · rename_i hg
      subst hg
      simp only [List.mem_cons, exists_eq_or_imp, List.mem_append, List.not_mem_nil, or_false]
      constructor
      · rintro (⟨ht, hb | hb⟩ | h)
        · exact .inl (.inl ⟨ht, hb⟩)
        · exact .inr ⟨ht.symm, hb⟩
        · exact .inl (.inr h)
      · rintro ((⟨ht, hb⟩ | h) | ⟨ht, hb⟩)
        · exact .inl ⟨ht, .inl hb⟩
        · exact .inr h
        · exact .inl ⟨ht.symm, .inr hb⟩
    · simp only [List.mem_cons, exists_eq_or_imp, ih, or_assoc]

/-- The message has attributes with values only: there is no empty array in them, at any depth. -/
def Valued (m : IppRequestResponse) : Prop := ∀ tag a, m.Has tag a → ¬a.value.HasEmptyArray

end IppRequestResponse

end Ipp
