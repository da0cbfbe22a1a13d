import IppClient.Error
import IppClient.Wire.Value

/-!
# Reading an attribute group (`attrs.rs`)

`Attrs` is a read-only view over one group. Every accessor reads the first attribute of the name
and nothing else (`Attrs.Agree`), so a decoder's result depends only on the values of the names it
reads: two groups that agree on those decode alike.
-/

namespace Ipp

/-- `attrs::Attrs`. -/
structure Attrs where
  group : IppAttributeGroup

namespace Attrs

/-- `Attrs::value`. -/
def value (a : Attrs) (name : String) : Option IppValue := (a.group.get name).map (·.value)

/-- `Attrs::as_text`. -/
def asText : IppValue → Option String
  | .textWithoutLanguage v => some v
  | .nameWithoutLanguage v => some v
  | .textWithLanguage _ text => some text
  | .nameWithLanguage _ name => some name
  | .keyword v => some v
  | .uri v => some v
  | .mimeMediaType v => some v
  | _ => none

/-- `Attrs::as_int`. -/
def asInt : IppValue → Option Int32
  | .integer v => some v
  | .enum v => some v
  | _ => none

/-- `Attrs::text`. -/
def text (a : Attrs) (name : String) : Option String := (a.value name).bind asText

/-- `Attrs::int`. -/
def int (a : Attrs) (name : String) : Option Int32 := (a.value name).bind asInt

/-- `Attrs::bool`. -/
def bool (a : Attrs) (name : String) : Option Bool :=
  match a.value name with
  | some (.boolean v) => some v
  | _ => none

/-- `Attrs::texts`: flattens `Array` values; a scalar reads as a one-element list. -/
def texts (a : Attrs) (name : String) : List String :=
  match a.value name with
  | some (.array items) => items.filterMap asText
  | some other => (asText other).toList
  | none => []

/-- `Attrs::ints`. -/
def ints (a : Attrs) (name : String) : List Int32 :=
  match a.value name with
  | some (.array items) => items.filterMap asInt
  | some other => (asInt other).toList
  | none => []

/-- `Attrs::require_text`. -/
def requireText (a : Attrs) (name : String) : Except Error String :=
  match a.text name with
  | some v => .ok v
  | none => .error (.decode name "missing or not a text value")

/-- `Attrs::require_int`. -/
def requireInt (a : Attrs) (name : String) : Except Error Int32 :=
  match a.int name with
  | some v => .ok v
  | none => .error (.decode name "missing or not an integer value")

/-! ## What the accessors depend on -/

/-- The two views have the same value for each of the names. -/
def Agree (names : List String) (a b : Attrs) : Prop := ∀ n ∈ names, a.value n = b.value n

namespace Agree

variable {names : List String} {a b : Attrs} {n : String}

theorem text (h : Agree names a b) (hn : n ∈ names) : a.text n = b.text n := by
  simp only [Attrs.text, h n hn]

theorem int (h : Agree names a b) (hn : n ∈ names) : a.int n = b.int n := by
  simp only [Attrs.int, h n hn]

theorem bool (h : Agree names a b) (hn : n ∈ names) : a.bool n = b.bool n := by
  simp only [Attrs.bool, h n hn]

theorem texts (h : Agree names a b) (hn : n ∈ names) : a.texts n = b.texts n := by
  simp only [Attrs.texts, h n hn]

theorem ints (h : Agree names a b) (hn : n ∈ names) : a.ints n = b.ints n := by
  simp only [Attrs.ints, h n hn]

end Agree

/-! ## What a required attribute is -/

variable {a : Attrs} {name : String}

@[simp] theorem requireText_eq_ok {v : String} :
    a.requireText name = .ok v ↔ a.text name = some v := by
  unfold requireText
  cases a.text name <;> simp

@[simp] theorem requireInt_eq_ok {v : Int32} : a.requireInt name = .ok v ↔ a.int name = some v := by
  unfold requireInt
  cases a.int name <;> simp

end Attrs

/-- The group without the attributes that `names` does not list. -/
def IppAttributeGroup.only (g : IppAttributeGroup) (names : List String) : IppAttributeGroup :=
  { g with attributes := g.attributes.filter fun a => a.name ∈ names }

/-- A group and what is left of it agree on the names that were kept. -/
theorem Attrs.agree_only (g : IppAttributeGroup) (names : List String) :
    Attrs.Agree names ⟨g.only names⟩ ⟨g⟩ := by
  intro n hn
  have h : (g.attributes.filter fun a => a.name ∈ names).find? (fun a => a.name = n) =
      g.attributes.find? fun a => a.name = n := by
    rw [List.find?_filter]
    congr 1
    funext a
    by_cases ha : a.name = n <;> simp [ha, hn]
  simp only [Attrs.value, IppAttributeGroup.get, IppAttributeGroup.only, h]

end Ipp
