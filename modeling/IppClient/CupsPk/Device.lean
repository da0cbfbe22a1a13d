import IppClient.Base.Text

/-!
# Devices (`device.rs` of `cups-pk-client`)

`DevicesGet` replies with a flat dictionary whose keys end in an index, as in `device-uri:0`;
`decodeDevices` groups its entries into devices. The dictionary is a hash map, so it is a list of
entries here, in whatever order it is iterated.
-/

namespace Cups

open Base

/-- `HashMap<String, String>`, in the order it is iterated. -/
abbrev Dictionary := List (String × String)

/-- `device::Device`. -/
structure Device where
  uri : String
  deviceClass : String
  info : String
  makeAndModel : String
  deviceId : String
  location : String
  deriving DecidableEq

/-- `Device::default`. -/
def Device.empty : Device := ⟨"", "", "", "", "", ""⟩

/-- `Device::is_network`. -/
def Device.isNetwork (d : Device) : Bool := d.deviceClass == "network"

/-- The assignment of a dictionary value to the field its key names; an unknown field is logged
and left. -/
def Device.assign (d : Device) (field value : String) : Device :=
  if field = "device-uri" then { d with uri := value }
  else if field = "device-class" then { d with deviceClass := value }
  else if field = "device-info" then { d with info := value }
  else if field = "device-make-and-model" then { d with makeAndModel := value }
  else if field = "device-id" then { d with deviceId := value }
  else if field = "device-location" then { d with location := value }
  else d

/-- `BTreeMap::entry(index).or_default()`, and `f` on what it gives: the map is a list sorted by
index. -/
def updateEntry (f : Device → Device) (index : Nat) : List (Nat × Device) → List (Nat × Device)
  | [] => [(index, f .empty)]
  | (i, d) :: rest =>
    if index < i then (index, f .empty) :: (i, d) :: rest
    else if index = i then (i, f d) :: rest
    else (i, d) :: updateEntry f index rest

/-- One round of the loop of `decode_devices`. -/
def decodeEntry (byIndex : List (Nat × Device)) (entry : String × String) : List (Nat × Device) :=
  match Text.rsplitOnce entry.1 ':' with
  | none => byIndex
  | some (field, index) =>
    match Text.parseU32 index with
    | none => byIndex
    | some index => updateEntry (·.assign field entry.2) index byIndex

/-- `device::decode_devices`. -/
def decodeDevices (raw : Dictionary) : List Device :=
  ((raw.foldl decodeEntry []).map (·.2)).filter fun d => d.uri ≠ ""

/-- A device that is returned can be addressed. -/
theorem uri_ne_of_mem_decodeDevices {raw : Dictionary} {d : Device} (h : d ∈ decodeDevices raw) :
    d.uri ≠ "" := by
  have hd := (List.mem_filter.mp h).2
  simpa using hd

example : (decodeDevices [("device-uri:2", "c"), ("device-info:1", "Ghost"),
    ("device-uri:0", "a"), ("device-uri:x", "b")]).map (·.uri) = ["a", "c"] := by decide

end Cups
