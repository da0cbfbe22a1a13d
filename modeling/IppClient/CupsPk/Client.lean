import IppClient.Base.Duration
import IppClient.CupsPk.Device

/-!
# The `cups-pk-helper` client (`client.rs`, `error.rs`, `proxy.rs` of `cups-pk-client`)

The mechanism answers every method with an error string, empty on success; a D-Bus call can fail
besides. `translate` reads the string, `CupsPk.callFailed` classifies the failure, and every
operation of `CupsPk` is one mechanism call between the two (`CupsPk.perform`), except that
`devicesGet` has a dictionary to decode as well.
-/

namespace Cups

open Base

/-- `zbus::Error`, by the text it displays as. -/
structure ZbusError where
  text : String
  deriving DecidableEq

/-- `error::CupsPkError`. -/
inductive CupsPkError where
  | authorizationFailed
  | mechanism (message : String)
  | transport (message : String)
  deriving DecidableEq

/-- `error::translate`. -/
def translate (error : String) : Except CupsPkError Unit :=
  if error = "" then .ok () else .error (.mechanism error)

/-- `proxy::Mechanism`: how the mechanism answers each of its methods over D-Bus. -/
structure MechanismProxy where
  printerAdd : (name uri ppd info location : String) → Except ZbusError String
  printerDelete : (name : String) → Except ZbusError String
  printerRename : (oldName newName : String) → Except ZbusError String
  printerSetDefault : (name : String) → Except ZbusError String
  printerSetEnabled : (name : String) → (enabled : Bool) → Except ZbusError String
  printerSetAcceptJobs : (name : String) → (enabled : Bool) → (reason : String) →
    Except ZbusError String
  printerSetInfo : (name info : String) → Except ZbusError String
  printerSetLocation : (name location : String) → Except ZbusError String
  printerAddOptionDefault : (name option : String) → (values : List String) →
    Except ZbusError String
  devicesGet : (timeout limit : Int32) → (includeSchemes excludeSchemes : List String) →
    Except ZbusError (String × Dictionary)
  jobCancelPurge : (jobid : Int32) → (purge : Bool) → Except ZbusError String

/-- `client::CupsPk`. -/
structure CupsPk where
  proxy : MechanismProxy

/-- `client::PrinterSpec`. -/
structure PrinterSpec where
  name : String
  uri : String
  ppd : String
  info : String
  location : String
  deriving DecidableEq

/-- `PrinterSpec::driverless`. -/
def PrinterSpec.driverless (name uri : String) : PrinterSpec := ⟨name, uri, "everywhere", "", ""⟩

/-- `timeout.as_secs() as i32`. -/
def timeoutSeconds (timeout : Duration) : Int32 := timeout.secs.toInt64.toInt32

namespace CupsPk

/-- `CupsPk::call_failed`. -/
def callFailed (e : ZbusError) : CupsPkError :=
  if Text.contains e.text "NotPrivileged" || Text.contains e.text "AccessDenied" ||
      Text.contains e.text "not authorized" then .authorizationFailed
  else .transport e.text

/-- What every operation but `devices_get` does with the answer of its method. -/
def perform (call : Except ZbusError String) : Except CupsPkError Unit := do
  let error ← call.mapError callFailed
  translate error

variable (pk : CupsPk)

/-- `CupsPk::printer_set_default`. -/
def printerSetDefault (name : String) : Except CupsPkError Unit :=
  perform (pk.proxy.printerSetDefault name)

/-- `CupsPk::devices_get`. -/
def devicesGet (timeout : Duration) (limit : UInt32) : Except CupsPkError (List Device) := do
  let (error, raw) ←
    (pk.proxy.devicesGet (timeoutSeconds timeout) limit.toInt32 [] []).mapError callFailed
  translate error
  return decodeDevices raw

/-- `CupsPk::printer_set_enabled`. -/
def printerSetEnabled (name : String) (enabled : Bool) : Except CupsPkError Unit :=
  perform (pk.proxy.printerSetEnabled name enabled)

/-- `CupsPk::printer_set_accept_jobs`. -/
def printerSetAcceptJobs (name : String) (accept : Bool) (reason : String) :
    Except CupsPkError Unit :=
  perform (pk.proxy.printerSetAcceptJobs name accept reason)

/-- `CupsPk::printer_set_info`. -/
def printerSetInfo (name info : String) : Except CupsPkError Unit :=
  perform (pk.proxy.printerSetInfo name info)

/-- `CupsPk::printer_set_location`. -/
def printerSetLocation (name location : String) : Except CupsPkError Unit :=
  perform (pk.proxy.printerSetLocation name location)

/-- `CupsPk::printer_add`. -/
def printerAdd (spec : PrinterSpec) : Except CupsPkError Unit :=
  perform (pk.proxy.printerAdd spec.name spec.uri spec.ppd spec.info spec.location)

/-- `CupsPk::printer_delete`. -/
def printerDelete (name : String) : Except CupsPkError Unit :=
  perform (pk.proxy.printerDelete name)

/-- `CupsPk::printer_rename`. -/
def printerRename (oldName newName : String) : Except CupsPkError Unit :=
  perform (pk.proxy.printerRename oldName newName)

/-- `CupsPk::printer_add_option_default`. -/
def printerAddOptionDefault (name option : String) (values : List String) :
    Except CupsPkError Unit :=
  perform (pk.proxy.printerAddOptionDefault name option values)

/-- `CupsPk::job_cancel_purge`. -/
def jobCancelPurge (job : Int32) (purge : Bool) : Except CupsPkError Unit :=
  perform (pk.proxy.jobCancelPurge job purge)

end CupsPk

end Cups
