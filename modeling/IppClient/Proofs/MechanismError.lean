import IppClient.CupsPk.Client

/-!
# The error convention of the mechanism

Every method of the mechanism returns an error string, empty on success, and a D-Bus call can
fail besides. `Convention` says what a result has to be for an answer; `PkOperation` is an
operation of `CupsPk` with its arguments, `PkOperation.answer` what the mechanism answers it.

* `Convention.failure`, `Convention.refusal`, `Convention.success`: the three answers there are.
* `mechanism_convention`: **so does every operation, and a failed `devices_get` returns no
  device.**
-/

namespace Cups

open Base

/-- An operation of `CupsPk` that calls a method of the mechanism, with its arguments. -/
inductive PkOperation where
  | printerSetDefault (name : String)
  | printerSetEnabled (name : String) (enabled : Bool)
  | printerSetAcceptJobs (name : String) (accept : Bool) (reason : String)
  | printerSetInfo (name info : String)
  | printerSetLocation (name location : String)
  | printerAdd (spec : PrinterSpec)
  | printerDelete (name : String)
  | printerRename (oldName newName : String)
  | printerAddOptionDefault (name option : String) (values : List String)
  | jobCancelPurge (job : Int32) (purge : Bool)
  | devicesGet (timeout : Duration) (limit : UInt32)

namespace PkOperation

/-- The operation's result, with the devices it returns: `devices_get` alone returns any. -/
def run (pk : CupsPk) : PkOperation → Except CupsPkError (List Device)
  | printerSetDefault name => (pk.printerSetDefault name).map fun _ => []
  | printerSetEnabled name enabled => (pk.printerSetEnabled name enabled).map fun _ => []
  | printerSetAcceptJobs name accept reason =>
    (pk.printerSetAcceptJobs name accept reason).map fun _ => []
  | printerSetInfo name info => (pk.printerSetInfo name info).map fun _ => []
  | printerSetLocation name location => (pk.printerSetLocation name location).map fun _ => []
  | printerAdd spec => (pk.printerAdd spec).map fun _ => []
  | printerDelete name => (pk.printerDelete name).map fun _ => []
  | printerRename oldName newName => (pk.printerRename oldName newName).map fun _ => []
  | printerAddOptionDefault name option values =>
    (pk.printerAddOptionDefault name option values).map fun _ => []
  | jobCancelPurge job purge => (pk.jobCancelPurge job purge).map fun _ => []
  | devicesGet timeout limit => pk.devicesGet timeout limit

/-- The mechanism's answer to the operation: the error string of the method of that name, with
the operation's arguments, and the dictionary that came with it, empty but for `devices_get`. -/
def answer (p : MechanismProxy) : PkOperation → Except ZbusError (String × Dictionary)
  | printerSetDefault name => (p.printerSetDefault name).map (·, [])
  | printerSetEnabled name enabled => (p.printerSetEnabled name enabled).map (·, [])
  | printerSetAcceptJobs name accept reason => (p.printerSetAcceptJobs name accept reason).map (·, [])
  | printerSetInfo name info => (p.printerSetInfo name info).map (·, [])
  | printerSetLocation name location => (p.printerSetLocation name location).map (·, [])
  | printerAdd spec =>
    (p.printerAdd spec.name spec.uri spec.ppd spec.info spec.location).map (·, [])
  | printerDelete name => (p.printerDelete name).map (·, [])
  | printerRename oldName newName => (p.printerRename oldName newName).map (·, [])
  | printerAddOptionDefault name option values =>
    (p.printerAddOptionDefault name option values).map (·, [])
  | jobCancelPurge job purge => (p.jobCancelPurge job purge).map (·, [])
  | devicesGet timeout limit => p.devicesGet (timeoutSeconds timeout) limit.toInt32 [] []

end PkOperation

/-- A result that keeps the convention, for an answer: success exactly with the empty string, the
mechanism's own words otherwise, and a failed call told apart from both. -/
structure Convention (answer : Except ZbusError (String × Dictionary))
    (result : Except CupsPkError (List Device)) : Prop where
  ok_iff : (∃ devices, result = .ok devices) ↔ ∃ raw, answer = .ok ("", raw)
  mechanism : ∀ error raw, answer = .ok (error, raw) → error ≠ "" →
    result = .error (.mechanism error)
  failed : ∀ e, answer = .error e →
    result = .error .authorizationFailed ∨ result = .error (.transport e.text)
  devices : ∀ error raw, answer = .ok (error, raw) → error ≠ "" → ∀ devices, result ≠ .ok devices

/-! ## The three answers there are -/

namespace Convention

/-- The call failed. -/
theorem failure (e : ZbusError) : Convention (.error e) (.error (CupsPk.callFailed e)) := by
  have hcases : CupsPk.callFailed e = .authorizationFailed ∨
      CupsPk.callFailed e = .transport e.text := by
    unfold CupsPk.callFailed
    split
    · exact .inl rfl
    · exact .inr rfl
  refine ⟨iff_of_false ?_ ?_, ?_, ?_, ?_⟩
  · rintro ⟨devices, h⟩
    cases h
  · rintro ⟨raw, h⟩
    cases h
  · intro error raw h
    cases h
  · intro e' h
    cases h
    rcases hcases with h | h
    · exact .inl (congrArg Except.error h)
    · exact .inr (congrArg Except.error h)
  · intro error raw h
    cases h

/-- The mechanism reported a failure. -/
theorem refusal {error : String} (h : error ≠ "") (raw : Dictionary) :
    Convention (.ok (error, raw)) (.error (.mechanism error)) := by
  refine ⟨iff_of_false ?_ ?_, ?_, ?_, ?_⟩
  · rintro ⟨devices, hd⟩
    cases hd
  · rintro ⟨raw', hr⟩
    cases hr
    exact h rfl
  · intro error' raw' ha _
    cases ha
    rfl
  · intro e ha
    cases ha
  · intro error' raw' _ _ devices hd
    cases hd

/-- The mechanism reported success. -/
theorem success (raw : Dictionary) (devices : List Device) :
    Convention (.ok ("", raw)) (.ok devices) := by
  refine ⟨iff_of_true ⟨devices, rfl⟩ ⟨raw, rfl⟩, ?_, ?_, ?_⟩
  · intro error raw' ha hne
    cases ha
    exact absurd rfl hne
  · intro e ha
    cases ha
  · intro error raw' ha hne
    cases ha
    exact absurd rfl hne

end Convention

/-! ## The operations -/

theorem translate_error {error : String} (h : error ≠ "") :
    translate error = .error (.mechanism error) := if_neg h

/-- The shared body keeps the convention, for a method without a dictionary. -/
theorem perform_convention (call : Except ZbusError String) :
    Convention (call.map (·, [])) ((CupsPk.perform call).map fun _ => []) := by
  cases call with
  | error e => exact Convention.failure e
  | ok error =>
    by_cases h : error = ""
    · subst h
      exact Convention.success [] []
    · have hrun : CupsPk.perform (.ok error) = .error (.mechanism error) := translate_error h
      rw [hrun]
      exact Convention.refusal h []

theorem devicesGet_convention (pk : CupsPk) (timeout : Duration) (limit : UInt32) :
    Convention (pk.proxy.devicesGet (timeoutSeconds timeout) limit.toInt32 [] [])
      (pk.devicesGet timeout limit) := by
  unfold CupsPk.devicesGet
  cases pk.proxy.devicesGet (timeoutSeconds timeout) limit.toInt32 [] [] with
  | error e => exact Convention.failure e
  | ok reply =>
    obtain ⟨error, raw⟩ := reply
    by_cases h : error = ""
    · subst h
      exact Convention.success raw (decodeDevices raw)
    · show Convention _ (translate error >>= fun _ => pure (decodeDevices raw))
      rw [translate_error h]
      exact Convention.refusal h raw

/-- **The error convention.** Every operation that calls the mechanism succeeds exactly when the
call did and returned the empty string; it hands any other string on as it is, and a failed call
as a refused authorization or a transport failure; and it returns no device with an error. -/
theorem mechanism_convention (pk : CupsPk) (op : PkOperation) :
    Convention (op.answer pk.proxy) (op.run pk) := by
  cases op with
  | devicesGet timeout limit => exact devicesGet_convention pk timeout limit
  | _ => exact perform_convention _

end Cups
