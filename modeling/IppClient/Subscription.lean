import IppClient.Model

/-!
# Subscriptions and notifications (`subscription.rs`)

The events a printer can be asked to remember, the subscriptions it grants and the notifications
it hands over, with their decoders. `decodeAll` skips a group that does not decode.
-/

namespace Ipp

open Base

/-- `subscription::NotifyEvent`. -/
inductive NotifyEvent where
  | printerStateChanged
  | printerStopped
  | jobCreated
  | jobStateChanged
  | jobCompleted
  | jobStopped
  | all
  | other (keyword : String)
  deriving DecidableEq

/-- `NotifyEvent::keyword`. -/
def NotifyEvent.keyword : NotifyEvent → String
  | .printerStateChanged => "printer-state-changed"
  | .printerStopped => "printer-stopped"
  | .jobCreated => "job-created"
  | .jobStateChanged => "job-state-changed"
  | .jobCompleted => "job-completed"
  | .jobStopped => "job-stopped"
  | .all => "all"
  | .other keyword => keyword

/-- `NotifyEvent::from_keyword`. -/
def NotifyEvent.fromKeyword (keyword : String) : NotifyEvent :=
  match keyword with
  | "printer-state-changed" => .printerStateChanged
  | "printer-stopped" => .printerStopped
  | "job-created" => .jobCreated
  | "job-state-changed" => .jobStateChanged
  | "job-completed" => .jobCompleted
  | "job-stopped" => .jobStopped
  | "all" => .all
  | unnamed => .other unnamed

/-- `subscription::Subscription`. -/
structure Subscription where
  id : Int32
  events : List NotifyEvent
  lease : Option Duration
  subscriber : Option String
  deriving DecidableEq

/-- `Subscription::decode`. A lease of zero (or less) means no expiry. -/
def Subscription.decode (group : IppAttributeGroup) : Except Error Subscription := do
  let a : Attrs := ⟨group⟩
  let id ← a.requireInt "notify-subscription-id"
  return {
    id
    events := (a.texts "notify-events").map NotifyEvent.fromKeyword
    lease := ((a.int "notify-lease-duration").filter fun d => 0 < d).map fun d =>
      Duration.fromSecs (asU64 d)
    subscriber := a.text "notify-subscriber-user-name" }

/-- `subscription::Notification`. -/
structure Notification where
  subscriptionId : Int32
  event : NotifyEvent
  jobId : Option JobId
  text : Option String
  sequence : Option Int32
  deriving DecidableEq

/-- `Notification::decode`. -/
def Notification.decode (group : IppAttributeGroup) : Except Error Notification := do
  let a : Attrs := ⟨group⟩
  let subscriptionId ← a.requireInt "notify-subscription-id"
  return {
    subscriptionId
    event := ((a.text "notify-subscribed-event").map NotifyEvent.fromKeyword).getD (.other "")
    jobId := a.int "notify-job-id"
    text := a.text "notify-text"
    sequence := a.int "notify-sequence-number" }

/-- `subscription::Notifications`. -/
structure Notifications where
  events : List Notification
  pollAfter : Option Duration
  deriving DecidableEq

/-- A decode failure is a skip (`Ok(v) => Some(v)`, `Err(_) => None`). -/
def decoded {α : Type} (decode : IppAttributeGroup → Except Error α) (group : IppAttributeGroup) :
    Option α :=
  match decode group with
  | .ok v => some v
  | .error _ => none

/-- `subscription::decode_all`. -/
def decodeAll {α : Type} (resp : IppRequestResponse) (tag : DelimiterTag)
    (decode : IppAttributeGroup → Except Error α) : List α :=
  (resp.groupsOf tag).filterMap (decoded decode)

/-- `subscription::missing`. -/
def missing (what : String) : Error := .decode what "not present in the response"

theorem decoded_eq_some {α : Type} {decode : IppAttributeGroup → Except Error α}
    {group : IppAttributeGroup} {v : α} : decoded decode group = some v ↔ decode group = .ok v := by
  unfold decoded
  cases decode group <;> simp

end Ipp
