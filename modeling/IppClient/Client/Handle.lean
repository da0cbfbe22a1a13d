import IppClient.Client.Jobs

/-!
# A printer handle and a job handle (`client.rs`)

`IppPrinter` is a client and the URI of one printer; `IppJob` is a job that documents are added
to. Every operation sends through the handle's client.
-/

namespace Ipp

open Base

/-- `client::IppPrinter`. -/
structure IppPrinter where
  client : IppClient
  uri : Uri

/-- `client::IppJob`. -/
structure IppJob where
  printer : IppPrinter
  id : JobId
  closed : Bool

/-- The attributes a caller hands to `set_attributes` and `set_job_attributes`. -/
abbrev NamedValues := List (String × IppValue)

variable [IppCrate]

namespace IppClient

variable (c : IppClient)

/-- `IppClient::at`. -/
def atUri (uri : String) : Except Error IppPrinter := do
  let parsed ← parsePrinterUri uri
  return { client := c, uri := parsed }

/-- `IppClient::queue`. -/
def queue (name : String) : Except Error IppPrinter := do
  return { client := c, uri := ← c.printerUri name }

end IppClient

/-- `IppPrinter::add_int`. -/
def addInt (request : IppRequestResponse) (name : String) (value : Int32) :
    Except Error IppRequestResponse :=
  addAttribute request .operationAttributes name (.integer value)

/-- The loop of `set_attributes` and `set_job_attributes`. -/
def addAll (request : IppRequestResponse) (tag : DelimiterTag) (attributes : NamedValues) :
    Except Error IppRequestResponse :=
  attributes.foldlM (fun request (name, value) => addAttribute request tag name value) request

/-- The `notify-lease-duration` of `subscribe` and `renew_subscription`: `as_secs() as i32`. -/
def addLease (request : IppRequestResponse) (lease : Option Duration) :
    Except Error IppRequestResponse :=
  match lease with
  | some lease =>
    addAttribute request .subscriptionAttributes "notify-lease-duration"
      (.integer lease.secs.toInt64.toInt32)
  | none => return request

/-- The first subscription of a reply. -/
def firstSubscription (resp : IppRequestResponse) : Except Error Subscription :=
  match (decodeAll resp .subscriptionAttributes Subscription.decode).head? with
  | some subscription => .ok subscription
  | none => .error (missing "notify-subscription-id")

/-- `IppPrinter::notifications`, the reply: its events and the interval, if positive. -/
def decodeNotifications (resp : IppRequestResponse) : Notifications where
  events := decodeAll resp .eventNotificationAttributes Notification.decode
  pollAfter :=
    (((resp.groupsOf .operationAttributes).head?.bind fun g =>
      Attrs.int ⟨g⟩ "notify-get-interval").filter fun i => 0 < i).map fun i =>
        Duration.fromSecs (asU64 i)

namespace IppPrinter

variable (p : IppPrinter)

/-! ## The shared request builders -/

/-- `IppPrinter::raw_request`. -/
def rawRequest (opcode : Int16) : Except Error IppRequestResponse := do
  let request ← rawOperation opcode p.uri
  addUser request p.client.user

/-- `raw_request`, and one integer attribute. -/
def rawIntRequest (opcode : Int16) (name : String) (value : Int32) :
    Except Error IppRequestResponse := do
  let request ← p.rawRequest opcode
  addInt request name value

/-- The request of `printer_action`. -/
def printerActionRequest (operation : Operation) : Except Error IppRequestResponse := do
  let request ← transport (IppCrate.newRequest operation (some p.uri))
  addUser request p.client.user

/-- The request of `validate_document`. -/
def validateDocumentRequest (job : JobId) (documentFormat : String) :
    Except Error IppRequestResponse := do
  let request ← p.rawIntRequest validateDocument "job-id" job
  let format ← bounded .mimeMediaType .mimeMediaType documentFormat "document-format"
    "value too long"
  addAttribute request .operationAttributes "document-format" format

/-- The request of `set_job_attributes`. -/
def setJobAttributesRequest (id : JobId) (attributes : NamedValues) :
    Except Error IppRequestResponse := do
  let request ← p.rawIntRequest setJobAttributes "job-id" id
  addAll request .jobAttributes attributes

/-- The request of `set_attributes`. -/
def setAttributesRequest (attributes : NamedValues) : Except Error IppRequestResponse := do
  let request ← p.rawRequest setPrinterAttributes
  addAll request .printerAttributes attributes

/-- The request of `subscribe`. -/
def subscribeRequest (events : List NotifyEvent) (lease : Option Duration) :
    Except Error IppRequestResponse := do
  let request ← p.rawRequest createPrinterSubscriptions
  let keywords ← events.mapM fun e =>
    bounded .keyword .keyword e.keyword "notify-events" "keyword too long"
  let request ← addAttribute request .subscriptionAttributes "notify-events" (.array keywords)
  let method ← bounded .keyword .keyword "ippget" "notify-pull-method" "keyword too long"
  let request ← addAttribute request .subscriptionAttributes "notify-pull-method" method
  addLease request lease

/-- The request of `notifications`. -/
def notificationsRequest (subscriptionIds : List Int32) : Except Error IppRequestResponse := do
  let request ← p.rawRequest getNotifications
  let request ← addAttribute request .operationAttributes "notify-subscription-ids"
    (.array (subscriptionIds.map .integer))
  addAttribute request .operationAttributes "notify-wait" (.boolean false)

/-- The request of `renew_subscription`. -/
def renewSubscriptionRequest (id : Int32) (lease : Option Duration) :
    Except Error IppRequestResponse := do
  let request ← p.rawIntRequest renewSubscription "notify-subscription-id" id
  addLease request lease

/-- Builds a request, sends it and drops the reply. -/
def perform (request : Except Error IppRequestResponse) (label : String) : Net Unit := do
  let request ← Act.ofExcept request
  let _ ← p.client.send request label

/-- Builds a request, sends it and decodes the reply. -/
def ask {α : Type} (request : Except Error IppRequestResponse) (label : String)
    (decode : IppRequestResponse → Except Error α) : Net α := do
  let request ← Act.ofExcept request
  let resp ← p.client.send request label
  Act.ofExcept (decode resp)

/-- `IppPrinter::raw_action`. -/
def rawAction (opcode : Int16) (label : String) : Net Unit := p.perform (p.rawRequest opcode) label

/-- `IppPrinter::printer_action`. -/
def printerAction (operation : Operation) (label : String) : Net Unit :=
  p.perform (p.printerActionRequest operation) label

/-- `IppPrinter::job_action`. -/
def jobAction (operation : Operation) (label : String) (id : JobId) : Net Unit :=
  p.perform (p.client.jobActionRequest operation p.uri id) label

/-! ## The operations -/

/-- `IppPrinter::attributes`. -/
def attributes : Net Printer := p.client.printerAttributesAt p.uri

/-- `IppPrinter::print_stream`. -/
def printStream (reader : Payload) (documentFormat : Option String) (jobName : String) :
    Net JobId :=
  p.client.printStreamAt p.uri reader documentFormat jobName

/-- `IppPrinter::print_file`. -/
def printFile (path : Path) : Net JobId := do
  let file ← IppClient.openFile path
  p.printStream file (some "application/octet-stream") path.jobName

/-- `IppPrinter::cancel_job`. -/
def cancelJob (id : JobId) : Net Unit := p.jobAction .cancelJob "Cancel-Job" id

/-- `IppPrinter::hold_job`. -/
def holdJob (id : JobId) : Net Unit := p.jobAction .holdJob "Hold-Job" id

/-- `IppPrinter::release_job`. -/
def releaseJob (id : JobId) : Net Unit := p.jobAction .releaseJob "Release-Job" id

/-- `IppPrinter::restart_job`. -/
def restartJob (id : JobId) : Net Unit := p.jobAction .restartJob "Restart-Job" id

/-- `IppPrinter::purge_jobs`. -/
def purgeJobs : Net Unit :=
  p.perform (transport (IppCrate.purgeJobs p.uri (some p.client.user))) "Purge-Jobs"

/-- `IppPrinter::validate`. -/
def validate (documentFormat : String) : Net Unit := p.client.validateJobAt p.uri documentFormat

/-- `IppPrinter::identify`. -/
def identify (action : IdentifyAction) : Net Unit := p.client.identifyPrinterAt p.uri action

/-- `IppPrinter::pause`. -/
def pause : Net Unit := p.printerAction .pausePrinter "Pause-Printer"

/-- `IppPrinter::resume`. -/
def resume : Net Unit := p.printerAction .resumePrinter "Resume-Printer"

/-- `IppPrinter::create_job`. -/
def createJob (jobName : String) : Net IppJob :=
  p.ask (transport (IppCrate.createJob p.uri (some jobName))) "Create-Job" fun resp =>
    return { printer := p, id := ← decodeJobId resp, closed := false }

/-- `IppPrinter::documents`. -/
def documents (job : JobId) : Net (List Document) :=
  p.ask (p.rawIntRequest getDocuments "job-id" job) "Get-Documents" fun resp =>
    return decodeAll resp .documentAttributes Document.decode

/-- `IppPrinter::validate_document`. -/
def validateDocument (job : JobId) (documentFormat : String) : Net Unit :=
  p.perform (p.validateDocumentRequest job documentFormat) "Validate-Document"

/-- `IppPrinter::disable`. -/
def disable : Net Unit := p.rawAction disablePrinter "Disable-Printer"

/-- `IppPrinter::enable`. -/
def enable : Net Unit := p.rawAction enablePrinter "Enable-Printer"

/-- `IppPrinter::hold_new_jobs`. -/
def holdNewJobs : Net Unit := p.rawAction Ipp.holdNewJobs "Hold-New-Jobs"

/-- `IppPrinter::release_held_new_jobs`. -/
def releaseHeldNewJobs : Net Unit :=
  p.rawAction Ipp.releaseHeldNewJobs "Release-Held-New-Jobs"

/-- `IppPrinter::cancel_my_jobs`. -/
def cancelMyJobs : Net Unit := p.rawAction Ipp.cancelMyJobs "Cancel-My-Jobs"

/-- `IppPrinter::cancel_all_jobs`. -/
def cancelAllJobs : Net Unit := p.rawAction cancelJobs "Cancel-Jobs"

/-- `IppPrinter::resubmit_job`. -/
def resubmitJob (id : JobId) : Net JobId :=
  p.ask (p.rawIntRequest Ipp.resubmitJob "job-id" id) "Resubmit-Job" decodeJobId

/-- `IppPrinter::set_job_attributes`. -/
def setJobAttributes (id : JobId) (attributes : NamedValues) : Net Unit :=
  p.perform (p.setJobAttributesRequest id attributes) "Set-Job-Attributes"

/-- `IppPrinter::set_attributes`. -/
def setAttributes (attributes : NamedValues) : Net Unit :=
  p.perform (p.setAttributesRequest attributes) "Set-Printer-Attributes"

/-- `IppPrinter::subscribe`. -/
def subscribe (events : List NotifyEvent) (lease : Option Duration) : Net Subscription :=
  p.ask (p.subscribeRequest events lease) "Create-Printer-Subscriptions" firstSubscription

/-- `IppPrinter::subscriptions`. -/
def subscriptions : Net (List Subscription) :=
  p.ask (p.rawRequest getSubscriptions) "Get-Subscriptions" fun resp =>
    return decodeAll resp .subscriptionAttributes Subscription.decode

/-- `IppPrinter::subscription`. -/
def subscription (id : Int32) : Net Subscription :=
  p.ask (p.rawIntRequest getSubscriptionAttributes "notify-subscription-id" id)
    "Get-Subscription-Attributes" firstSubscription

/-- `IppPrinter::notifications`. -/
def notifications (subscriptionIds : List Int32) : Net Notifications :=
  p.ask (p.notificationsRequest subscriptionIds) "Get-Notifications" fun resp =>
    return decodeNotifications resp

/-- `IppPrinter::renew_subscription`. -/
def renewSubscription (id : Int32) (lease : Option Duration) : Net Unit :=
  p.perform (p.renewSubscriptionRequest id lease) "Renew-Subscription"

/-- `IppPrinter::cancel_subscription`. -/
def cancelSubscription (id : Int32) : Net Unit :=
  p.perform (p.rawIntRequest Ipp.cancelSubscription "notify-subscription-id" id)
    "Cancel-Subscription"

end IppPrinter

namespace IppJob

variable (j : IppJob)

/-- `IppJob::add_document`: the job afterwards. -/
def addDocument (reader : Payload) (documentFormat : Option String) (last : Bool) : Net IppJob := do
  let request ← Act.ofExcept <| transport <|
    IppCrate.sendDocument j.printer.uri j.id reader (some j.printer.client.user) documentFormat last
  let _ ← j.printer.client.send request "Send-Document"
  return { j with closed := j.closed || last }

/-- The `Close-Job` request of `close`: a placeholder with its operation code overwritten. -/
def closeRequest : Except Error IppRequestResponse := do
  let request ← j.printer.client.jobActionRequest .cancelJob j.printer.uri j.id
  return { request with operationOrStatus := closeJob }

/-- `IppJob::close`. -/
def close : Net JobId :=
  if j.closed then return j.id
  else do
    let request ← Act.ofExcept j.closeRequest
    let _ ← j.printer.client.send request "Close-Job"
    return j.id

/-- `IppJob::cancel`. -/
def cancel : Net Unit := j.printer.cancelJob j.id

end IppJob

end Ipp
