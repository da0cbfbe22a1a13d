import IppClient.Client.Daemon

/-!
# Jobs: submitting them and acting on them (`client.rs`)

The methods of `IppClient` that name a queue of the daemon, and the ones they share with a printer
handle, which name a printer by URI (the `_at` methods of the source).

`printStreamAt` is the streaming submission: `Create-Job`, then `Send-Document`, then, if the
document was refused, `Cancel-Job`.

* `jobActionRequest_ok`, `moveJobRequest_ok`: the printer, the user and the job a request names.
-/

namespace Ipp

open Base

/-- `client::IdentifyAction`. -/
inductive IdentifyAction where
  | flash
  | sound
  | display (message : String)
  deriving DecidableEq

/-- `IdentifyAction::keyword`. -/
def IdentifyAction.keyword : IdentifyAction → String
  | .flash => "flash"
  | .sound => "sound"
  | .display _ => "display"

/-! ## Operation codes the `ipp` crate has no variant for -/

def createPrinterSubscriptions : Int16 := 0x0016
def getSubscriptionAttributes : Int16 := 0x0018
def getSubscriptions : Int16 := 0x0019
def renewSubscription : Int16 := 0x001A
def cancelSubscription : Int16 := 0x001B
def getNotifications : Int16 := 0x001C
def setPrinterAttributes : Int16 := 0x0013
def setJobAttributes : Int16 := 0x0014
def enablePrinter : Int16 := 0x0022
def disablePrinter : Int16 := 0x0023
def holdNewJobs : Int16 := 0x0025
def releaseHeldNewJobs : Int16 := 0x0026
def cancelJobs : Int16 := 0x0038
def cancelMyJobs : Int16 := 0x0039
def resubmitJob : Int16 := 0x003A
def getDocuments : Int16 := 0x0035
def validateDocument : Int16 := 0x003D
def closeJob : Int16 := 0x003B
def identifyPrinter : Int16 := 0x003C

/-- `IppClient::decode_job_id`. -/
def decodeJobId (resp : IppRequestResponse) : Except Error JobId :=
  match (resp.groupsOf .jobAttributes).head?.bind fun g => Attrs.int ⟨g⟩ "job-id" with
  | some id => .ok id
  | none => .error (.decode "job-id" "absent from the Print-Job reply")

/-- The printer a `Get-Printer-Attributes` reply describes. -/
def decodePrinter (resp : IppRequestResponse) : Except Error Printer :=
  match (resp.groupsOf .printerAttributes).head? with
  | some group => Printer.decode group
  | none => .error (.decode "printer-attributes" "no printer group in response")

/-- The job name `print_file` gives: the file's name, or `document` for a path without one. -/
def Path.jobName (path : Path) : String := path.fileName.getD "document"

variable [IppCrate]

/-- `IppRequestResponse::new` for a printer, with the operation code overwritten. -/
def rawOperation (opcode : Int16) (uri : Uri) : Except Error IppRequestResponse := do
  let request ← transport (IppCrate.newRequest .getPrinterAttributes (some uri))
  return { request with operationOrStatus := opcode }

namespace IppClient

variable (c : IppClient)

/-! ## Requests -/

/-- `IppClient::job_action_request`. -/
def jobActionRequest (operation : Operation) (uri : Uri) (id : JobId) :
    Except Error IppRequestResponse := do
  let request ← transport (IppCrate.newRequest operation (some uri))
  let user ← bounded .name .nameWithoutLanguage c.user "requesting-user-name" "name too long"
  let request ← addAttribute request .operationAttributes "job-id" (.integer id)
  addAttribute request .operationAttributes "requesting-user-name" user

/-- `IppClient::move_job_request`. The destination goes in the job group. -/
def moveJobRequest (printer : String) (id : JobId) (destination : String) :
    Except Error IppRequestResponse := do
  let request ← c.jobActionRequest .cupsMoveJob (← c.printerUri printer) id
  let target ← c.printerUri destination
  let target ← bounded .uri .uri (IppCrate.uriText target) "job-printer-uri" "uri too long"
  addAttribute request .jobAttributes "job-printer-uri" target

/-- `IppClient::identify_printer_request`. -/
def identifyPrinterRequest (uri : Uri) (action : IdentifyAction) :
    Except Error IppRequestResponse := do
  let request ← rawOperation identifyPrinter uri
  let request ← addUser request c.user
  let keyword ← bounded .keyword .keyword action.keyword "identify-actions" "keyword too long"
  let request ← addAttribute request .operationAttributes "identify-actions" keyword
  match action with
  | .display message => do
    let message ← bounded .text .textWithoutLanguage message "message" "message too long"
    addAttribute request .operationAttributes "message" message
  | _ => return request

/-- `IppClient::validate_job_request`. -/
def validateJobRequest (uri : Uri) (documentFormat : String) :
    Except Error IppRequestResponse := do
  let request ← transport (IppCrate.newRequest .validateJob (some uri))
  let user ← bounded .name .nameWithoutLanguage c.user "requesting-user-name" "name too long"
  let format ← bounded .mimeMediaType .mimeMediaType documentFormat "document-format"
    "value too long"
  let request ← addAttribute request .operationAttributes "requesting-user-name" user
  addAttribute request .operationAttributes "document-format" format

/-! ## Acting on a job -/

/-- `IppClient::job_action_at`. -/
def jobActionAt (operation : Operation) (label : String) (uri : Uri) (id : JobId) : Net Unit := do
  let request ← Act.ofExcept (c.jobActionRequest operation uri id)
  let _ ← c.send request label

/-- `IppClient::job_action`. -/
def jobAction (operation : Operation) (label printer : String) (id : JobId) : Net Unit := do
  let uri ← Act.ofExcept (c.printerUri printer)
  c.jobActionAt operation label uri id

/-- `IppClient::cancel_job`. -/
def cancelJob (printer : String) (id : JobId) : Net Unit :=
  c.jobAction .cancelJob "Cancel-Job" printer id

/-- `IppClient::hold_job`. -/
def holdJob (printer : String) (id : JobId) : Net Unit :=
  c.jobAction .holdJob "Hold-Job" printer id

/-- `IppClient::release_job`. -/
def releaseJob (printer : String) (id : JobId) : Net Unit :=
  c.jobAction .releaseJob "Release-Job" printer id

/-- `IppClient::restart_job`. -/
def restartJob (printer : String) (id : JobId) : Net Unit :=
  c.jobAction .restartJob "Restart-Job" printer id

/-- `IppClient::move_job`. -/
def moveJob (printer : String) (id : JobId) (destination : String) : Net Unit := do
  let request ← Act.ofExcept (c.moveJobRequest printer id destination)
  let _ ← c.send request "CUPS-Move-Job"

/-! ## Acting on a printer -/

/-- `IppClient::purge_jobs`. -/
def purgeJobs (printer : String) : Net Unit := do
  let uri ← Act.ofExcept (c.printerUri printer)
  let request ← Act.ofExcept (transport (IppCrate.purgeJobs uri (some c.user)))
  let _ ← c.send request "Purge-Jobs"

/-- `IppClient::identify_printer_at`. -/
def identifyPrinterAt (uri : Uri) (action : IdentifyAction) : Net Unit := do
  let request ← Act.ofExcept (c.identifyPrinterRequest uri action)
  let _ ← c.send request "Identify-Printer"

/-- `IppClient::identify_printer`. -/
def identifyPrinter (printer : String) (action : IdentifyAction) : Net Unit := do
  let uri ← Act.ofExcept (c.printerUri printer)
  c.identifyPrinterAt uri action

/-- `IppClient::validate_job_at`. -/
def validateJobAt (uri : Uri) (documentFormat : String) : Net Unit := do
  let request ← Act.ofExcept (c.validateJobRequest uri documentFormat)
  let _ ← c.send request "Validate-Job"

/-- `IppClient::validate_job`. -/
def validateJob (printer documentFormat : String) : Net Unit := do
  let uri ← Act.ofExcept (c.printerUri printer)
  c.validateJobAt uri documentFormat

/-- Reads the attributes of the printer at a URI: the body of `printer_at` after the parse, and
of `IppPrinter::attributes`. -/
def printerAttributesAt (uri : Uri) : Net Printer := do
  let request ← Act.ofExcept (transport (IppCrate.getPrinterAttributes uri))
  let resp ← c.send request "Get-Printer-Attributes"
  Act.ofExcept (decodePrinter resp)

/-- The parse of a printer URI, as `at` and `printer_at` do it. -/
def parsePrinterUri (uri : String) : Except Error Uri :=
  (IppCrate.parseUri uri).mapError fun e => Error.transportMsg s!"bad printer uri {uri}: {e}"

/-- `IppClient::printer_at`. -/
def printerAt (uri : String) : Net Printer := do
  let parsed ← Act.ofExcept (parsePrinterUri uri)
  c.printerAttributesAt parsed

/-- `IppClient::printer`. -/
def printer (name : String) : Net Printer := do
  let uri ← Act.ofExcept (c.printerUri name)
  c.printerAt (IppCrate.uriText uri)

/-! ## Submitting a document -/

/-- `IppClient::print_bytes`. -/
def printBytes (printer : String) (bytes : Payload) (documentFormat jobName : String) :
    Net JobId := do
  let uri ← Act.ofExcept (c.printerUri printer)
  let request ← Act.ofExcept <| transport <|
    IppCrate.printJob uri bytes (some c.user) (some jobName) (some documentFormat)
  let resp ← c.send request "Print-Job"
  Act.ofExcept (decodeJobId resp)

/-- `IppClient::print_stream_at`. -/
def printStreamAt (uri : Uri) (reader : Payload) (documentFormat : Option String)
    (jobName : String) : Net JobId := do
  let create ← Act.ofExcept (transport (IppCrate.createJob uri (some jobName)))
  let resp ← c.send create "Create-Job"
  let job ← Act.ofExcept (decodeJobId resp)
  let send ← Act.ofExcept <| transport <|
    IppCrate.sendDocument uri job reader (some c.user) documentFormat true
  match ← (c.send send "Send-Document").attempt with
  | .ok _ => return job
  | .error e =>
    -- A failure of the cleanup is logged and dropped.
    let _ ← (c.jobActionAt .cancelJob "Cancel-Job" uri job).attempt
    Act.fail e

/-- `IppClient::print_stream`. -/
def printStream (printer : String) (reader : Payload) (documentFormat : Option String)
    (jobName : String) : Net JobId := do
  let uri ← Act.ofExcept (c.printerUri printer)
  c.printStreamAt uri reader documentFormat jobName

omit [IppCrate] in
/-- `tokio::fs::File::open(path).await?`. -/
def openFile (path : Path) : Net Payload := do
  let file ← Act.read fun w => w.openFile path
  Act.ofExcept (file.mapError Error.io)

/-- `IppClient::print_file`. -/
def printFile (printer : String) (path : Path) : Net JobId := do
  let file ← openFile path
  c.printStream printer file (some "application/octet-stream") path.jobName

end IppClient

/-! ## The requests -/

section Requests

variable [LawfulIppCrate] {c : IppClient} {m m' : IppRequestResponse}

/-- A request to act on a job names the printer, the user and the job. -/
theorem jobActionRequest_ok {op : Operation} {uri : Uri} {id : JobId}
    (h : c.jobActionRequest op uri id = .ok m) :
    m.IsFor op (some (IppCrate.printerUri uri)) (some c.user) ∧
      m.operation "job-id" = some (.integer id) := by
  obtain ⟨m0, h0, h⟩ := bind_eq_ok.mp h
  obtain ⟨user, hu, h⟩ := bind_eq_ok.mp h
  obtain ⟨m1, h1, h⟩ := bind_eq_ok.mp h
  have f0 := LawfulIppCrate.newRequest_ok (mapError_eq_ok.mp h0)
  have hn := LawfulIppCrate.newRequest_within (mapError_eq_ok.mp h0)
  obtain rfl := bounded_ok hu
  obtain rfl := addAttribute_ok h1
  obtain rfl := addAttribute_ok h
  refine ⟨⟨f0.code, ?_, ?_⟩, ?_⟩
  · simp [IppRequestResponse.operation_add, f0.printer]
  · simp [IppRequestResponse.operation_add, f0.user]
  · simp [IppRequestResponse.operation_add, hn "job-id" (by decide)]

/-- A request to move a job is a request to act on it, with the destination in the job group. -/
theorem moveJobRequest_ok {printer destination : String} {id : JobId}
    (h : c.moveJobRequest printer id destination = .ok m) :
    ∃ uri, c.printerUri printer = .ok uri ∧
      m.IsFor .cupsMoveJob (some (IppCrate.printerUri uri)) (some c.user) ∧
      m.operation "job-id" = some (.integer id) := by
  obtain ⟨uri, huri, h⟩ := bind_eq_ok.mp h
  obtain ⟨m0, h0, h⟩ := bind_eq_ok.mp h
  obtain ⟨target, htarget, h⟩ := bind_eq_ok.mp h
  obtain ⟨v, hv, h⟩ := bind_eq_ok.mp h
  obtain ⟨f0, hid⟩ := jobActionRequest_ok h0
  obtain rfl := addAttribute_ok h
  refine ⟨uri, huri, ⟨f0.code, ?_, ?_⟩, ?_⟩
  · rw [IppRequestResponse.operation_add_job, f0.printer]
  · rw [IppRequestResponse.operation_add_job, f0.user]
  · rw [IppRequestResponse.operation_add_job, hid]

end Requests

end Ipp
