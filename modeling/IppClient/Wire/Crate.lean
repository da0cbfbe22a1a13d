import IppClient.Base.Text
import IppClient.Error
import IppClient.Wire.Value

/-!
# The `ipp` and `http` crates

The client builds its requests with the `ipp` crate and addresses them with `http::Uri`. Neither
crate is part of the repository, so what the client calls of them is a parameter, the class
`IppCrate`, and what it relies on are named assumptions: `LawfulAttribute`, about attributes,
`LawfulIppCrate`, about the requests the crate's constructors build, `LawfulHeader`, about the
attributes every request starts with, `LawfulDocuments`, about the document that a request carries,
and `LawfulUri`, about what parsing a URI keeps of its text. `IppClient.Wire.Reference` instantiates
them all.

* `fits`: the conversion of a text into one of the crate's bounded string types succeeds.
* `newRequest`, `createJob`, `sendDocument`, ..: the fallible request constructors
  (`IppRequestResponse::new`, `CreateJob::new(..).into_ipp_request()`, ..). They do not write one
  URI alike: `IppRequestResponse::new` puts it under the scheme `ipp`, without its query, and the
  operation structs write it as it is.
* `IppRequestResponse.IsFor`: the operation, the printer and the user a request names.
* `requestUri`: the `printer-uri` that a request of the client has.
-/

namespace Ipp

/-- `http::uri::Authority`: its text, and the host and the port in it. -/
structure Authority where
  text : String
  host : String
  port : Option UInt16
  deriving DecidableEq

/-- `http::Uri`, by its parts. -/
structure Uri where
  scheme : Option String
  authority : Option Authority
  path : String
  query : Option String
  deriving DecidableEq

/-- The bounded string types of `ipp::value` the client converts texts to. -/
inductive StringKind where
  | keyword
  | name
  | text
  | uri
  | mimeMediaType
  deriving DecidableEq

/-- The most bytes that a text of the type has. -/
def StringKind.maxBytes : StringKind → Nat
  | .keyword => 255
  | .name => 255
  | .text => 1023
  | .uri => 1023
  | .mimeMediaType => 255

/-- The text of a value that the client reads as one, and its type. -/
def IppValue.boundedText : IppValue → Option (StringKind × String)
  | .textWithoutLanguage v => some (.text, v)
  | .nameWithoutLanguage v => some (.name, v)
  | .textWithLanguage _ text => some (.text, text)
  | .nameWithLanguage _ name => some (.name, name)
  | .keyword v => some (.keyword, v)
  | .uri v => some (.uri, v)
  | .mimeMediaType v => some (.mimeMediaType, v)
  | _ => none

/-- The value, or one in it, has a text that is longer than its type allows: the crate has no such
value. -/
inductive IppValue.Oversized : IppValue → Prop
  | text {v : IppValue} {kind : StringKind} {s : String} (hv : v.boundedText = some (kind, s))
      (h : kind.maxBytes < s.utf8ByteSize) : Oversized v
  | item {v : IppValue} {items : List IppValue} (h : v ∈ items) (hv : Oversized v) :
    Oversized (.array items)
  | member {name : String} {v : IppValue} {members : List (String × IppValue)}
      (h : (name, v) ∈ members) (hv : Oversized v) : Oversized (.collection members)

/-- The group is one that the crate can hold: its names and texts are within their bounds. -/
def IppAttributeGroup.Sized (g : IppAttributeGroup) : Prop :=
  ∀ a ∈ g.attributes, a.name.utf8ByteSize ≤ StringKind.name.maxBytes ∧ ¬a.value.Oversized

/-- `ipp::model::Operation`, as far as the client names its variants. -/
inductive Operation where
  | printJob
  | validateJob
  | createJob
  | sendDocument
  | cancelJob
  | getJobAttributes
  | getJobs
  | getPrinterAttributes
  | holdJob
  | releaseJob
  | restartJob
  | pausePrinter
  | resumePrinter
  | purgeJobs
  | cupsGetDefault
  | cupsGetPrinters
  | cupsGetClasses
  | cupsGetPPDs
  | cupsMoveJob
  deriving DecidableEq

/-- The registered operation code (`Operation as i16`). -/
def Operation.code : Operation → Int16
  | .printJob => 0x0002
  | .validateJob => 0x0004
  | .createJob => 0x0005
  | .sendDocument => 0x0006
  | .cancelJob => 0x0008
  | .getJobAttributes => 0x0009
  | .getJobs => 0x000A
  | .getPrinterAttributes => 0x000B
  | .holdJob => 0x000C
  | .releaseJob => 0x000D
  | .restartJob => 0x000E
  | .pausePrinter => 0x0010
  | .resumePrinter => 0x0011
  | .purgeJobs => 0x0012
  | .cupsGetDefault => 0x4001
  | .cupsGetPrinters => 0x4002
  | .cupsGetClasses => 0x4005
  | .cupsGetPPDs => 0x400C
  | .cupsMoveJob => 0x400D

/-- `StatusCode::ClientErrorNotFound`. -/
def clientErrorNotFound : Int16 := 0x0406

/-- What the client calls of the `ipp` and `http` crates (module doc). -/
class IppCrate where
  /-- `str::parse::<Uri>`; the error is its text. -/
  parseUri : String → Except String Uri
  /-- `Uri::to_string`. -/
  uriText : Uri → String
  /-- The port a scheme implies for a URI that names none. -/
  defaultPort : Option String → Option UInt16
  /-- A text converts into the bounded string type. -/
  fits : StringKind → String → Bool
  /-- `IppAttribute::with_name`. -/
  withName : String → IppValue → Except ForeignError IppAttribute
  /-- The `printer-uri` that `IppRequestResponse::new` makes of a URI. -/
  printerUri : Uri → String
  /-- `IppRequestResponse::new(IppVersion::v1_1(), operation, uri)`. -/
  newRequest : Operation → Option Uri → Except ForeignError IppRequestResponse
  /-- `CupsGetPrinters::new()`. -/
  cupsGetPrinters : IppRequestResponse
  /-- `GetPrinterAttributes::new(uri)`. -/
  getPrinterAttributes : Uri → Except ForeignError IppRequestResponse
  /-- `GetJobs::new(uri, user)`. -/
  getJobs : Uri → Option String → Except ForeignError IppRequestResponse
  /-- `GetJobAttributes::new(uri, id, user)`. -/
  getJobAttributes : Uri → Int32 → Option String → Except ForeignError IppRequestResponse
  /-- `CreateJob::new(uri, job_name)`. -/
  createJob : Uri → Option String → Except ForeignError IppRequestResponse
  /-- `PrintJob::new(uri, payload, user, job_name, document_format)`. -/
  printJob : Uri → Payload → Option String → Option String → Option String →
    Except ForeignError IppRequestResponse
  /-- `SendDocument::new(uri, job_id, payload, user, document_format, last)`. -/
  sendDocument : Uri → Int32 → Payload → Option String → Option String → Bool →
    Except ForeignError IppRequestResponse
  /-- `PurgeJobs::new(uri, user)`. -/
  purgeJobs : Uri → Option String → Except ForeignError IppRequestResponse
  /-- `StatusCode::is_success`. -/
  isSuccess : Int16 → Bool
  /-- The `Debug` text of a `StatusCode`. -/
  statusText : Int16 → String

/-- The path of a URI and the query after it, as one text. -/
def Uri.pathAndQuery (u : Uri) : String := u.path ++ (u.query.map fun q => "?" ++ q).getD ""

/-- What stands before the path of a URI: nothing, or `scheme://authority`. -/
def IsOrigin (s : String) : Prop :=
  s = "" ∨ ∃ scheme authority, s = scheme ++ "://" ++ authority ∧ '/' ∉ scheme.toList ∧
    '/' ∉ authority.toList

variable [IppCrate]

/-- The host and the port a request to the URI reaches. Host names compare without case. -/
def Uri.endpoint (u : Uri) : Option (String × Option UInt16) :=
  u.authority.map fun a => (Base.Text.lower a.host, a.port.or (IppCrate.defaultPort u.scheme))

/-- The request is for `op`, and names the printer by this text, and this user. -/
structure IppRequestResponse.IsFor (m : IppRequestResponse) (op : Operation)
    (printer : Option String) (user : Option String) : Prop where
  code : m.operationOrStatus = op.code
  printer : m.operation "printer-uri" = printer.map .uri
  user : m.operation "requesting-user-name" = user.map .nameWithoutLanguage

/-- The operations whose requests the client builds with the crate's operation structs
(`CreateJob`, `SendDocument`, ..). All other requests start from `IppRequestResponse::new`. -/
def structOperations : List Int16 :=
  [Operation.printJob.code, Operation.createJob.code, Operation.sendDocument.code,
    Operation.getJobAttributes.code, Operation.getJobs.code, Operation.getPrinterAttributes.code,
    Operation.purgeJobs.code]

/-- The `printer-uri` of a request of the client about a printer. -/
def requestUri (code : Int16) (uri : Uri) : String :=
  if code ∈ structOperations then IppCrate.uriText uri else IppCrate.printerUri uri

theorem requestUri_struct {code : Int16} (h : code ∈ structOperations) (uri : Uri) :
    requestUri code uri = IppCrate.uriText uri := if_pos h

theorem requestUri_new {code : Int16} (h : code ∉ structOperations) (uri : Uri) :
    requestUri code uri = IppCrate.printerUri uri := if_neg h

/-- The message has no operation attributes but those named. -/
def IppRequestResponse.Within (m : IppRequestResponse) (names : List String) : Prop :=
  ∀ name, name ∉ names → m.operation name = none

/-- The names of the operation attributes that `IppRequestResponse::new` writes. -/
def headerNames : List String :=
  ["attributes-charset", "attributes-natural-language", "printer-uri"]

/-- What the client relies on of `IppAttribute::with_name`: the name and the value are kept, and a
name that is taken is so with every value. -/
class LawfulAttribute : Prop where
  withName_ok : ∀ {name v a}, IppCrate.withName name v = .ok a → a = ⟨name, v⟩
  withName_taken : ∀ {name v a}, IppCrate.withName name v = .ok a →
    ∀ v', ∃ a', IppCrate.withName name v' = .ok a'

/-- What the client relies on of the two crates: an attribute keeps its name and value, and a
constructor writes the operation, printer, job and user it is given, no user if it is given none,
and nothing it is not given. -/
class LawfulIppCrate : Prop extends LawfulAttribute where
  newRequest_ok : ∀ {op uri m}, IppCrate.newRequest op uri = .ok m →
    m.IsFor op (uri.map IppCrate.printerUri) none
  newRequest_within : ∀ {op uri m}, IppCrate.newRequest op uri = .ok m → m.Within headerNames
  cupsGetPrinters_code :
    IppCrate.cupsGetPrinters.operationOrStatus = Operation.cupsGetPrinters.code
  cupsGetPrinters_within : IppCrate.cupsGetPrinters.Within headerNames
  getPrinterAttributes_ok : ∀ {uri m}, IppCrate.getPrinterAttributes uri = .ok m →
    m.IsFor .getPrinterAttributes (some (IppCrate.uriText uri)) none
  getJobs_ok : ∀ {uri user m}, IppCrate.getJobs uri user = .ok m →
    m.IsFor .getJobs (some (IppCrate.uriText uri)) user
  getJobs_within : ∀ {uri user m}, IppCrate.getJobs uri user = .ok m →
    m.Within ("requesting-user-name" :: headerNames)
  getJobAttributes_ok : ∀ {uri id user m}, IppCrate.getJobAttributes uri id user = .ok m →
    m.IsFor .getJobAttributes (some (IppCrate.uriText uri)) user ∧
      m.operation "job-id" = some (.integer id)
  getJobAttributes_within : ∀ {uri id user m}, IppCrate.getJobAttributes uri id user = .ok m →
    m.Within ("job-id" :: "requesting-user-name" :: headerNames)
  createJob_ok : ∀ {uri jobName m}, IppCrate.createJob uri jobName = .ok m →
    m.IsFor .createJob (some (IppCrate.uriText uri)) none
  printJob_ok : ∀ {uri payload user jobName format m},
    IppCrate.printJob uri payload user jobName format = .ok m →
    m.IsFor .printJob (some (IppCrate.uriText uri)) user
  sendDocument_ok : ∀ {uri id payload user format last m},
    IppCrate.sendDocument uri id payload user format last = .ok m →
    m.IsFor .sendDocument (some (IppCrate.uriText uri)) user ∧
      m.operation "job-id" = some (.integer id) ∧
      m.operation "last-document" = some (.boolean last)
  purgeJobs_ok : ∀ {uri user m}, IppCrate.purgeJobs uri user = .ok m →
    m.IsFor .purgeJobs (some (IppCrate.uriText uri)) user

/-- What the client relies on of `IppRequestResponse::new` besides: it writes the attributes of
`headerNames`, each one text, and no other attribute in any group. -/
class LawfulHeader : Prop where
  newRequest_has : ∀ {op uri m tag a}, IppCrate.newRequest op uri = .ok m → m.Has tag a →
    a.name ∈ headerNames ∧
      ∃ text, a.value = .charset text ∨ a.value = .naturalLanguage text ∨ a.value = .uri text

theorem newRequest_lookup [LawfulHeader] {op : Operation} {uri : Option Uri}
    {m : IppRequestResponse} (h : IppCrate.newRequest op uri = .ok m) (tag : DelimiterTag)
    {name : String} (hn : name ∉ headerNames) : m.lookup tag name = none := by
  cases hl : m.lookup tag name with
  | none => rfl
  | some v =>
    exact absurd (LawfulHeader.newRequest_has h (IppRequestResponse.has_of_lookup hl)).1 hn

/-- What the client relies on of the submission requests besides: they carry the document that they
are given as their payload, and its format and the name of the job as attributes. -/
class LawfulDocuments : Prop where
  createJob_name : ∀ {uri jobName m}, IppCrate.createJob uri jobName = .ok m →
    m.operation "job-name" = jobName.map .nameWithoutLanguage
  printJob_document : ∀ {uri payload user jobName format m},
    IppCrate.printJob uri payload user jobName format = .ok m →
    m.operation "job-name" = jobName.map .nameWithoutLanguage ∧ m.payload = payload ∧
      m.operation "document-format" = format.map .mimeMediaType
  sendDocument_document : ∀ {uri id payload user format last m},
    IppCrate.sendDocument uri id payload user format last = .ok m →
    m.payload = payload ∧ m.operation "document-format" = format.map .mimeMediaType

/-- What the client relies on of `http::Uri`: a fragment is dropped, a query starts at the first `?`,
and the path and the query are kept as the text has them (an absolute URI without a path has the
path `/`). A text without `/` is left out: that is an authority alone, or `*`. A URI is printed as
its parts, reads back as itself, and has its path in the `printer-uri` of every request. -/
class LawfulUri : Prop where
  parseUri_beforeFragment : ∀ {text uri}, IppCrate.parseUri text = .ok uri →
    IppCrate.parseUri (Base.Text.beforeFirst text '#') = .ok uri
  parseUri_beforeQuery : ∀ {text uri}, IppCrate.parseUri text = .ok uri →
    ∃ uri', IppCrate.parseUri (Base.Text.beforeFirst text '?') = .ok uri' ∧ uri'.path = uri.path
  parseUri_verbatim : ∀ {text uri}, IppCrate.parseUri text = .ok uri → '#' ∉ text.toList →
    '/' ∈ text.toList → ∃ origin rest, text = origin ++ rest ∧ IsOrigin origin ∧
      uri.pathAndQuery = (if rest.toList.head? = some '/' then rest else "/" ++ rest)
  parseUri_path : ∀ {text uri}, IppCrate.parseUri text = .ok uri → '/' ∈ text.toList →
    '/' ∈ uri.path.toList ∧ '?' ∉ uri.path.toList
  uriText_eq : ∀ {text uri}, IppCrate.parseUri text = .ok uri →
    ∃ origin, '?' ∉ origin.toList ∧ IppCrate.uriText uri = origin ++ uri.pathAndQuery
  parseUri_uriText : ∀ {text uri uri'}, IppCrate.parseUri text = .ok uri →
    IppCrate.parseUri (IppCrate.uriText uri) = .ok uri' → uri' = uri
  printerUri_eq : ∀ {text uri}, IppCrate.parseUri text = .ok uri → '/' ∈ text.toList →
    ∃ origin rest, '?' ∉ origin.toList ∧ IppCrate.printerUri uri = origin ++ uri.path ++ rest ∧
      (rest = "" ∨ rest.toList.head? = some '?')

end Ipp
