import IppClient.Base.Act
import IppClient.Base.Except
import IppClient.Base.Text
import IppClient.Lpoptions
import IppClient.Subscription
import IppClient.Wire.Reference

/-!
# The client, its constructors and `send` (`client.rs`)

`Net` is the type of every asynchronous method: an action that posts requests (`Post`) and gets
replies. The cell is the default-printer cache, the one thing an `IppClient` changes.

`IppClient.send` posts to the URI the inner client was built with, whatever printer the request
names: the `ipp` crate's `AsyncIppClient` has one URI.
-/

namespace Ipp

open Base

/-- A path on disk: its text, and its final component as text
(`file_name().to_string_lossy()`). -/
structure Path where
  text : String
  fileName : Option String
  deriving DecidableEq

/-- A request on its way: where it is posted, and what. -/
structure Post where
  uri : Uri
  request : IppRequestResponse

/-- What a post comes back with: a response, or the transport's failure. -/
abbrev Reply := Except ForeignError IppRequestResponse

/-- Everything outside the client: how the network answers the next post after the exchanges so
far, the documents on disk, and the two `lpoptions` files. -/
structure World where
  reply : List (Exchange Post Reply) → Post → Reply
  openFile : Path → Except ForeignError Payload
  userLpoptions : Option ByteArray
  systemLpoptions : Option ByteArray

/-- `IppClient::default_cache`: `none` is "not yet resolved", `some none` is "resolved, and there
is no default". -/
abbrev Cache := Option (Option String)

/-- A method of the client. -/
abbrev Net := Act World Post Reply Cache Error

/-- `ipp::client::AsyncIppClient`: the URI it posts to and its transport options. -/
structure AsyncIppClient where
  uri : Uri
  requestTimeout : Option Duration
  basicAuth : Option (String × String)
  caCerts : List (List UInt8)
  ignoreTlsErrors : Bool

/-- `AsyncIppClient::new`. -/
def AsyncIppClient.new (uri : Uri) : AsyncIppClient := ⟨uri, none, none, [], false⟩

/-- `IppClient`, without the cache (`Net`'s cell). -/
structure IppClient where
  inner : AsyncIppClient
  base : String
  user : String

/-- `IppClientBuilder`. -/
structure IppClientBuilder where
  uri : String
  user : Option String
  basicAuth : Option (String × String)
  requestTimeout : Option Duration
  caCerts : List (List UInt8)
  acceptInvalidCerts : Bool

/-- `default_user`, of the environment variable `USER`. -/
def defaultUser (envUser : Option String) : String := envUser.getD "anonymous"

section Client

variable [IppCrate]

/-- `map_err(Error::transport)`. -/
def transport {α : Type} (x : Except ForeignError α) : Except Error α :=
  x.mapError Error.ofTransport

omit [IppCrate] in
theorem transport_ok {α : Type} {x : Except ForeignError α} {a : α} (h : x = .ok a) :
    transport x = .ok a := mapError_eq_ok.mpr h

omit [IppCrate] in
theorem transport_error {α : Type} {x : Except ForeignError α} {e : ForeignError}
    (h : x = .error e) : transport x = .error (.ofTransport e) := by
  rw [h]
  rfl

namespace IppClient

/-- `IppClient::with_uri`. -/
def withUri (uri user : String) : Except Error IppClient := do
  let parsed ← (IppCrate.parseUri uri).mapError fun e =>
    Error.transportMsg s!"bad CUPS uri {uri}: {e}"
  return { inner := .new parsed, base := Text.trimEndMatches uri '/', user }

theorem withUri_ok {uri user : String} {c : IppClient} (h : withUri uri user = .ok c) :
    IppCrate.parseUri uri = .ok c.inner.uri ∧ c.base = Text.trimEndMatches uri '/' := by
  obtain ⟨parsed, hp, h⟩ := bind_eq_ok.mp h
  cases h
  exact ⟨mapError_eq_ok.mp hp, rfl⟩

/-- `IppClient::local`. -/
def localDaemon (envUser : Option String) : Except Error IppClient :=
  withUri "http://localhost:631" (defaultUser envUser)

end IppClient

/-- `IppClientBuilder::build`. The warning about unprotected credentials changes nothing. -/
def IppClientBuilder.build (b : IppClientBuilder) (envUser : Option String) :
    Except Error IppClient := do
  let parsed ← (IppCrate.parseUri b.uri).mapError fun e =>
    Error.transportMsg s!"bad uri {b.uri}: {e}"
  return {
    inner :=
      { AsyncIppClient.new parsed with
        requestTimeout := b.requestTimeout
        basicAuth := b.basicAuth
        caCerts := b.caCerts
        ignoreTlsErrors := b.acceptInvalidCerts }
    base := Text.trimEndMatches b.uri '/'
    user := b.user.getD (defaultUser envUser) }

theorem IppClientBuilder.build_ok {b : IppClientBuilder} {envUser : Option String} {c : IppClient}
    (h : b.build envUser = .ok c) : IppCrate.parseUri b.uri = .ok c.inner.uri := by
  obtain ⟨parsed, hp, h⟩ := bind_eq_ok.mp h
  cases h
  exact mapError_eq_ok.mp hp

namespace IppClient

variable (c : IppClient)

/-- `IppClient::printer_uri`. -/
def printerUri (name : String) : Except Error Uri :=
  (IppCrate.parseUri s!"{c.base}/printers/{name}").mapError fun e =>
    Error.transportMsg s!"bad printer uri for {name}: {e}"

/-- `IppClient::check_status`. -/
def checkStatus (resp : IppRequestResponse) (op : String) : Except Error Unit :=
  if IppCrate.isSuccess resp.operationOrStatus then .ok ()
  else .error (.ipp op (IppCrate.statusText resp.operationOrStatus))

omit [IppCrate] in
/-- `self.inner.send(req).await.map_err(Error::transport)`. -/
def post (req : IppRequestResponse) : Net IppRequestResponse := do
  let reply ← Act.call World.reply ⟨c.inner.uri, req⟩
  Act.ofExcept (transport reply)

/-- `IppClient::send`. -/
def send (req : IppRequestResponse) (label : String) : Net IppRequestResponse := do
  let resp ← c.post req
  Act.ofExcept (checkStatus resp label)
  return resp

/-- What `send` makes of the reply to a request. -/
def accept (label : String) (reply : Reply) : Except Error IppRequestResponse := do
  let resp ← transport reply
  checkStatus resp label
  return resp

end IppClient

/-! ## Building requests -/

/-- A text converted into a bounded string type, with the error the call site maps a failure
to. -/
def bounded (kind : StringKind) (mk : String → IppValue) (text name detail : String) :
    Except Error IppValue :=
  if IppCrate.fits kind text then .ok (mk text) else .error (.decode name detail)

/-- `request.attributes_mut().add(tag, IppAttribute::with_name(name, value).map_err(..)?)`. -/
def addAttribute (request : IppRequestResponse) (tag : DelimiterTag) (name : String)
    (value : IppValue) : Except Error IppRequestResponse := do
  let a ← (IppCrate.withName name value).mapError fun e => Error.decode name e.text
  return request.add tag a

/-- The `requesting-user-name` that most request builders add. -/
def addUser (request : IppRequestResponse) (user : String) : Except Error IppRequestResponse := do
  let value ← bounded .name .nameWithoutLanguage user "requesting-user-name" "name too long"
  addAttribute request .operationAttributes "requesting-user-name" value

/-- `IppClient::request_attributes`. -/
def requestAttributes (request : IppRequestResponse) (names : List String) :
    Except Error IppRequestResponse := do
  let wanted ← names.mapM fun name => bounded .keyword .keyword name name "keyword too long"
  addAttribute request .operationAttributes "requested-attributes" (.array wanted)

/-! ## What `send` and the builders do -/

namespace IppClient

variable (c : IppClient)

/-- A request that the client posts, and the answer to it after the exchanges so far. -/
def exchange (w : World) (past : List (Exchange Post Reply)) (m : IppRequestResponse) :
    Exchange Post Reply :=
  ⟨⟨c.inner.uri, m⟩, w.reply past ⟨c.inner.uri, m⟩⟩

omit [IppCrate] in
theorem post_apply (req : IppRequestResponse) (w : World) (past : List (Exchange Post Reply))
    (cell : Cache) :
    c.post req w past cell =
      ⟨transport (w.reply past ⟨c.inner.uri, req⟩),
        [⟨⟨c.inner.uri, req⟩, w.reply past ⟨c.inner.uri, req⟩⟩], cell⟩ := by
  unfold post
  rw [Act.bind_ok w past cell (Act.call_apply w past cell _ _)]
  rfl

theorem accept_error (label : String) (e : ForeignError) :
    accept label (.error e) = .error (.ofTransport e) := rfl

theorem accept_ok (label : String) (resp : IppRequestResponse) :
    accept label (.ok resp) =
      if IppCrate.isSuccess resp.operationOrStatus then .ok resp
      else .error (.ipp label (IppCrate.statusText resp.operationOrStatus)) := by
  show (do checkStatus resp label; return resp : Except Error IppRequestResponse) = _
  unfold checkStatus
  split <;> rfl

/-- **`send`**: one post to the client's URI, and `accept` of the reply. -/
theorem send_apply (req : IppRequestResponse) (label : String) (w : World)
    (past : List (Exchange Post Reply)) (cell : Cache) :
    c.send req label w past cell =
      ⟨accept label (w.reply past ⟨c.inner.uri, req⟩),
        [⟨⟨c.inner.uri, req⟩, w.reply past ⟨c.inner.uri, req⟩⟩], cell⟩ := by
  unfold send
  have hp := post_apply c req w past cell
  rcases hr : w.reply past ⟨c.inner.uri, req⟩ with e | resp
  · rw [hr] at hp
    rw [Act.bind_error w past cell hp, accept_error]
  · rw [hr] at hp
    rw [Act.bind_ok w past cell hp, accept_ok]
    unfold checkStatus
    split <;> rfl

theorem send_exchange {c : IppClient} {w : World} {past : List (Exchange Post Reply)}
    {cell : Cache} (m : IppRequestResponse) (label : String) :
    c.send m label w past cell =
      ⟨accept label (c.exchange w past m).reply, [c.exchange w past m], cell⟩ :=
  send_apply c m label w past cell

/-- A request that is sent, and something made of the response. -/
theorem send_map {α : Type} {c : IppClient} {w : World} {past : List (Exchange Post Reply)}
    {cell : Cache} (m : IppRequestResponse) (label : String) (f : IppRequestResponse → α) :
    (c.send m label >>= fun resp => pure (f resp)) w past cell =
      ⟨(accept label (c.exchange w past m).reply).map f, [c.exchange w past m], cell⟩ := by
  have hs : c.send m label w past cell =
      ⟨accept label (c.exchange w past m).reply, [c.exchange w past m], cell⟩ :=
    send_exchange m label
  cases ha : accept label (c.exchange w past m).reply with
  | error e =>
    rw [ha] at hs
    exact Act.bind_error w past cell hs
  | ok resp =>
    rw [ha] at hs
    exact Act.bind_ok w past cell hs

theorem send_emits {P : Exchange Post Reply → Prop} {req : IppRequestResponse} (label : String)
    (h : ∀ r, P ⟨⟨c.inner.uri, req⟩, r⟩) : Act.Emits P (c.send req label) := by
  intro w past cell e he
  rw [send_apply, List.mem_singleton] at he
  exact he ▸ h _

theorem accept_eq_ok {label : String} {reply : Reply} {resp : IppRequestResponse} :
    accept label reply = .ok resp ↔
      reply = .ok resp ∧ IppCrate.isSuccess resp.operationOrStatus = true := by
  cases reply with
  | error e => simp [accept_error]
  | ok r =>
    rw [accept_ok]
    split
    · rename_i hs
      simp only [Except.ok.injEq]
      exact ⟨fun h => ⟨h, h ▸ hs⟩, fun h => h.1⟩
    · rename_i hs
      simp only [reduceCtorEq, Except.ok.injEq, false_iff, not_and]
      rintro rfl
      exact hs

theorem send_eq_ok {req : IppRequestResponse} {label : String} {w : World}
    {past t : List (Exchange Post Reply)} {cell cell' : Cache} {resp : IppRequestResponse}
    (h : c.send req label w past cell = ⟨.ok resp, t, cell'⟩) :
    t = [⟨⟨c.inner.uri, req⟩, .ok resp⟩] ∧ IppCrate.isSuccess resp.operationOrStatus = true ∧
      cell' = cell := by
  rw [send_apply] at h
  injection h with hr ht hc
  obtain ⟨hr, hs⟩ := accept_eq_ok.mp hr
  rw [hr] at ht
  exact ⟨ht.symm, hs, hc.symm⟩

end IppClient

section Builders

variable [LawfulAttribute] {m m' : IppRequestResponse}

theorem addAttribute_ok {tag : DelimiterTag} {name : String} {value : IppValue}
    (h : addAttribute m tag name value = .ok m') : m' = m.add tag ⟨name, value⟩ := by
  obtain ⟨a, ha, h⟩ := bind_eq_ok.mp h
  cases h
  rw [LawfulAttribute.withName_ok (mapError_eq_ok.mp ha)]

/-- An attribute of the same name can be added to any request. -/
theorem addAttribute_taken {tag : DelimiterTag} {name : String} {value : IppValue}
    (h : addAttribute m tag name value = .ok m') (m₁ : IppRequestResponse) (tag₁ : DelimiterTag)
    (value₁ : IppValue) : ∃ m₂, addAttribute m₁ tag₁ name value₁ = .ok m₂ := by
  obtain ⟨a, ha, -⟩ := bind_eq_ok.mp h
  obtain ⟨a₁, ha₁⟩ := LawfulAttribute.withName_taken (mapError_eq_ok.mp ha) value₁
  exact ⟨_, bind_eq_ok.mpr ⟨a₁, mapError_eq_ok.mpr ha₁, rfl⟩⟩

omit [LawfulAttribute] in
theorem bounded_ok {kind : StringKind} {mk : String → IppValue} {text name detail : String}
    {v : IppValue} (h : bounded kind mk text name detail = .ok v) : v = mk text := by
  unfold bounded at h
  split at h
  · cases h
    rfl
  · cases h

theorem addUser_ok {user : String} (h : addUser m user = .ok m') :
    m' = m.add .operationAttributes ⟨"requesting-user-name", .nameWithoutLanguage user⟩ := by
  obtain ⟨v, hv, h⟩ := bind_eq_ok.mp h
  rw [addAttribute_ok h, bounded_ok hv]

theorem requestAttributes_ok {names : List String} (h : requestAttributes m names = .ok m') :
    m' = m.add .operationAttributes
      ⟨"requested-attributes", .array (names.map .keyword)⟩ := by
  obtain ⟨wanted, hw, h⟩ := bind_eq_ok.mp h
  rw [addAttribute_ok h, mapM_eq_ok (fun _ _ => bounded_ok) hw]

end Builders

end Client

/-! ## A client to run on given inputs -/

section Reference

attribute [local instance] Reference.crate

/-- `IppClient::with_uri("http://localhost:631", "tester")`, over the reference crates. -/
def localClient : IppClient where
  inner := .new ⟨some "http", some ⟨"localhost:631", "localhost", some 631⟩, "/", none⟩
  base := "http://localhost:631"
  user := "tester"

theorem localClient_built :
    IppClient.withUri "http://localhost:631" "tester" = .ok localClient := rfl

/-- A world whose server answers each operation in one way. There are no `lpoptions` files, and
every document is empty. -/
def World.answering (replies : Int16 → Reply) : World where
  reply _ post := replies post.request.operationOrStatus
  openFile _ := .ok []
  userLpoptions := none
  systemLpoptions := none

/-- Nothing answers. -/
def refused : Reply := .error ⟨"connection refused", []⟩

/-- A successful response with these groups. -/
def accepted (groups : List IppAttributeGroup) : Reply := .ok ⟨0, groups, []⟩

end Reference

end Ipp
