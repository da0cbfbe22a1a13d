import IppClient.Client.Core

/-!
# The builder (`client.rs`)

`IppClientBuilder`'s methods, and `build` with what it logs: credentials over a connection that
others can read are warned about once, when the client is built.
-/

namespace Ipp

open Base

/-- `IppClientBuilder::new`. -/
def IppClientBuilder.new (uri : String) : IppClientBuilder where
  uri
  user := none
  basicAuth := none
  requestTimeout := none
  caCerts := []
  acceptInvalidCerts := false

/-- A call of one of the builder's methods. -/
inductive BuilderCall where
  | user (user : String)
  | requestTimeout (timeout : Duration)
  | basicAuth (user password : String)
  | caCert (certificate : List UInt8)
  | dangerAcceptInvalidCerts (accept : Bool)

/-- The builder after the call: `IppClientBuilder::user`, `request_timeout`, `basic_auth`,
`ca_cert` and `danger_accept_invalid_certs`. -/
def IppClientBuilder.apply (b : IppClientBuilder) : BuilderCall → IppClientBuilder
  | .user user => { b with user := some user }
  | .requestTimeout timeout => { b with requestTimeout := some timeout }
  | .basicAuth user password => { b with basicAuth := some (user, password) }
  | .caCert certificate => { b with caCerts := b.caCerts ++ [certificate] }
  | .dangerAcceptInvalidCerts accept => { b with acceptInvalidCerts := accept }

/-- `is_confidential`. -/
def isConfidential (uri : Uri) : Bool :=
  if uri.scheme = some "https" ∨ uri.scheme = some "ipps" then true
  else
    match uri.authority.map (·.host) with
    | some "localhost" => true
    | some "127.0.0.1" => true
    | some "::1" => true
    | some "[::1]" => true
    | _ => false

/-- What `build` logs, of the URI as it was parsed. -/
def IppClientBuilder.warnings (b : IppClientBuilder) (parsed : Uri) : List String :=
  match b.basicAuth with
  | some _ =>
    if !isConfidential parsed then
      ["sending Basic credentials over an unencrypted connection to a " ++
        "non-loopback host; anything on the path can read the password"]
    else []
  | none => []

/-- `IppClientBuilder::build`, with what it logs. -/
def IppClientBuilder.buildLogged [IppCrate] (b : IppClientBuilder) (envUser : Option String) :
    Except Error (IppClient × List String) := do
  let c ← b.build envUser
  return (c, b.warnings c.inner.uri)

end Ipp
