import IppClient.Base.Text

/-!
# Errors of the IPP client (`error.rs`)

`Error` keeps the data its Rust counterpart keeps. An error of another crate is what the client
can see of it (`ForeignError`): the text it displays as, and the texts of the errors its
`source()` chain goes through.
-/

namespace Ipp

/-- An error of another crate: its `Display` text and those along its `source()` chain. -/
structure ForeignError where
  text : String
  causes : List String
  deriving DecidableEq

/-- `error::Error`. -/
inductive Error where
  | transport (message : String) (source : Option ForeignError)
  | ipp (operation status : String)
  | decode (attributeName detail : String)
  | io (source : ForeignError)
  deriving DecidableEq

namespace Error

/-- `Error::transport`: a transport failure that keeps its cause. -/
def ofTransport (source : ForeignError) : Error := .transport source.text (some source)

/-- `Error::transport_msg`: a transport failure with nothing underneath it. -/
def transportMsg (message : String) : Error := .transport message none

/-- The `Display` text. -/
def text : Error → String
  | .transport message _ => s!"cannot reach the print service: {message}"
  | .ipp operation status => s!"{operation} was refused with {status}"
  | .decode attributeName detail => s!"cannot decode attribute {attributeName}: {detail}"
  | .io source => s!"io error: {source.text}"

/-- The error underneath, `Error::source`. -/
def source : Error → Option ForeignError
  | .transport _ source => source
  | .ipp _ _ => none
  | .decode _ _ => none
  | .io source => some source

/-- The texts along the `source()` chain, from the error itself. -/
def texts (e : Error) : List String :=
  e.text :: (e.source.map fun s => s.text :: s.causes).getD []

/-- `Error::is_certificate_error`. -/
def isCertificateError (e : Error) : Bool :=
  e.texts.any fun text =>
    Base.Text.contains text "certificate" || Base.Text.contains text "CertificateError"

end Error
end Ipp
