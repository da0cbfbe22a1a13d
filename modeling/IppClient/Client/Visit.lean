import IppClient.Base.Peer
import IppClient.Client.Session

/-!
# Many clients, one server

What a server has is the outcome of the calls of all its clients, in the order in which it saw
them. A `Visit` is a call of one of them; nothing is said of the caches that the calls find.
-/

namespace Ipp

open Base

/-- A text among the operation attributes of a request. -/
def IppRequestResponse.operationText (m : IppRequestResponse) (name : String) : Option String :=
  (m.operation name).bind Attrs.asText

/-- A number among them. -/
def IppRequestResponse.operationInt (m : IppRequestResponse) (name : String) : Option Int32 :=
  (m.operation name).bind Attrs.asInt

/-- A call of a client, and what is in the client's cache. -/
structure Visit where
  client : IppClient
  call : Call
  cell : Cache

variable [IppCrate]

def Visit.ran (w : World) (v : Visit) (past : List (Exchange Post Reply)) :
    Ran Post Reply Cache Error Unit :=
  v.call.run v.client w past v.cell

def Visit.trace (w : World) (v : Visit) (past : List (Exchange Post Reply)) :
    List (Exchange Post Reply) :=
  (v.ran w past).trace

end Ipp
