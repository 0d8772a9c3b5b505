import Courier.Text.Case
import Courier.Text.Encoding

/-!
What goes over the network: requests as they are sent, the replies that come back for them, and failures in the place
of a reply. Header names keep their spelling, and small and capital letters in them are the same.
-/

namespace Courier.Exchange

/-- Headers in their order. -/
abbrev Headers := List (String × String)

namespace Headers

/-- Whether two names are the names of one header. -/
def same (a b : String) : Bool := a.map Char.toLower == b.map Char.toLower

/-- The values of a header. -/
def valuesOf (headers : Headers) (name : String) : List String :=
  (headers.filter fun h => same name h.1).map (·.2)

/-- Whether there is a header of a name. -/
def has (headers : Headers) (name : String) : Bool := headers.any fun h => same name h.1

/-- The headers without those of a name. -/
def without (headers : Headers) (name : String) : Headers := headers.filter fun h => !same name h.1

/-- Sets a header: it takes the place of the first one of its name, and the others of that name go. -/
def set (headers : Headers) (name value : String) : Headers :=
  if headers.has name then
    headers.takeWhile (fun h => !same name h.1) ++
      (name, value) :: without (headers.dropWhile fun h => !same name h.1) name
  else headers ++ [(name, value)]

/-- Adds a header unless there is one of its name. -/
def setDefault (headers : Headers) (name value : String) : Headers :=
  if headers.has name then headers else headers ++ [(name, value)]

end Headers

/-- A request as it is sent. -/
structure Message where
  method : String
  url : String
  headers : Headers
  body : Text.Bytes
  deriving DecidableEq, Repr

/-- What can go wrong on the way, by the family that callers tell apart. -/
inductive NetworkFault
  | transport
  | timeout
  | connectTimeout
  | readTimeout
  | writeTimeout
  | poolTimeout
  | network
  | connect
  | read
  | write
  | close
  | proxy
  | unsupportedProtocol
  | protocol
  | localProtocol
  | remoteProtocol
  | request
  | decoding
  | tooManyRedirects
  deriving DecidableEq, Repr

/-- Faults of the network itself. The others show in what came over it. -/
def NetworkFault.isTransport : NetworkFault → Bool
  | request | decoding | tooManyRedirects => false
  | _ => true

/-- What comes back for a request. -/
inductive Reply
  | answer (status : Int) (headers : Headers) (body : Text.Bytes)
  | failure (fault : NetworkFault) (message : String)
  deriving DecidableEq, Repr

/-- A network that follows a script: the replies that are still to come, and the requests that were sent so far. -/
structure Network where
  script : List Reply
  sent : List Message
  deriving DecidableEq, Repr

namespace Network

/-- The reply for which there is no line in the script. -/
def silence : Reply := .failure .connect "no scripted response"

/-- Sends a request and takes the next reply. -/
def exchange (network : Network) (message : Message) : Reply × Network :=
  (network.script.head?.getD silence, ⟨network.script.tail, network.sent ++ [message]⟩)

end Network

end Courier.Exchange
