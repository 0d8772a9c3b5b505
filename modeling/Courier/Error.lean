import Courier.Exchange.Message
import Courier.Exchange.Target
import Courier.Json.Reader
import Courier.Model
import Courier.Settings
import Courier.Text.Charset

/-!
What ends a call. An error names its cause; failures of mappings are not among them, because they become part of the
output.
-/

namespace Courier

/-- Why a call ended without a result. -/
inductive Error
  /-- The configuration does not have the right form. -/
  | invalid (problems : List Schema.Problem)
  /-- The rendered URL of an endpoint is no URL. -/
  | malformedUrl (url : String)
  /-- A text has no form in the encoding that it is written in. -/
  | encoding (cause : Text.EncodingFault)
  | unknownEndpoint (name : String)
  /-- The service answered with an error, or with JSON under a status that means no success. -/
  | refused (response : Response)
  /-- The answer to a request for a token holds none. -/
  | noToken (status : Int) (url : Option String)
  | fault (cause : Language.Fault)
  | json (cause : Json.Fault)
  /-- The URL cannot go over the network. -/
  | target (cause : Exchange.TargetFault)
  /-- The URL that a reply leads to cannot go over the network. -/
  | location (cause : Exchange.TargetFault)
  /-- A reply came back for a URL without a host. -/
  | noScheme (url : String)
  /-- The body of a reply cannot be read as a text. -/
  | unreadable (cause : Text.Unreadable)
  | network (cause : Exchange.NetworkFault) (message : String)
  | badNumber (cause : Settings.BadNumber)
  | unknownLogLevel (name : String)
  /-- The name of a file that is read leads to a directory. -/
  | isDirectory (path : String)
  /-- The name of a file that is read leads through a file. -/
  | throughFile (path : String)
  deriving DecidableEq, Repr

namespace Error

/-- The wording of an error. -/
def message : Error → String
  | invalid problems => Schema.messageOf problems
  | malformedUrl url => "Malformed URL: " ++ url
  | encoding cause => cause.message
  | unknownEndpoint name => "Endpoint not found: " ++ name
  | refused response => "HTTP error " ++ Number.writeInt response.status
  | noToken status _ =>
    "Token endpoint did not return an access_token (status " ++ Number.writeInt status ++ ")"
  | fault cause => cause.message
  | json cause => cause.message
  | target cause => cause.message
  | location cause => "Invalid URL in location header: " ++ cause.message ++ "."
  | noScheme url => "unknown url type: " ++ Text.quoted url
  | unreadable cause => cause.message
  | network _ message => message
  | badNumber cause => cause.message
  | unknownLogLevel name => "Unknown level: " ++ Text.quoted name
  | isDirectory path => "[Errno 21] Is a directory: " ++ Text.quoted path
  | throughFile path => "[Errno 20] Not a directory: " ++ Text.quoted path

/-- Errors of the network itself. -/
def isTransport : Error → Bool
  | location _ => true
  | network cause _ => cause.isTransport
  | _ => false

end Error

end Courier
