import Courier.Number.Layout
import Courier.Number.Reading
import Courier.Document
import Courier.Text.Property
import Courier.Text.Quoted

/-!
Settings: where URLs without a host lead, how long to wait, whether certificates are checked and how much is logged.
They come from variables of the environment, and each of them has a default.
-/

namespace Courier

/-- The settings of calls. Times are in seconds. -/
structure Settings where
  appUrl : String
  connectTimeout : Float
  readTimeout : Float
  verifyCertificates : Bool
  logLevel : String

namespace Settings

/-- The settings without any environment. -/
def standard : Settings := ⟨"http://localhost", 10.0, 30.0, true, "INFO"⟩

/-- Whether a character is a slash. -/
def isSlash (c : Char) : Bool := c == '/'

/-- The URL of a path of the application. One slash stands between the two, whatever slashes they have there. -/
def urlOf (s : Settings) (path : String) : String :=
  Text.dropTrailing isSlash s.appUrl ++ "/" ++ Text.dropLeading isSlash path

/-- A variable that holds no number. -/
structure BadNumber where
  text : String
  deriving DecidableEq, Repr

/-- The wording of a variable that holds no number. -/
def BadNumber.message (b : BadNumber) : String := "could not convert string to float: " ++ Text.quoted b.text

/-- The number in a variable. -/
def number (environment : List (String × String)) (name : String) (default : Float) : Except BadNumber Float :=
  match entryOf? name environment with
  | none => .ok default
  | some s => match Number.readFloat? s with
    | some x => .ok x
    | none => .error ⟨s⟩

/-- The settings that variables of the environment give. Certificates are checked only if the variable is `1`. -/
def ofVariables (environment : List (String × String)) : Except BadNumber Settings := do
  let connectTimeout ← number environment "RB_CONNECT_TIMEOUT" standard.connectTimeout
  let readTimeout ← number environment "RB_READ_TIMEOUT" standard.readTimeout
  return {
    appUrl := (entryOf? "RB_APP_URL" environment).getD standard.appUrl
    connectTimeout
    readTimeout
    verifyCertificates := (entryOf? "RB_VERIFY_SSL" environment).getD "1" == "1"
    logLevel := (entryOf? "RB_LOG_LEVEL" environment).getD standard.logLevel }

end Settings

end Courier
