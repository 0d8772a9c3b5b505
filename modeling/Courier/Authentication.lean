import Courier.Exchange.Send
import Courier.Json.Writer
import Courier.Language.Shown
import Courier.Model.Fields
import Courier.Response.Output

/-!
Authentication of requests: by name and password, by a token that is known, or by a token that is asked for with name
and password. A tag that names none of these means that requests go out as they are.
-/

namespace Courier

open Courier.Language Courier.Exchange

/-- The ways of authentication. -/
inductive Authentication
  | anonymous
  | basic
  | bearer
  | passwordGrant
  deriving DecidableEq, Repr

namespace Authentication

/-- The tag of a way of authentication. -/
def tag : Authentication → String
  | anonymous => "NONE"
  | basic => "BASIC"
  | bearer => "OAUTH2_BEARER"
  | passwordGrant => "OAUTH2_PASSWORD"

/-- The ways of authentication that have a tag of their own. -/
def all : List Authentication := [anonymous, basic, bearer, passwordGrant]

/-- The way of authentication that a tag names. -/
def ofTag (name : Option String) : Authentication := (all.find? fun a => some a.tag == name).getD anonymous

/-- The request for a token. -/
def tokenRequest (c : Credentials) : Request where
  method := "POST"
  url := c.url.getD ""
  headers := [("Accept", "application/json")]
  body := Json.write Json.asciiLine (.object [("username", optionalText c.username),
    ("password", optionalText c.password), ("grant_type", .text "password"), ("client_id", optionalText c.clientId),
    ("client_secret", optionalText c.clientSecret)])
  bodyType := some formType

/-- The text of a token. -/
def tokenText (v : Value) : Except Error String := v.toText.mapError .fault

/-- The token in the output of a request for one. -/
def tokenOf (response : Response) (c : Credentials) : Except Error String := do
  let output ← response.extract .none []
  let token := match output with
    | .map _ entries => match Value.lookup (.newText "response") entries with
      | some (.map _ inner) => Value.lookup (.newText "access_token") inner
      | _ => none
    | _ => none
  match token with
  | some v => tokenText v
  | none => throw (.noToken response.status c.url)

/-- The value of the authorization header, if there is to be one. -/
def authorization (a : Authentication) (c : Credentials) : Online (Option String) :=
  match a with
  | anonymous => return none
  | basic => do
    let pair := c.username.getD "" ++ ":" ++ c.password.getD ""
    let bytes ← Online.lift ((Text.utf8 pair).mapError .encoding)
    return some ("Basic " ++ Text.Base64.encode bytes)
  | bearer => return some ("Bearer " ++ c.token.getD "")
  | passwordGrant => do
    let response ← send (tokenRequest c)
    return some ("Bearer " ++ (← Online.lift (tokenOf response c)))

/-- The request with its authorization. Without credentials it stays as it is. -/
def apply (a : Authentication) (r : Request) (credentials : Option Credentials) : Online Request :=
  match credentials with
  | none => return r
  | some c => do
    match ← authorization a c with
    | none => return r
    | some value => return r.withHeader "Authorization" value

end Authentication

end Courier
