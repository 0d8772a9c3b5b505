import Courier.Mapping
import Courier.Schema

/-!
What a connector is made of: endpoints whose texts are templates, rules that carry data into a request and out of a
response, credentials, and the requests and responses themselves.
-/

namespace Courier

open Courier.Schema

/-- The stages of a request, each of which has rules of its own. -/
inductive Stage
  | param
  | header
  | body
  deriving DecidableEq, Repr

namespace Stage

/-- The words for the stages. -/
def words : List (String × Stage) := [("PARAM", param), ("HEADER", header), ("BODY", body)]

end Stage

/-- A header or a query parameter that an endpoint declares. -/
structure EndpointParameter where
  key : String
  value : String
  required : Bool
  type : String
  deriving DecidableEq, Repr

/-- An endpoint. All its texts are templates. -/
structure Endpoint where
  method : String
  url : String
  headers : List EndpointParameter
  params : List EndpointParameter
  body : String
  bodyType : Option String
  deriving DecidableEq, Repr

/-- A rule: a name, and the value that is computed for it. -/
structure Rule where
  key : String
  value : String
  format : Option Mapping.Format
  deriving DecidableEq, Repr

/-- The format that the value of a rule is read in. -/
def Rule.resolvedFormat (r : Rule) : Mapping.Format := Mapping.formatOf r.format r.value

/-- A rule that puts a value into the data of a stage. -/
structure OutboundRule extends Rule where
  stage : Stage
  deriving DecidableEq, Repr

/-- Credentials. Which of them matter depends on the way of authentication. -/
structure Credentials where
  username : Option String
  password : Option String
  token : Option String
  clientId : Option String
  clientSecret : Option String
  url : Option String
  verifyCertificate : Option Bool
  extra : List (String × Document)

/-- A source of data: named endpoints, and how to authenticate. -/
structure DataSource where
  endpoints : List (String × Endpoint)
  authType : Option String
  credentials : Option Credentials

/-- A call: which endpoint, and how data flows in and out. -/
structure Call where
  endpoint : String
  outbound : Option (List OutboundRule)
  inbound : Option (List Rule)
  queryString : Option String

/-- The outbound rules of a stage. -/
def Call.outboundFor (c : Call) (stage : Stage) : List OutboundRule :=
  (c.outbound.getD []).filter fun r => r.stage == stage

/-- A request with all its texts rendered. -/
structure Request where
  method : String
  url : String
  headers : List (String × String)
  body : String
  bodyType : Option String
  deriving DecidableEq, Repr

/-- The request with a header set. A header of that very name keeps its place. -/
def Request.withHeader (r : Request) (name value : String) : Request :=
  { r with headers := putEntry name value r.headers }

/-- A response as it was received. -/
structure Response where
  status : Int
  body : String
  headers : List (String × List String)
  deriving DecidableEq, Repr

/-! ### Reading -/

/-- The words for the formats. -/
def Mapping.Format.words : List (String × Mapping.Format) :=
  [(Mapping.Format.formula.word, .formula), (Mapping.Format.template.word, .template)]

namespace EndpointParameter

/-- Reads a declared header or parameter. -/
def read : Document → Checked EndpointParameter := model "EndpointParam" fun es =>
  mk <$> Schema.required es "key" text <*> optional es "value" text "" <*> optional es "required" bool false <*>
    optional es "type" text "string"

end EndpointParameter

namespace Endpoint

/-- Reads an endpoint. -/
def read : Document → Checked Endpoint := model "EndpointDefinition" fun es =>
  mk <$> optional es "method" text "GET" <*> required es "url" text <*>
    optional es "headers" (list EndpointParameter.read) [] <*>
    optional es "params" (list EndpointParameter.read) [] <*> optional es "body" text "" <*>
    optional es "body_type" (nullable text) none

end Endpoint

namespace Rule

/-- Reads the fields of a rule. -/
def readFields (es : List (String × Document)) : Checked Rule :=
  mk <$> required es "key" text <*> optional es "value" text "" <*>
    optional es "format" (nullable (among Mapping.Format.words)) none

/-- Reads a rule for a response. -/
def read : Document → Checked Rule := model "InboundMappingRule" readFields

end Rule

namespace OutboundRule

/-- Reads a rule for a request. -/
def read : Document → Checked OutboundRule := model "OutboundMappingRule" fun es =>
  mk <$> Rule.readFields es <*> required es "type" (among Stage.words)

end OutboundRule

namespace Credentials

/-- The names of the fields that are known. -/
def fieldNames : List String :=
  ["username", "password", "token", "client_id", "client_secret", "url", "verify_certificate"]

/-- Reads credentials. Entries of other names are kept. -/
def read : Document → Checked Credentials := model "Credentials" fun es =>
  let field (name : String) : Checked (Option String) := optional es name (nullable text) none
  mk <$> field "username" <*> field "password" <*> field "token" <*> field "client_id" <*> field "client_secret" <*>
    field "url" <*> optional es "verify_certificate" (nullable bool) none <*>
    .valid (es.filter fun (n, _) => !fieldNames.contains n)

end Credentials

namespace DataSource

/-- Reads a source of data. -/
def read : Document → Checked DataSource := model "DataSource" fun es =>
  mk <$> optional es "endpoints" (object Endpoint.read) [] <*> optional es "authtype" (nullable text) none <*>
    optional es "credentials" (nullable Credentials.read) none

end DataSource

namespace Call

/-- Reads a call. -/
def read : Document → Checked Call := model "ConnectorConfig" fun es =>
  mk <$> required es "endpoint" text <*>
    renamed es "outboundConfig" "outbound_config" (nullable (list OutboundRule.read)) none <*>
    renamed es "dataMapping" "data_mapping" (nullable (list Rule.read)) none <*>
    renamed es "queryString" "query_string" (nullable text) none

end Call

namespace Request

/-- Reads a request. -/
def read : Document → Checked Request := model "RequestContext" fun es =>
  mk <$> required es "method" text <*> required es "url" text <*> optional es "headers" (object text) [] <*>
    optional es "body" text "" <*> optional es "body_type" (nullable text) none

end Request

namespace Response

/-- Reads a response. -/
def read : Document → Checked Response := model "ResponseContext" fun es =>
  mk <$> required es "status" integer <*> optional es "body" text "" <*>
    optional es "headers" (object (list text)) []

end Response

end Courier
