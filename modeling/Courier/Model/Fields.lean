import Courier.Model

/-!
Structures as documents of their fields, defaults included. What the reader drops is gone; everything else reads back.
-/

namespace Courier

/-- A text that may be missing. -/
def optionalText (s : Option String) : Document := s.elim .null .text

/-- The word for a stage. -/
def Stage.word : Stage → String
  | param => "PARAM"
  | header => "HEADER"
  | body => "BODY"

namespace EndpointParameter

/-- The fields of a declared header or parameter. -/
def toDocument (p : EndpointParameter) : Document :=
  .object [("key", .text p.key), ("value", .text p.value), ("required", .bool p.required), ("type", .text p.type)]

end EndpointParameter

namespace Endpoint

/-- The fields of an endpoint. -/
def toDocument (e : Endpoint) : Document :=
  .object [("method", .text e.method), ("url", .text e.url),
    ("headers", .list (e.headers.map EndpointParameter.toDocument)),
    ("params", .list (e.params.map EndpointParameter.toDocument)), ("body", .text e.body),
    ("body_type", optionalText e.bodyType)]

end Endpoint

namespace Rule

/-- The fields that all rules have. -/
def fields (r : Rule) : List (String × Document) :=
  [("key", .text r.key), ("value", .text r.value), ("format", optionalText (r.format.map (·.word)))]

/-- The fields of a rule for a response. -/
def toDocument (r : Rule) : Document := .object r.fields

end Rule

namespace OutboundRule

/-- The fields of a rule for a request. -/
def toDocument (r : OutboundRule) : Document := .object (r.fields ++ [("type", .text r.stage.word)])

end OutboundRule

namespace Credentials

/-- The fields of credentials, with the entries of other names behind them. -/
def toDocument (c : Credentials) : Document :=
  .object ([("username", optionalText c.username), ("password", optionalText c.password),
    ("token", optionalText c.token), ("client_id", optionalText c.clientId),
    ("client_secret", optionalText c.clientSecret), ("url", optionalText c.url),
    ("verify_certificate", c.verifyCertificate.elim .null .bool)] ++ c.extra)

end Credentials

namespace DataSource

/-- The fields of a source of data. -/
def toDocument (s : DataSource) : Document :=
  .object [("endpoints", .object (s.endpoints.map fun (name, e) => (name, e.toDocument))),
    ("authtype", optionalText s.authType), ("credentials", s.credentials.elim .null Credentials.toDocument)]

end DataSource

namespace Call

/-- The fields of a call. -/
def toDocument (c : Call) : Document :=
  .object [("endpoint", .text c.endpoint),
    ("outbound_config", c.outbound.elim .null fun rules => .list (rules.map OutboundRule.toDocument)),
    ("data_mapping", c.inbound.elim .null fun rules => .list (rules.map Rule.toDocument)),
    ("query_string", optionalText c.queryString)]

end Call

namespace Request

/-- The fields of a request. -/
def toDocument (r : Request) : Document :=
  .object [("method", .text r.method), ("url", .text r.url),
    ("headers", .object (r.headers.map fun (name, value) => (name, .text value))), ("body", .text r.body),
    ("body_type", optionalText r.bodyType)]

end Request

namespace Response

/-- The fields of a response. -/
def toDocument (r : Response) : Document :=
  .object [("status", .int r.status), ("body", .text r.body),
    ("headers", .object (r.headers.map fun (name, values) => (name, .list (values.map .text))))]

end Response

end Courier
