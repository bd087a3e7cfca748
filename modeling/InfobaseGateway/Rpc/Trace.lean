import InfobaseGateway.Log
import InfobaseGateway.Rpc.Target
import InfobaseGateway.Text.Encoding

/-!
# Request ids

Every request is traced in a span under an id. The id that the caller gave is kept if it can be
shown; otherwise a new one takes the place of all that were given, so the span and the service
behind it always see the same id.
-/

namespace InfobaseGateway

namespace HeaderValue

/-- Whether a byte may stand in the value of a header: control characters may not, except for
tabs. -/
def isAllowed (b : UInt8) : Bool :=
  b = 0x09 || 0x20 ≤ b && b ≠ 0x7f

/-- Whether a byte can be shown: visible ASCII, a space or a tab. -/
def isShown (b : UInt8) : Bool :=
  b = 0x09 || 0x20 ≤ b && b < 0x7f

end HeaderValue

/-- The value of a header. -/
structure HeaderValue where
  bytes : List UInt8
  allowed : bytes.all HeaderValue.isAllowed = true
  deriving DecidableEq

namespace HeaderValue

/-- The value that holds a text. -/
def ofText? (text : String) : Option HeaderValue :=
  if h : (utf8Bytes text).all isAllowed = true then some ⟨utf8Bytes text, h⟩ else none

/-- The text of a value, if all of its bytes can be shown. -/
def text? (value : HeaderValue) : Option String :=
  if value.bytes.all isShown then textOfUtf8? value.bytes else none

end HeaderValue

/-- The headers of a request. A name can come more than once, and the order of its values matters;
the order of names does not. -/
abbrev Headers := List (String × HeaderValue)

namespace Headers

/-- Whether two names are the same header. Case does not matter in names. -/
def sameName (name other : String) : Bool :=
  name.toList.map Char.toLower = other.toList.map Char.toLower

/-- All values of a header, in order. -/
def values (headers : Headers) (name : String) : List HeaderValue :=
  (headers.filter fun entry => sameName name entry.1).map (·.2)

def first? (headers : Headers) (name : String) : Option HeaderValue :=
  (headers.values name).head?

/-- The headers with other names. -/
def others (headers : Headers) (name : String) : Headers :=
  headers.filter fun entry => !sameName name entry.1

/-- The headers with one value in place of all that a name had. -/
def insert (headers : Headers) (name : String) (value : HeaderValue) : Headers :=
  headers.others name ++ [(name, value)]

end Headers

/-- A request: where it goes, its headers and its body. -/
structure HttpRequest (β : Type) where
  target : Target
  headers : Headers
  body : β

/-- A span: its name and its fields. -/
structure Span where
  name : String
  fields : EventFields
  deriving DecidableEq

namespace RequestId

/-- The header that carries the id of a request. -/
def header : String :=
  "x-request-id"

/-- The id that a request gives, if it can be kept. Only the first one counts. -/
def given? (headers : Headers) : Option String :=
  ((headers.first? header).bind HeaderValue.text?).filter fun id => id ≠ ""

/-- The id of a request, and the headers that the service behind the span sees; `fresh` is a new id
for requests without a usable one. -/
def assign (fresh : String) (headers : Headers) : String × Headers :=
  match given? headers with
  | some id => (id, headers)
  | none =>
    match HeaderValue.ofText? fresh with
    | some value => (fresh, headers.insert header value)
    | none => (fresh, headers)

/-- The span of a request. -/
def span (path id : String) : Span :=
  ⟨"grpc_request",
    [("otel.name", "Request " ++ path), ("grpc.method", path), ("request_id", id)]⟩

/-- A service behind the span of each of its requests; `fresh` is the new id for this request. Spans
come out in the order in which they are opened. -/
def traced {α β : Type} (fresh : String) (inner : HttpRequest β → List Span × α)
    (request : HttpRequest β) : List Span × α :=
  let (id, headers) := assign fresh request.headers
  let (spans, answer) := inner { request with headers := headers }
  (span request.target.path id :: spans, answer)

end RequestId

end InfobaseGateway
