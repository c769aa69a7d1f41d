import RouteMatch.Text.Latin
import RouteMatch.Value.Access

/-!
# Request attributes

Of a request only a few attributes take part in matching: its method, whether it
came over a secure connection, the media types it accepts, and the variables of
its environment.  They are given one by one, or taken from an environment, or
from the scope of a connection.

## Main definitions

* `Attributes` — the attributes of a request.
* `Attributes.isSecure` — whether the connection was secure.
* `Attributes.ofEnvironment` — the attributes in an environment.
* `Scope`, `Attributes.ofScope` — the attributes in a connection scope.
-/

namespace RouteMatch

/-- The attributes of a request. -/
structure Attributes where
  method : Value := .text "GET"
  /-- The indicator of a secure connection. -/
  https : Value := .none
  port : Value := .none
  /-- The media types that are accepted. -/
  accept : Value := .none
  /-- The variables of the environment. -/
  server : Entries Value Value := []
  deriving Repr

namespace Attributes

/-- The port of secure connections. -/
def securePort : Value := .int 443

/-- Whether a text is `on` in any case. -/
def isOn (text : List Char) : Bool :=
  text.map Char.toLower == ['o', 'n']

/-- Whether the connection was secure: the indicator says `on`, or the port is
that of secure connections. -/
def isSecure (a : Attributes) : Except Failure Bool :=
  match a.https with
  | .none => .ok (a.port == securePort)
  | .text s => .ok (isOn s.toList || a.port == securePort)
  | v => .error (.noAttribute v.kind "lower")

/-- The value under a name in an environment. -/
def named? (environment : Entries Value Value) (name : String) : Option Value :=
  environment.get? (.text name)

/-- The port that a value stands for; none if it stands for no integer. -/
def portOf (v : Value) : Except Failure Value :=
  match v with
  | .none => .ok .none
  | v =>
    match v.toInteger with
    | .ok i => .ok (.int i)
    | .error .integerOfInfinity => .error .integerOfInfinity
    | .error _ => .ok .none

/-- Whether a value is a text. -/
def isText : Value → Bool
  | .text _ => true
  | _ => false

/-- The attributes in an environment.  Its variables are those entries that are
texts. -/
def ofEnvironment (environment : Entries Value Value) : Except Failure Attributes :=
  let get := named? environment
  (portOf ((get "SERVER_PORT").getD .none)).map fun port =>
    { method := (get "REQUEST_METHOD").getD (.text "GET")
      https := (get "HTTPS").getD .none
      port := port
      accept := (get "HTTP_ACCEPT").getD .none
      server := environment.filter fun entry => isText entry.2 }

end Attributes

/-- The scope of a connection.  Bytes are written as characters below
`U+0100`. -/
structure Scope where
  /-- The headers in order of appearance. -/
  headers : List (List Char × List Char)
  /-- The query part of the address. -/
  query : List Char
  /-- All other entries. -/
  entries : Entries Value Value
  deriving Repr

namespace Scope

/-- Puts a header under its name in lower case, after the value of an earlier
header of that name and a comma. -/
def addHeader (headers : Entries (List Char) (List Char)) (header : List Char × List Char) :
    Entries (List Char) (List Char) :=
  let name := header.1.map Text.latinLower
  headers.insert name <|
    match headers.get? name with
    | none => header.2
    | some earlier => earlier ++ ',' :: header.2

/-- The headers by their names in lower case, the values of repeated ones joined
with commas. -/
def headerValues (headers : List (List Char × List Char)) : Entries (List Char) (List Char) :=
  headers.foldl addHeader []

/-- The name of the variable that holds a header: in upper case with underscores
for hyphens, after `HTTP_` unless the header describes the content. -/
def variableName (header : List Char) : List Char :=
  let name := (header.flatMap Text.latinUpper).map fun c => if c = '-' then '_' else c
  if name = "CONTENT_TYPE".toList ∨ name = "CONTENT_LENGTH".toList then name
  else "HTTP_".toList ++ name

/-- An entry of the scope, or a value that stands for its absence. -/
def getD (s : Scope) (name : String) (absent : Value) : Value :=
  (s.entries.get? (.text name)).getD absent

/-- The port of the server, if it is known. -/
def port (s : Scope) : Except Failure Value :=
  let server := s.getD "server" .none
  if server.isTrue then
    match server.item 1 with
    | .error failure => .error failure
    | .ok .none => .ok .none
    | .ok v => v.toInteger.map .int
  else .ok .none

/-- The text of a port, unless the port is not known. -/
def portText : Value → Except Failure (Option String)
  | .number (.int i) => (Value.integerText i).map some
  | _ => .ok none

/-- The first item of an address as text, unless the address is empty. -/
def host? (address : Value) : Except Failure (Option String) :=
  if address.isTrue then
    match address.item 0 with
    | .error failure => .error failure
    | .ok v => v.toText.map some
  else .ok none

/-- The name of the protocol with its version. -/
def protocol (s : Scope) : Except Failure String :=
  (s.getD "http_version" (.text "1.1")).toText.map ("HTTP/" ++ ·)

/-- Whether the connection is secure. -/
def isSecure (s : Scope) : Bool :=
  let scheme := s.getD "scheme" (.text "http")
  scheme == .text "https" || scheme == .text "wss"

/-- A variable, unless it has no value. -/
def optional (name : String) (value : Option String) : List (Value × Value) :=
  match value with
  | none => []
  | some v => [(.text name, .text v)]

/-- The variables that do not come from headers, in order. -/
def connectionVariables (s : Scope) (protocol : String) (server port client : Option String) :
    List (Value × Value) :=
  [(.text "REQUEST_METHOD", s.getD "method" (.text "GET")),
    (.text "SCRIPT_NAME", s.getD "root_path" (.text "")),
    (.text "PATH_INFO", s.getD "path" (.text "")),
    (.text "QUERY_STRING", .text (String.ofList s.query)),
    (.text "SERVER_PROTOCOL", .text protocol)]
    ++ optional "SERVER_NAME" server
    ++ optional "SERVER_PORT" port
    ++ optional "REMOTE_ADDR" client
    ++ optional "HTTPS" (if s.isSecure then some "on" else none)

/-- The variables that come from headers, in order. -/
def headerVariables (headers : Entries (List Char) (List Char)) : List (Value × Value) :=
  headers.map fun (name, value) =>
    (.text (String.ofList (variableName name)), .text (String.ofList value))

end Scope

/-- The attributes in a connection scope. -/
def Attributes.ofScope (s : Scope) : Except Failure Attributes :=
  let headers := Scope.headerValues s.headers
  match s.port with
  | .error failure => .error failure
  | .ok port =>
    match s.protocol, Scope.host? (s.getD "server" .none), Scope.portText port,
      Scope.host? (s.getD "client" .none) with
    | .error failure, _, _, _ | _, .error failure, _, _ | _, _, .error failure, _
    | _, _, _, .error failure => .error failure
    | .ok protocol, .ok server, .ok portText, .ok client =>
      .ok
        { method := s.getD "method" (.text "GET")
          https := if s.isSecure then .text "on" else .none
          port := port
          accept := match headers.get? "accept".toList with
            | none => .none
            | some value => .text (String.ofList value)
          server := Entries.update (s.connectionVariables protocol server portText client)
            (Scope.headerVariables headers) }

end RouteMatch
