import ChatSocket.Error
import ChatSocket.Event.Input
import ChatSocket.Url.Form
import ChatSocket.Url.Parser

/-!
# Sessions

A session says who talks to which endpoint.  Its endpoint is a URL of the web;
the socket of the endpoint has the same URL in the socket scheme that belongs to
it, with a fixed path and the identity of the session in the query.
-/

set_option autoImplicit false

namespace ChatSocket

/-- The socket scheme that belongs to a scheme of the web. -/
def socketScheme? : String → Option String
  | "http" => some "ws"
  | "https" => some "wss"
  | _ => none

structure Session where
  id : SessionId
  endpoint : Url
  token : EndpointToken
  user : UserId
  channel : Option ChannelName
  source : Source
  passthroughIp : Option String
  testMode : Bool
  /-- The scheme of the socket. -/
  scheme : String
  scheme_eq : socketScheme? endpoint.scheme = some scheme

namespace Session

/-- What is wrong with an endpoint whose scheme has no socket scheme. -/
def schemeRefused (endpoint : Url) : Error :=
  .invalidEndpoint endpoint.write ("protocol must be http or https, got " ++ endpoint.scheme)

/-- A session at an endpoint whose scheme has a socket scheme.  Everything else
about it can be set later. -/
def ofUrl (id : SessionId) (endpoint : Url) (token : EndpointToken) (user : UserId) :
    Except Error Session :=
  match found : socketScheme? endpoint.scheme with
  | some scheme =>
      .ok {
        id, endpoint, token, user, scheme
        channel := none
        source := Source.device
        passthroughIp := none
        testMode := false
        scheme_eq := found }
  | none => .error (schemeRefused endpoint)

def create (id : SessionId) (endpoint : String) (token : EndpointToken) (user : UserId) :
    Except Error Session := do
  let url ← (Url.parse endpoint).mapError .url
  ofUrl id url token user

/-! ## Socket -/

/-- The pairs that tell the endpoint who connects. -/
def parameters (session : Session) : List (String × String) := [
  ("EIO", "3"),
  ("transport", "websocket"),
  ("urlToken", session.token.text),
  ("sessionId", session.id.text),
  ("userId", session.user.text),
  ("testMode", if session.testMode then "true" else "false")]

/-- The place of the socket at a URL, with the pairs behind the URL's own query. -/
def socketAt (session : Session) (url : Url) : Url :=
  { url with
    path := .segments ["socket.io".toList, []]
    query := some (Url.Form.append (url.query.getD []) session.parameters) }

/-- Where the socket of the endpoint is. -/
def socketUrl (session : Session) : Url :=
  session.socketAt { session.endpoint with scheme := session.scheme }

/-- The URL of the socket, found from the endpoint alone.  The endpoint may have no socket
scheme, or may not let its scheme be changed. -/
def resolveSocket (session : Session) : Except Error Url :=
  match socketScheme? session.endpoint.scheme with
  | none => .error (schemeRefused session.endpoint)
  | some scheme =>
      match session.endpoint.setScheme? scheme with
      | none => .error (.invalidEndpoint session.endpoint.write ("cannot switch to " ++ scheme))
      | some url => .ok (session.socketAt url)

/-! ## Input -/

/-- What the user says in this session. -/
def processInput (session : Session) (text : Option String) (data : Option Json)
    (flags : ResetFlags) : ProcessInput where
  token := session.token
  user := session.user
  session := session.id
  channel := session.channel
  source := session.source
  passthroughIp := session.passthroughIp
  flags := flags
  text := text
  data := data

end Session

end ChatSocket
