import ChatSocket.Client.Options
import ChatSocket.Session
import ChatSocket.Text.Blank

/-!
# Clients

A client holds what all its connections have in common: the options and the name
it goes by.
-/

set_option autoImplicit false

namespace ChatSocket

structure Client where
  options : ConnectOptions
  userAgent : String
  deriving DecidableEq, Repr

namespace Client

def defaultUserAgent : String := "cognigy-client/0.1.0"

/-- A name must show something. -/
def checkUserAgent : Option String → Except Error String
  | none => .ok defaultUserAgent
  | some agent =>
      if Text.isBlank agent then
        .error (.config "User agent must not be empty. Omit .user_agent() to use the default.")
      else .ok agent

/-- A client with the given options, under the given or the default name. -/
def create (options : ConnectOptions) (userAgent : Option String) : Except Error Client := do
  options.validate
  return ⟨options, ← checkUserAgent userAgent⟩

/-! ## Dialing -/

/-- Characters that no header of a request holds: the controls, except for the tab. -/
def isHeaderControl (c : Char) : Bool := (c.toNat < 0x20 && c != '\t') || c.toNat == 0x7f

def maxUrlSize : Nat := 0xfffe

/-- Characters that a URL lets stand in a host and a request does not. -/
def isRefusedInHost (c : Char) : Bool := ['"', '\x60', '\x7b', '\x7d'].contains c

def checkUrl (url : Url) : Except Error Unit :=
  if maxUrlSize < url.write.utf8ByteSize then .error (.webSocket .uriTooLong)
  else if url.authority.any (·.host.write.any isRefusedInHost) then
    .error (.webSocket .invalidUriCharacter)
  else .ok ()

/-- What a client asks for when it dials. -/
structure Request where
  url : Url
  userAgent : String
  deriving DecidableEq, Repr

/-- The request that opens the socket of a session. -/
def request (client : Client) (session : Session) (options : ConnectOptions) :
    Except Error Request := do
  options.validate
  let url ← session.resolveSocket
  checkUrl url
  if client.userAgent.toList.any isHeaderControl then
    throw (.config ("invalid user agent " ++ Text.quoted client.userAgent ++
      ": failed to parse header value"))
  return ⟨url, client.userAgent⟩

end Client

end ChatSocket
