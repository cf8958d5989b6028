import ChatSocket.Json.Fault
import ChatSocket.Url.Fault

/-!
# Errors

Each error is a cause with what is known about it; `message` gives its wording.
The classes group errors by what a caller may do about them.
-/

set_option autoImplicit false

namespace ChatSocket

/-- What goes wrong in a WebSocket. -/
inductive WebSocketFault where
  | connectionClosed
  | alreadyClosed
  | attackAttempt
  | sendAfterClosing
  | receivedAfterClosing
  | resetWithoutClosing
  | controlFrameTooBig
  | invalidUriCharacter
  | uriTooLong
  | io (text : String)
  deriving DecidableEq, Repr

def WebSocketFault.message : WebSocketFault → String
  | .connectionClosed => "Connection closed normally"
  | .alreadyClosed => "Trying to work with closed connection"
  | .attackAttempt => "Attack attempt detected"
  | .sendAfterClosing => "WebSocket protocol error: Sending after closing is not allowed"
  | .receivedAfterClosing => "WebSocket protocol error: Remote sent after having closed"
  | .resetWithoutClosing =>
      "WebSocket protocol error: Connection reset without closing handshake"
  | .controlFrameTooBig =>
      "WebSocket protocol error: Control frame too big (payload must be 125 bytes or less)"
  | .invalidUriCharacter => "HTTP format error: invalid uri character"
  | .uriTooLong => "HTTP format error: uri too long"
  | .io text => "IO error: " ++ text

inductive Error where
  | config (text : String)
  | invalidEndpoint (endpoint text : String)
  | earlyDisconnect
  | connectTimeout (millis : Nat)
  | connectRejected (text : String)
  | pingTimeout (millis : Nat)
  | pongTimeout (millis : Nat)
  | protocol (text : String)
  | decode (text : String)
  | unsupported (text : String)
  | connectionClosed
  | cancelled (reason : String)
  | io (text : String)
  | json (fault : Json.TextFault)
  | webSocket (fault : WebSocketFault)
  | url (fault : Url.Fault)
  deriving DecidableEq, Repr

namespace Error

def message : Error → String
  | .config text => "Configuration error: " ++ text
  | .invalidEndpoint endpoint text => "Invalid endpoint " ++ endpoint ++ ": " ++ text
  | .earlyDisconnect =>
      "The session got disconnected before receiving anything, check your configuration"
  | .connectTimeout millis =>
      "Connection could not be established within " ++ toString millis ++ "ms"
  | .connectRejected text => "Connect rejected by endpoint: " ++ text
  | .pingTimeout millis => "Ping could not be sent within " ++ toString millis ++ "ms"
  | .pongTimeout millis => "No pong received within " ++ toString millis ++ "ms"
  | .protocol text => "Protocol error: " ++ text
  | .decode text => "Decode error: " ++ text
  | .unsupported text => "Unsupported: " ++ text
  | .connectionClosed => "Connection closed"
  | .cancelled reason => "Connection cancelled: " ++ reason
  | .io text => "IO error: " ++ text
  | .json fault => "JSON error: " ++ fault.message
  | .webSocket fault => "WebSocket error: " ++ fault.message
  | .url fault => "URL error: " ++ fault.message

/-- A limit of time was exceeded. -/
def isTimeout : Error → Bool
  | .connectTimeout _ | .pingTimeout _ | .pongTimeout _ => true
  | _ => false

/-- The heartbeat found the connection dead. -/
def isHeartbeatFailure : Error → Bool
  | .pingTimeout _ | .pongTimeout _ => true
  | _ => false

/-- The connection was never established. -/
def isHandshakeError : Error → Bool
  | .earlyDisconnect | .connectTimeout _ | .connectRejected _ => true
  | _ => false

/-- The connection was lost or could not be had. -/
def isConnectionError : Error → Bool
  | .earlyDisconnect | .connectTimeout _ | .connectionClosed | .pingTimeout _ | .pongTimeout _
  | .io _ | .webSocket _ => true
  | _ => false

/-- One side said something that the other does not understand. -/
def isProtocolError : Error → Bool
  | .protocol _ | .decode _ | .unsupported _ => true
  | _ => false

end Error

end ChatSocket
