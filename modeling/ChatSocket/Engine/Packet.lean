import ChatSocket.Engine.Open
import ChatSocket.Transport.Frame

/-!
# Engine packets

The outer layer of the conversation.  A text frame starts with a digit that
names the kind of packet; a binary frame is a packet of its own kind.  Frames
that belong to the transport carry no packet.  Decoding never fails: what cannot
be read is a `broken` packet that keeps the whole text.
-/

set_option autoImplicit false

namespace ChatSocket.Engine

inductive Packet where
  | opening (data : Open)
  | close
  | ping
  | pong
  | message (payload : String)
  | binary (bytes : List UInt8)
  | upgrade
  | noop
  | broken (raw reason : String) (cause : Option String)
  deriving DecidableEq, Repr

namespace Packet

def isBroken : Packet → Bool
  | .broken .. => true
  | _ => false

/-! ## Decoding -/

def decodeOpening (text : String) (body : List Char) : Packet :=
  match Open.parse (String.ofList body) with
  | .ok data => .opening data
  | .error fault => .broken text "broken json in open packet" fault.message

/-- The packet that a text holds.  Heartbeats carry a body of no meaning. -/
def decodeText (text : String) : Packet :=
  match text.toList with
  | [] => .broken text "empty message" none
  | '0' :: body => decodeOpening text body
  | '1' :: _ => .close
  | '2' :: _ => .ping
  | '3' :: _ => .pong
  | '4' :: body => .message (String.ofList body)
  | '5' :: _ => .upgrade
  | '6' :: _ => .noop
  | other :: _ => .broken text ("unknown packet type: " ++ other.toString) none

def decode? : Frame → Option Packet
  | .text text => some (decodeText text)
  | .binary bytes => some (.binary bytes)
  | .ping _ | .pong _ | .close _ => none

/-! ## Encoding -/

/-- The body of every heartbeat that is sent. -/
def probe : String := "probe"

def encode : Packet → Frame
  | .opening data => .text ("0" ++ data.write)
  | .close => .text "1"
  | .ping => .text ("2" ++ probe)
  | .pong => .text ("3" ++ probe)
  | .message payload => .text ("4" ++ payload)
  | .binary bytes => .binary bytes
  | .upgrade => .text "5"
  | .noop => .text "6"
  | .broken raw _ _ => .text raw

theorem decode?_encode_message (payload : String) :
    decode? (encode (.message payload)) = some (.message payload) := by
  simp [encode, decode?, decodeText]

end Packet

end ChatSocket.Engine
