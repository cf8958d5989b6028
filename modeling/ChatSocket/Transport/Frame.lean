/-!
# Frames

What a transport carries, one at a time and in order.
-/

set_option autoImplicit false

namespace ChatSocket

/-- Why one side closes a transport. -/
structure CloseReason where
  code : UInt16
  reason : String
  deriving DecidableEq, Repr

namespace CloseReason

def normal : CloseReason := ⟨1000, ""⟩

def goingAway : CloseReason := ⟨1001, ""⟩

/-- A side that is dropped without a word is going away. -/
def default : CloseReason := goingAway

def protocolError (reason : String) : CloseReason := ⟨1002, reason⟩

end CloseReason

/-- Texts and bytes carry packets.  The others belong to the transport itself. -/
inductive Frame where
  | text (text : String)
  | binary (bytes : List UInt8)
  | ping (bytes : List UInt8)
  | pong (bytes : List UInt8)
  | close (reason : Option CloseReason)
  deriving DecidableEq, Repr

namespace Frame

def kind : Frame → String
  | .text _ => "text"
  | .binary _ => "binary"
  | .ping _ => "ping"
  | .pong _ => "pong"
  | .close _ => "close"

def isClose : Frame → Bool
  | .close _ => true
  | _ => false

end Frame

end ChatSocket
