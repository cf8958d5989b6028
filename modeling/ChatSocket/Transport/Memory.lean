import ChatSocket.Error
import ChatSocket.Transport.Frame
import ChatSocket.Transport.Poll

/-!
# Transports within one process

A client and a peer joined by two queues of frames, one for each direction.  The
client closes the pair once; from then on it neither sends nor receives.  The
peer may disconnect, which ends what the client receives after the frames that
are queued already.  A side that is dropped takes the frames queued for it along.
-/

set_option autoImplicit false

namespace ChatSocket

structure MemoryPair where
  /-- Frames on their way to the peer. -/
  toPeer : List Frame
  /-- Frames on their way to the client. -/
  toClient : List Frame
  /-- Whether the client has closed. -/
  closed : Bool
  clientGone : Bool
  peerGone : Bool
  /-- Whether the peer has stopped sending. -/
  disconnected : Bool
  deriving DecidableEq, Repr

namespace MemoryPair

def create : MemoryPair := ⟨[], [], false, false, false, false⟩

/-! ## Client -/

def send (frame : Frame) (pair : MemoryPair) : Except Error Unit × MemoryPair :=
  if pair.closed || pair.peerGone then (.error .connectionClosed, pair)
  else (.ok (), { pair with toPeer := pair.toPeer ++ [frame] })

/-- Frames arrive when they are sent, so there is never anything to flush. -/
def flush (pair : MemoryPair) : Except Error Unit × MemoryPair := (.ok (), pair)

def receive (pair : MemoryPair) : Poll Frame × MemoryPair :=
  if pair.closed then (.ended, pair)
  else
    match pair.toClient with
    | frame :: rest => (.ready frame, { pair with toClient := rest })
    | [] => (if pair.disconnected || pair.peerGone then .ended else .pending, pair)

/-- Only the first close tells the peer, if there still is one. -/
def close (reason : CloseReason) (pair : MemoryPair) : Except Error Unit × MemoryPair :=
  if pair.closed then (.ok (), pair)
  else
    let toPeer := if pair.peerGone then pair.toPeer else pair.toPeer ++ [.close (some reason)]
    (.ok (), { pair with closed := true, toPeer })

def dropClient (pair : MemoryPair) : MemoryPair :=
  { pair with clientGone := true, toClient := [] }

/-! ## Peer -/

def peerSend (frame : Frame) (pair : MemoryPair) : Except Error Unit × MemoryPair :=
  if pair.disconnected || pair.clientGone then (.error .connectionClosed, pair)
  else (.ok (), { pair with toClient := pair.toClient ++ [frame] })

def peerReceive (pair : MemoryPair) : Poll Frame × MemoryPair :=
  match pair.toPeer with
  | frame :: rest => (.ready frame, { pair with toPeer := rest })
  | [] => (if pair.clientGone then .ended else .pending, pair)

/-- Takes a frame only if there is one. -/
def peerTryReceive (pair : MemoryPair) : Option Frame × MemoryPair :=
  match pair.toPeer with
  | frame :: rest => (some frame, { pair with toPeer := rest })
  | [] => (none, pair)

def disconnect (pair : MemoryPair) : MemoryPair := { pair with disconnected := true }

def dropPeer (pair : MemoryPair) : MemoryPair :=
  { pair with peerGone := true, disconnected := true, toPeer := [] }

end MemoryPair

end ChatSocket
