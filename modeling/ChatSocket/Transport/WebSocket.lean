import ChatSocket.Error
import ChatSocket.Transport.Frame
import ChatSocket.Transport.Poll

/-!
# WebSockets

Two sides of a WebSocket joined by a pipe.  A frame that is sent waits in a
buffer until the side flushes; a close frame flushes at once.  A ping is answered
by a pong and a close by a close of the same reason; such replies go out before
the side looks for the next frame.  A server that has answered a close is done,
while a client waits for the server to hang up.  A frame that comes after a close,
or a control frame with too long a body, is an error; after an error nothing more
is read, but frames may still be sent.
-/

set_option autoImplicit false

namespace ChatSocket.WebSocket

/-- How far the closing of one side has come. -/
inductive Phase where
  | active
  /-- This side sent a close frame. -/
  | closing
  /-- The other side sent a close frame. -/
  | closed
  /-- Both sides sent a close frame. -/
  | acknowledged
  | terminated
  deriving DecidableEq, Repr

def Phase.canRead : Phase → Bool
  | .active | .closing => true
  | _ => false

structure Side where
  isServer : Bool
  phase : Phase
  /-- Frames sent and not flushed. -/
  buffer : List Frame
  /-- A reply that goes out before anything is read. -/
  reply : Option Frame
  inbox : List Frame
  /-- Whether reading has failed, after which it only ends. -/
  exhausted : Bool
  deriving DecidableEq, Repr

def Side.create (isServer : Bool) : Side := ⟨isServer, .active, [], none, [], false⟩

structure Pair where
  client : Side
  server : Side
  serverGone : Bool
  deriving DecidableEq, Repr

def Pair.create : Pair := ⟨.create false, .create true, false⟩

def isAllowedCode (code : UInt16) : Bool :=
  let code := code.toNat
  (1000 ≤ code && code ≤ 1003) || (1007 ≤ code && code ≤ 1013) || (3000 ≤ code && code ≤ 4999)

/-- The reason with which a close is answered. -/
def sanitize (reason : CloseReason) : CloseReason :=
  if isAllowedCode reason.code then reason else .protocolError "Protocol violation"

/-- Bytes in the body of a control frame; frames that carry data have no limit. -/
def controlSize : Frame → Nat
  | .text _ | .binary _ | .close none => 0
  | .ping bytes | .pong bytes => bytes.length
  | .close (some reason) => 2 + reason.reason.utf8ByteSize

/-- The longest body of a control frame that is read. -/
def maxControlSize : Nat := 125

/-- The pipe was cut at the other end. -/
def brokenPipe : WebSocketFault := .io "broken pipe"

/-! ## One side

The functions take the side, and whether there is somebody at the other end, and
answer the frames that leave. -/

namespace Side

/-- A reply takes the place of a pong that was not sent, but not of a close. -/
def setReply (frame : Frame) (side : Side) : Side :=
  match side.reply with
  | some (.close _) => side
  | _ => { side with reply := some frame }

/-- Moves the reply into the buffer.  A server with nothing more to read is done. -/
def settle (side : Side) : Side :=
  let moved := { side with buffer := side.buffer ++ side.reply.toList, reply := none }
  if side.isServer && !side.phase.canRead then { moved with phase := .terminated } else moved

def flush (connected : Bool) (side : Side) : Except WebSocketFault (List Frame) × Side :=
  let settled := side.settle
  if settled.buffer.isEmpty then (.ok [], settled)
  else if connected then (.ok settled.buffer, { settled with buffer := [] })
  else (.error brokenPipe, settled)

/-- Sends a frame.  A close frame is written out at once, as is any frame while a
reply is due; any other waits. -/
def send (connected : Bool) (frame : Frame) (side : Side) :
    Except WebSocketFault (List Frame) × Side :=
  match side.phase with
  | .terminated => (.error .alreadyClosed, side)
  | .active =>
      match frame with
      | .close _ =>
          { side with phase := .closing, buffer := side.buffer ++ [frame] }.flush connected
      | .pong _ => (.ok [], (side.setReply frame).settle)
      | _ =>
          let waiting := { side with buffer := side.buffer ++ [frame] }
          if side.reply.isSome then waiting.flush connected else (.ok [], waiting)
  | _ => (.error .sendAfterClosing, side)

/-- Takes note of a frame that may be read. -/
def accept (frame : Frame) (side : Side) : Frame × Side :=
  match frame with
  | .ping bytes =>
      (frame, if side.phase = .active then side.setReply (.pong bytes) else side)
  | .close reason =>
      if side.phase = .active then
        let kept := reason.map sanitize
        (.close kept, { side with phase := .closed }.setReply (.close kept))
      else (frame, { side with phase := .acknowledged })
  | _ => (frame, side)

def refusal? (frame : Frame) (side : Side) : Option WebSocketFault :=
  if !side.phase.canRead then some .receivedAfterClosing
  else if maxControlSize < controlSize frame then some .controlFrameTooBig
  else none

/-- What the end of the pipe means. -/
def hangUp (side : Side) : Poll (Except WebSocketFault Frame) × Side :=
  let done := { side with phase := .terminated, exhausted := true }
  match side.phase with
  | .closed | .acknowledged | .terminated => (.ended, done)
  | _ => (.ready (.error .resetWithoutClosing), done)

def read (connected : Bool) (side : Side) : Poll (Except WebSocketFault Frame) × Side :=
  match side.inbox with
  | [] => if connected then (.pending, side) else side.hangUp
  | frame :: rest =>
      match side.refusal? frame with
      | some fault =>
          (.ready (.error fault), { side with inbox := rest, exhausted := true })
      | none =>
          let (frame, side) := accept frame { side with inbox := rest }
          (.ready (.ok frame), side)

/-- Receives a frame, after a reply that is due was written out. -/
def receive (connected : Bool) (side : Side) :
    List Frame × Poll (Except WebSocketFault Frame) × Side :=
  if side.exhausted then ([], .ended, side)
  else if side.phase = .terminated then ([], .ended, { side with exhausted := true })
  else if side.reply.isSome then
    match side.flush connected with
    | (.error error, side) => ([], .ready (.error error), { side with exhausted := true })
    | (.ok frames, side) =>
        if side.phase = .terminated then (frames, .ended, { side with exhausted := true })
        else
          let (result, side) := side.read connected
          (frames, result, side)
  else if side.isServer && !side.phase.canRead then
    ([], .ended, { side with phase := .terminated, exhausted := true })
  else
    let (result, side) := side.read connected
    ([], result, side)

end Side

/-! ## Both sides -/

namespace Pair

/-- Puts a changed client and the frames that left it in place. -/
def withClient (pair : Pair) (client : Side) (frames : List Frame) : Pair :=
  { pair with client, server := { pair.server with inbox := pair.server.inbox ++ frames } }

def withServer (pair : Pair) (server : Side) (frames : List Frame) : Pair :=
  { pair with server, client := { pair.client with inbox := pair.client.inbox ++ frames } }

/-- The outcome of a step of the client that lets frames out. -/
def settled (result : Except WebSocketFault (List Frame)) : Except Error Unit :=
  (result.map fun _ => ()).mapError .webSocket

def send (frame : Frame) (pair : Pair) : Except Error Unit × Pair :=
  let (result, client) := pair.client.send (!pair.serverGone) frame
  (settled result, pair.withClient client (result.toOption.getD []))

def flush (pair : Pair) : Except Error Unit × Pair :=
  let (result, client) := pair.client.flush (!pair.serverGone)
  (settled result, pair.withClient client (result.toOption.getD []))

/-- Closing what is closed for good succeeds. -/
def close (reason : CloseReason) (pair : Pair) : Except Error Unit × Pair :=
  match pair.send (.close (some reason)) with
  | (.error (.webSocket .alreadyClosed), pair) => (.ok (), pair)
  | other => other

def receive (pair : Pair) : Poll (Except Error Frame) × Pair :=
  let (frames, result, client) := pair.client.receive (!pair.serverGone)
  (result.map (·.mapError .webSocket), pair.withClient client frames)

def peerSend (frame : Frame) (pair : Pair) : Except WebSocketFault Unit × Pair :=
  match pair.server.send true frame with
  | (.error fault, server) => (.error fault, pair.withServer server [])
  | (.ok first, server) =>
      let (result, server) := server.flush true
      (result.map fun _ => (), pair.withServer server (first ++ result.toOption.getD []))

def peerReceive (pair : Pair) : Poll (Except WebSocketFault Frame) × Pair :=
  let (frames, result, server) := pair.server.receive true
  (result, pair.withServer server frames)

def dropPeer (pair : Pair) : Pair := { pair with serverGone := true }

end Pair

end ChatSocket.WebSocket
