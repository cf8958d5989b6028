import ChatSocket.Transport.Memory

/-!
# Exchanges over a pair

What the two sides of a pair do, in whatever order, and what they are answered.  A
side that was dropped does nothing any more.
-/

set_option autoImplicit false

namespace ChatSocket.MemoryPair

inductive Act where
  | send (frame : Frame)
  | flush
  | receive
  | close (reason : CloseReason)
  | drop
  | peerSend (frame : Frame)
  | peerReceive
  | peerTryReceive
  | disconnect
  | dropPeer
  deriving DecidableEq, Repr

inductive Answer where
  | done (result : Except Error Unit)
  /-- The side waits unless it is answered at once. -/
  | looked (result : Poll Frame)
  | tried (result : Option Frame)
  | silent
  /-- There is no such side any more. -/
  | absent

def Act.isPeers : Act → Bool
  | .send _ | .flush | .receive | .close _ | .drop => false
  | .peerSend _ | .peerReceive | .peerTryReceive | .disconnect | .dropPeer => true

/-- Whether the side that an act belongs to is gone. -/
def lacks (pair : MemoryPair) (act : Act) : Bool :=
  if act.isPeers then pair.peerGone else pair.clientGone

/-- What a side that is there does. -/
def serve (pair : MemoryPair) : Act → Answer × MemoryPair
  | .send frame => (pair.send frame).map .done id
  | .flush => pair.flush.map .done id
  | .receive => pair.receive.map .looked id
  | .close reason => (pair.close reason).map .done id
  | .drop => (.silent, pair.dropClient)
  | .peerSend frame => (pair.peerSend frame).map .done id
  | .peerReceive => pair.peerReceive.map .looked id
  | .peerTryReceive => pair.peerTryReceive.map .tried id
  | .disconnect => (.silent, pair.disconnect)
  | .dropPeer => (.silent, pair.dropPeer)

def perform (pair : MemoryPair) (act : Act) : Answer × MemoryPair :=
  if pair.lacks act then (.absent, pair) else pair.serve act

/-! ## Histories -/

/-- What is done, with the answer to it. -/
abbrev Happening := Act × Answer

/-- The pair after some acts. -/
def after (pair : MemoryPair) (acts : List Act) : MemoryPair :=
  acts.foldl (fun pair act => (pair.perform act).2) pair

/-- Everything that happens in the course of some acts. -/
def history (pair : MemoryPair) : List Act → List Happening
  | [] => []
  | act :: later => (act, (pair.perform act).1) :: history (pair.perform act).2 later

/-- A frame that the client was told was sent. -/
def sent? : Happening → Option Frame
  | (.send frame, .done (.ok ())) => some frame
  | _ => none

/-- A frame that the peer was told was sent. -/
def peerSent? : Happening → Option Frame
  | (.peerSend frame, .done (.ok ())) => some frame
  | _ => none

def received? : Happening → Option Frame
  | (.receive, .looked (.ready frame)) => some frame
  | _ => none

/-- A frame that the peer took out, whichever way it looked. -/
def peerReceived? : Happening → Option Frame
  | (.peerReceive, .looked (.ready frame)) => some frame
  | (.peerTryReceive, .tried (some frame)) => some frame
  | _ => none

def closing? : Happening → Option CloseReason
  | (.close reason, .done _) => some reason
  | _ => none

def sent (seen : List Happening) : List Frame := seen.filterMap sent?

def peerSent (seen : List Happening) : List Frame := seen.filterMap peerSent?

def received (seen : List Happening) : List Frame := seen.filterMap received?

def peerReceived (seen : List Happening) : List Frame := seen.filterMap peerReceived?

/-- The reason of the first close. -/
def closing (seen : List Happening) : Option CloseReason := seen.findSome? closing?

/-- The reason that the first close gives, if there is one before the client is dropped. -/
def firstClose : List Act → Option CloseReason
  | [] => none
  | .close reason :: _ => some reason
  | .drop :: _ => none
  | _ :: later => firstClose later

/-- What a close tells the peer. -/
def farewell (seen : List Happening) : List Frame :=
  match closing seen with
  | some reason => [.close (some reason)]
  | none => []

end ChatSocket.MemoryPair
