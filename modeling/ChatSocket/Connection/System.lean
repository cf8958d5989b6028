import ChatSocket.Connection.Loop

/-!
# A connection on its clock

The loop of a connection with what waits for it: a clock, the ticks that its
timers have posted, the commands of its handles.  A move is one thing that may
happen next; which of several possible moves comes first is left open.
-/

set_option autoImplicit false

namespace ChatSocket.Connection

inductive Arrival where
  | frame (frame : Frame)
  | failure (error : Error)
  | ended
  deriving DecidableEq, Repr

def Arrival.stimulus : Arrival → Stimulus
  | .frame received => .frame received
  | .failure error => .failure error
  | .ended => .ended

structure System where
  now : Instant
  /-- When the time to become ready is over. -/
  deadline : Instant
  loop : Loop
  /-- Ticks that were posted and not looked at. -/
  ticks : List Tick
  /-- Commands that were given and not looked at. -/
  commands : List Command
  /-- How many may still give commands. -/
  handles : Nat

/-- One thing that may happen. -/
inductive Move where
  /-- The clock moves on, but not past a timer that is due. -/
  | elapse (span : Nat)
  | fire (kind : TimerKind)
  | arrive (arrival : Arrival)
  | submit (command : Command)
  | acquire
  | release
  | takeTick
  | takeCommand
  /-- The loop notices that there are no handles left. -/
  | abandon
  | deadline
  /-- The transport answers the call under way. -/
  | answer (result : Except Error Unit)
  /-- The loop gives up the call under way. -/
  | expire

namespace System

/-- A connection with one handle. -/
def start (options : ConnectOptions) : System where
  now := 0
  deadline := options.connectTimeout.after 0
  loop := .start options
  ticks := []
  commands := []
  handles := 1

def allKinds : List TimerKind := [.ping, .pong, .readiness]

/-- The points of time that the clock does not pass on its own. -/
def dues (system : System) : List Instant :=
  allKinds.filterMap (fun kind => (system.loop.slot kind).due?) ++ system.loop.limit?.toList

def handle (stimulus : Stimulus) (system : System) : System :=
  { system with loop := system.loop.handle system.now stimulus }

def fire (kind : TimerKind) (system : System) : System :=
  match (system.loop.slot kind).fire system.now with
  | (some generation, slot) =>
      { system with
        loop := system.loop.setSlot kind slot
        ticks := system.ticks ++ [⟨kind, generation⟩] }
  | (none, _) => system

def takeTick (system : System) : System :=
  match system.ticks with
  | tick :: rest =>
      if system.loop.isIdle then { system with ticks := rest }.handle (.tick tick) else system
  | [] => system

def takeCommand (system : System) : System :=
  match system.commands with
  | command :: rest =>
      if system.loop.isIdle then { system with commands := rest }.handle (.command command)
      else system
  | [] => system

/-- Makes a move; one that is not possible changes nothing. -/
def step (system : System) : Move → System
  | .elapse span =>
      if system.dues.all (system.now + span ≤ ·) then { system with now := system.now + span }
      else system
  | .fire kind => system.fire kind
  | .arrive arrival => system.handle arrival.stimulus
  | .submit command =>
      if 0 < system.handles && !system.loop.isEnded then
        { system with commands := system.commands ++ [command] }
      else system
  | .acquire => { system with handles := system.handles + 1 }
  | .release => { system with handles := system.handles - 1 }
  | .takeTick => system.takeTick
  | .takeCommand => system.takeCommand
  | .abandon =>
      if system.handles = 0 ∧ system.commands.isEmpty then system.handle .abandoned else system
  | .deadline => if system.deadline ≤ system.now then system.handle .deadline else system
  | .answer result => { system with loop := system.loop.resume system.now result }
  | .expire =>
      if system.loop.limit?.any (· ≤ system.now) then { system with loop := system.loop.expire }
      else system

def run (system : System) (moves : List Move) : System := moves.foldl step system

/-- What became of a request.  One that the loop did not answer before it ended
fails. -/
def result? (ticket : Ticket) (system : System) : Option (Except Error Unit) :=
  match system.loop.replies.lookup ticket with
  | some result => some result
  | none => if system.loop.isEnded then some (.error .connectionClosed) else none

end System

end ChatSocket.Connection
