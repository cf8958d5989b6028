import ChatSocket.Client.Options
import ChatSocket.Connection.Output
import ChatSocket.Connection.Readiness
import ChatSocket.Connection.Timer

/-!
# The loop of a connection

One loop owns everything that changes in a connection.  It takes one stimulus
after the other: what the transport delivers, what the handles ask for, what the
timers post.  A stimulus may make it write to the transport; until the transport
has answered, the loop takes no other stimulus.  When it stops, it cancels its
timers, decides readiness, closes the transport if that still makes sense, and
closes its output.
-/

set_option autoImplicit false

namespace ChatSocket.Connection

/-- How far a connection has come. -/
inductive Lifecycle where
  /-- Nothing was received. -/
  | connecting
  /-- Something was received, readiness is pending. -/
  | handshaking
  | ready
  /-- Ready, and output was passed on. -/
  | active
  | closed
  | failed
  deriving DecidableEq, Repr

def Lifecycle.isTerminal : Lifecycle → Bool
  | .closed | .failed => true
  | _ => false

/-- How often the endpoint wants a ping, and how long one may take. -/
structure Heartbeat where
  interval : Duration
  timeout : Duration
  deriving DecidableEq, Repr

/-- Names a request that waits for an answer. -/
abbrev Ticket := Nat

inductive Command where
  | send (frame : Frame) (flush : Bool) (ticket : Ticket)
  | close (reason : CloseReason) (ticket : Ticket)
  | cancel (cause : Error)
  deriving DecidableEq, Repr

/-- What the loop reacts to. -/
inductive Stimulus where
  | frame (frame : Frame)
  /-- The transport failed to receive. -/
  | failure (error : Error)
  /-- The transport has no more frames. -/
  | ended
  | command (command : Command)
  /-- There are no handles left. -/
  | abandoned
  | tick (tick : Tick)
  /-- The time to become ready is over. -/
  | deadline
  deriving DecidableEq, Repr

/-- What the loop asks of the transport. -/
inductive Call where
  | send (frame : Frame)
  | flush
  | close (reason : CloseReason)
  deriving DecidableEq, Repr

/-- What a frame is written for. -/
inductive Errand where
  | answerPing
  /-- The acknowledgement of an event, which is looked at afterwards. -/
  | acknowledge (packet : Socket.Packet)
  /-- A ping, to be written before the limit. -/
  | heartbeat (beat : Heartbeat) (limit : Instant)
  | request (ticket : Ticket)

structure Exit where
  /-- The error that ends the connection; none if it is closed in good order. -/
  cause : Option Error
  /-- What the transport is closed with. -/
  farewell : Option CloseReason
  /-- The request to close that is answered at the end. -/
  ticket : Option Ticket
  deriving DecidableEq, Repr

inductive Phase where
  | idle
  /-- A frame is being sent, and perhaps flushed afterwards. -/
  | sending (frame : Frame) (flush : Bool) (errand : Errand)
  | flushing (errand : Errand)
  | closing (reason : CloseReason) (exit : Exit)
  | ended

/-- The call that the transport has not answered yet. -/
def Phase.call? : Phase → Option Call
  | .sending frame _ _ => some (.send frame)
  | .flushing _ => some .flush
  | .closing reason _ => some (.close reason)
  | .idle | .ended => none

structure Loop where
  options : ConnectOptions
  lifecycle : Lifecycle
  /-- Whether the transport has delivered anything but a close frame. -/
  receivedAny : Bool
  readiness : Readiness
  heartbeat : Option Heartbeat
  pingTimer : Slot
  pongTimer : Slot
  readinessTimer : Slot
  output : Output
  /-- All that was asked of the transport. -/
  calls : List Call
  /-- All requests that were answered. -/
  replies : List (Ticket × Except Error Unit)
  phase : Phase

namespace Loop

def start (options : ConnectOptions) : Loop where
  options := options
  lifecycle := .connecting
  receivedAny := false
  readiness := .pending
  heartbeat := none
  pingTimer := .empty
  pongTimer := .empty
  readinessTimer := .empty
  output := .empty
  calls := []
  replies := []
  phase := .idle

def isIdle (loop : Loop) : Bool :=
  match loop.phase with
  | .idle => true
  | _ => false

def isEnded (loop : Loop) : Bool :=
  match loop.phase with
  | .ended => true
  | _ => false

/-! ## Stopping -/

/-- What is left to do once the transport is closed. -/
def finish (exit : Exit) (loop : Loop) : Loop :=
  { loop with
    output := loop.output.close exit.cause
    lifecycle := if exit.cause.isSome then .failed else .closed
    replies := loop.replies ++ (exit.ticket.map fun ticket => (ticket, .ok ())).toList
    phase := .ended }

/-- Stops.  A connection that is closed before it is ready fails to become so. -/
def stop (exit : Exit) (loop : Loop) : Loop :=
  let stopped := { loop with
    pingTimer := loop.pingTimer.cancel
    pongTimer := loop.pongTimer.cancel
    readinessTimer := loop.readinessTimer.cancel
    readiness := loop.readiness.complete (.error (exit.cause.getD .connectionClosed)) }
  match exit.farewell with
  | some reason =>
      { stopped with phase := .closing reason exit, calls := stopped.calls ++ [.close reason] }
  | none => stopped.finish exit

def fail (cause : Error) (farewell : Option CloseReason) (loop : Loop) : Loop :=
  loop.stop ⟨some cause, farewell, none⟩

/-- The transport has ended.  That is in order once the connection was ready. -/
def remoteEnd (loop : Loop) : Loop :=
  if !loop.receivedAny then loop.fail .earlyDisconnect none
  else if loop.readiness.isPending then loop.fail .connectionClosed none
  else loop.stop ⟨none, none, none⟩

/-! ## Writing -/

/-- Asks the transport to send a frame, and to flush afterwards if wanted. -/
def write (frame : Frame) (flush : Bool) (errand : Errand) (loop : Loop) : Loop :=
  { loop with phase := .sending frame flush errand, calls := loop.calls ++ [.send frame] }

def reply (ticket : Ticket) (result : Except Error Unit) (loop : Loop) : Loop :=
  { loop with replies := loop.replies ++ [(ticket, result)] }

/-! ## Readiness -/

/-- The connection is ready, unless that was decided before. -/
def resolve (reason : ReadyReason) (loop : Loop) : Loop :=
  if loop.readiness.isPending then
    { loop with readiness := loop.readiness.complete (.ok reason), lifecycle := .ready }
  else loop

/-- The namespace was joined. -/
def startReadiness (now : Instant) (loop : Loop) : Loop :=
  if loop.readiness.isPending then
    match loop.options.readiness with
    | .never => loop
    | .immediate => loop.resolve .assumedAtOnce
    | .after span => { loop with readinessTimer := loop.readinessTimer.once now span }
  else loop

/-- Input that cannot be understood ends a connection that is not ready yet; later
it is output like any other. -/
def report (error : ProtocolError) (loop : Loop) : Loop :=
  if loop.readiness.isPending then loop.fail error.toError (some (.protocolError error.message))
  else { loop with output := loop.output.push (.protocolError error) }

/-! ## Packets -/

/-- The server opened a session: the heartbeat starts over. -/
def onOpen (now : Instant) (data : Engine.Open) (loop : Loop) : Loop :=
  if data.pingInterval.isZero || data.pingTimeout.isZero then
    loop.report ⟨.engine (.opening data), "ping interval and ping timeout must be positive", none⟩
  else
    { loop with
      pongTimer := loop.pongTimer.cancel
      pingTimer := loop.pingTimer.every now data.pingInterval
      heartbeat := some ⟨data.pingInterval, data.pingTimeout⟩ }

def onEvent (event : Event) (loop : Loop) : Loop :=
  match event with
  | .endpointReady => { loop with readinessTimer := loop.readinessTimer.cancel }.resolve .signal
  | .protocolError error => loop.report error
  | .processInput _ => loop
  | event =>
      let lifecycle := if loop.lifecycle = .ready then .active else loop.lifecycle
      { loop with lifecycle, output := loop.output.push event }

/-- The acknowledgement that an event asks for, if it is to be given. -/
def acknowledgement? (options : ConnectOptions) : Socket.Packet → Option Socket.Packet
  | .event ns (some ackId) _ _ =>
      if options.acknowledge then some (.acknowledge ns ackId (some [])) else none
  | _ => none

/-- An event, which is acknowledged before it is looked at. -/
def onEventPacket (packet : Socket.Packet) (loop : Loop) : Loop :=
  match acknowledgement? loop.options packet with
  | none => loop.onEvent (Event.decode packet)
  | some answer =>
      match answer.toFrame with
      | .ok frame => loop.write frame false (.acknowledge packet)
      | .error error => loop.fail error none

def onSocketPacket (now : Instant) (packet : Socket.Packet) (loop : Loop) : Loop :=
  match packet with
  | .connect .. => loop.startReadiness now
  | .connectError _ data =>
      let message := (data.map Socket.Refusal.message).getD "no details"
      loop.fail (.connectRejected message)
        (some (.protocolError ("Received connect error: " ++ message)))
  | .event .. => loop.onEventPacket packet
  | .disconnect _ | .acknowledge .. => loop
  | .binaryEvent .. | .binaryAcknowledge .. =>
      loop.report ⟨.socket packet, "binary packets are not supported", none⟩
  | .broken _ reason cause =>
      loop.report ⟨.socket packet, "received broken socket packet: " ++ reason, cause⟩

def onEnginePacket (now : Instant) (packet : Engine.Packet) (loop : Loop) : Loop :=
  match packet with
  | .opening data => loop.onOpen now data
  | .ping => loop.write Engine.Packet.pong.encode true .answerPing
  | .pong => { loop with pongTimer := loop.pongTimer.cancel }
  | .message payload => loop.onSocketPacket now (Socket.Packet.decode payload)
  | .close | .upgrade | .noop => loop
  | .binary _ => loop.report ⟨.engine packet, "binary messages are not supported", none⟩
  | .broken _ reason cause =>
      loop.report ⟨.engine packet, "received broken engine packet: " ++ reason, cause⟩

def onFrame (now : Instant) (frame : Frame) (loop : Loop) : Loop :=
  let seen := if loop.receivedAny then loop
    else { loop with receivedAny := true, lifecycle := .handshaking }
  match Engine.Packet.decode? frame with
  | some packet => seen.onEnginePacket now packet
  | none => seen

/-! ## Ticks -/

def onPingTick (now : Instant) (generation : Nat) (loop : Loop) : Loop :=
  if loop.pingTimer.isLive generation then
    match loop.heartbeat with
    | some beat =>
        loop.write Engine.Packet.ping.encode true (.heartbeat beat (beat.timeout.after now))
    | none => loop
  else loop

def onPongTick (generation : Nat) (loop : Loop) : Loop :=
  let (live, pongTimer) := loop.pongTimer.accept generation true
  if live then
    let millis := (loop.heartbeat.map (·.timeout.millis)).getD 0
    { loop with pongTimer }.fail (.pongTimeout millis)
      (some { CloseReason.goingAway with reason := "pong timeout" })
  else loop

def onReadinessTick (generation : Nat) (loop : Loop) : Loop :=
  let (live, readinessTimer) := loop.readinessTimer.accept generation true
  if live then { loop with readinessTimer }.resolve .assumedAfterTimeout else loop

def onTick (now : Instant) (tick : Tick) (loop : Loop) : Loop :=
  match tick.kind with
  | .ping => loop.onPingTick now tick.generation
  | .pong => loop.onPongTick tick.generation
  | .readiness => loop.onReadinessTick tick.generation

/-! ## Stimuli -/

def onCommand (command : Command) (loop : Loop) : Loop :=
  match command with
  | .send frame flush ticket => loop.write frame flush (.request ticket)
  | .close reason ticket => loop.stop ⟨none, some reason, some ticket⟩
  | .cancel cause => loop.fail cause (some .goingAway)

def onDeadline (loop : Loop) : Loop :=
  if loop.readiness.isPending then
    loop.fail (.connectTimeout loop.options.connectTimeout.millis) (some .goingAway)
  else loop

def react (now : Instant) (stimulus : Stimulus) (loop : Loop) : Loop :=
  match stimulus with
  | .frame (.close _) | .ended => loop.remoteEnd
  | .frame frame => loop.onFrame now frame
  | .failure error => loop.fail error none
  | .command command => loop.onCommand command
  | .abandoned => loop.stop ⟨none, some .goingAway, none⟩
  | .tick tick => loop.onTick now tick
  | .deadline => loop.onDeadline

def handle (now : Instant) (stimulus : Stimulus) (loop : Loop) : Loop :=
  if loop.isIdle then loop.react now stimulus else loop

/-! ## Answers of the transport -/

def onWritten (now : Instant) (errand : Errand) (loop : Loop) : Loop :=
  let idle := { loop with phase := .idle }
  match errand with
  | .answerPing => idle
  | .acknowledge packet => idle.onEvent (Event.decode packet)
  | .heartbeat beat _ =>
      if loop.pongTimer.isArmed then idle
      else { idle with pongTimer := loop.pongTimer.once now beat.timeout }
  | .request ticket => idle.reply ticket (.ok ())

def onWriteFailed (error : Error) (errand : Errand) (loop : Loop) : Loop :=
  match errand with
  | .request ticket => (loop.reply ticket (.error error)).fail error none
  | _ => loop.fail error none

/-- Takes the transport's answer to the last call. -/
def resume (now : Instant) (result : Except Error Unit) (loop : Loop) : Loop :=
  match loop.phase, result with
  | .sending _ true errand, .ok () =>
      { loop with phase := .flushing errand, calls := loop.calls ++ [.flush] }
  | .sending _ false errand, .ok () => loop.onWritten now errand
  | .flushing errand, .ok () => loop.onWritten now errand
  | .sending _ _ errand, .error error => loop.onWriteFailed error errand
  | .flushing errand, .error error => loop.onWriteFailed error errand
  | .closing _ exit, _ => loop.finish exit
  | .idle, _ | .ended, _ => loop

/-- When the writing under way is given up. -/
def limit? (loop : Loop) : Option Instant :=
  match loop.phase with
  | .sending _ _ (.heartbeat _ limit) | .flushing (.heartbeat _ limit) => some limit
  | _ => none

/-- Gives up the ping that could not be written in time. -/
def expire (loop : Loop) : Loop :=
  match loop.phase with
  | .sending _ _ (.heartbeat beat _) | .flushing (.heartbeat beat _) =>
      loop.fail (.pingTimeout beat.timeout.millis) (some .goingAway)
  | _ => loop

/-! ## Timers -/

def slot (kind : TimerKind) (loop : Loop) : Slot :=
  match kind with
  | .ping => loop.pingTimer
  | .pong => loop.pongTimer
  | .readiness => loop.readinessTimer

def setSlot (kind : TimerKind) (slot : Slot) (loop : Loop) : Loop :=
  match kind with
  | .ping => { loop with pingTimer := slot }
  | .pong => { loop with pongTimer := slot }
  | .readiness => { loop with readinessTimer := slot }

theorem setSlot_slot (kind : TimerKind) (loop : Loop) :
    loop.setSlot kind (loop.slot kind) = loop := by
  cases kind <;> rfl

@[simp]
theorem slot_setSlot_self (kind : TimerKind) (slot : Slot) (loop : Loop) :
    (loop.setSlot kind slot).slot kind = slot := by
  cases kind <;> rfl

theorem slot_setSlot_of_ne (kind other : TimerKind) (slot : Slot) (loop : Loop)
    (different : other ≠ kind) : (loop.setSlot kind slot).slot other = loop.slot other := by
  cases kind <;> cases other <;> first | rfl | exact absurd rfl different

section SetSlot

variable (kind : TimerKind) (slot : Slot) (loop : Loop)

@[simp]
theorem phase_setSlot : (loop.setSlot kind slot).phase = loop.phase := by
  cases kind <;> rfl

@[simp]
theorem lifecycle_setSlot : (loop.setSlot kind slot).lifecycle = loop.lifecycle := by
  cases kind <;> rfl

@[simp]
theorem receivedAny_setSlot : (loop.setSlot kind slot).receivedAny = loop.receivedAny := by
  cases kind <;> rfl

@[simp]
theorem readiness_setSlot : (loop.setSlot kind slot).readiness = loop.readiness := by
  cases kind <;> rfl

@[simp]
theorem heartbeat_setSlot : (loop.setSlot kind slot).heartbeat = loop.heartbeat := by
  cases kind <;> rfl

@[simp]
theorem output_setSlot : (loop.setSlot kind slot).output = loop.output := by
  cases kind <;> rfl

@[simp]
theorem calls_setSlot : (loop.setSlot kind slot).calls = loop.calls := by
  cases kind <;> rfl

end SetSlot

end Loop

end ChatSocket.Connection
