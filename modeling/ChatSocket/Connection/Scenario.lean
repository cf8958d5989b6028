import ChatSocket.Client.Basic
import ChatSocket.Connection.Line

/-!
# Scenarios

A scenario plays a connection step by step on a clock that stands still between
the steps.  After each step everything runs until nothing more can happen; what
has become visible is then observed.  Of several moves that are possible at one
point of time, one fixed choice is made.
-/

set_option autoImplicit false

namespace ChatSocket.Connection

/-! ## Tasks -/

/-- What a task of the near side came to. -/
inductive Outcome where
  | sent (result : Except Error Unit)
  | closed
  | readiness (result : Except Error ReadyReason)

/-- What a task is about to do, or waits for. -/
inductive Work where
  | send (event : Event) (flush : Bool)
  | close (reason : CloseReason)
  | awaitSent (ticket : Ticket)
  | awaitClosed (ticket : Ticket)
  | awaitReadiness
  | done (outcome : Outcome)

/-- Tasks that send or close keep the connection alive. -/
def Work.holdsHandle : Work → Bool
  | .awaitReadiness | .done _ => false
  | _ => true

structure Task where
  /-- The step that started it. -/
  step : Nat
  work : Work

inductive Start where
  /-- The handle is there at once. -/
  | spawn
  /-- The handle is there when the connection is ready. -/
  | establish
  deriving DecidableEq, Repr

structure Scenario where
  session : Session
  system : System
  line : Line
  flight : Option Flight
  /-- Whether somebody waits for the connection to become ready before there is
  a handle. -/
  awaited : Bool
  /-- What that came to, until it is observed. -/
  established : Option (Except Error Unit)
  /-- Handles held by hand. -/
  handles : Nat
  hadHandle : Bool
  tasks : List Task
  nextTicket : Ticket
  /-- Handles of the output queue, and how far it was read. -/
  outputs : Nat
  reader : Reader
  /-- Whether items are taken from the queue after every step. -/
  draining : Bool

namespace Scenario

/-- A connection that could not be started: its line is let go of. -/
def refuse (scenario : Scenario) : Scenario :=
  { scenario with
    system := { scenario.system with
      handles := 0
      loop := { scenario.system.loop with phase := .ended } }
    line := scenario.line.abandon }

/-- A scenario at its start.  Options that are not valid keep `spawn` from starting
at all; whoever waits for readiness learns of them there. -/
def create (session : Session) (options : ConnectOptions) (start : Start) (line : Line)
    (draining : Bool) : Except Error Scenario :=
  let base : Scenario := {
    session, line, draining
    system := .start options
    flight := none
    awaited := false
    established := none
    handles := 0
    hadHandle := false
    tasks := []
    nextTicket := 0
    outputs := 0
    reader := .start }
  match start, options.validate with
  | .spawn, .error error => .error error
  | .spawn, .ok () => .ok { base with handles := 1, hadHandle := true, outputs := 1 }
  | .establish, .error error => .ok { base with established := some (.error error) }.refuse
  | .establish, .ok () => .ok { base with awaited := true }

def move (scenario : Scenario) (move : Move) : Scenario :=
  { scenario with system := scenario.system.step move }

/-! ## Running -/

def now (scenario : Scenario) : Instant := scenario.system.now

/-- Gets on with the call that the loop waits for. -/
def advanceCall? (scenario : Scenario) : Option Scenario := do
  let call ← scenario.system.loop.phase.call?
  match scenario.flight with
  | none =>
      let (flight, line) := scenario.line.launch scenario.now call
      some { scenario with line, flight := some flight }
  | some flight =>
      if flight.due ≤ scenario.now then
        let landed := { scenario with
          line := scenario.line.land scenario.now flight
          flight := none }
        some (landed.move (.answer flight.result))
      else if scenario.system.loop.limit?.any (· ≤ scenario.now) then
        some ({ scenario with flight := none }.move .expire)
      else none

def fireTimer? (scenario : Scenario) : Option Scenario := do
  let kind ← System.allKinds.find? fun kind =>
    (scenario.system.loop.slot kind).due?.any (· ≤ scenario.now)
  some (scenario.move (.fire kind))

def stimulate? (scenario : Scenario) : Option Scenario :=
  let system := scenario.system
  if !system.loop.isIdle then none
  else if !system.ticks.isEmpty then some (scenario.move .takeTick)
  else if !system.commands.isEmpty then some (scenario.move .takeCommand)
  else
    match scenario.line.receive with
    | (some arrival, line) => some ({ scenario with line }.move (.arrive arrival))
    | (none, _) =>
        if system.handles = 0 then some (scenario.move .abandon)
        else if system.deadline ≤ system.now && system.loop.readiness.isPending then
          some (scenario.move .deadline)
        else none

def startWork (work : Work) (scenario : Scenario) : Work × Scenario :=
  let ticket := scenario.nextTicket
  let gone := scenario.system.loop.isEnded
  match work with
  | .send event flush =>
      match event.toFrame with
      | .error error => (.done (.sent (.error error)), scenario.move .release)
      | .ok frame =>
          if gone then (.done (.sent (.error .connectionClosed)), scenario.move .release)
          else (.awaitSent ticket,
            { scenario with nextTicket := ticket + 1 }.move (.submit (.send frame flush ticket)))
  | .close reason =>
      if gone then (.done .closed, scenario.move .release)
      else (.awaitClosed ticket,
        { scenario with nextTicket := ticket + 1 }.move (.submit (.close reason ticket)))
  | .awaitSent ticket =>
      match scenario.system.result? ticket with
      | some result => (.done (.sent result), scenario.move .release)
      | none => (work, scenario)
  | .awaitClosed ticket =>
      match scenario.system.result? ticket with
      | some _ => (.done .closed, scenario.move .release)
      | none => (work, scenario)
  | .awaitReadiness =>
      match scenario.system.loop.readiness.outcome with
      | some result => (.done (.readiness result), scenario)
      | none => (work, scenario)
  | .done _ => (work, scenario)

def runTasks (scenario : Scenario) : Scenario :=
  let (tasks, scenario) := scenario.tasks.foldl
    (fun (tasks, scenario) task =>
      let (work, scenario) := startWork task.work scenario
      (tasks ++ [{ task with work }], scenario))
    ([], { scenario with tasks := [] })
  { scenario with tasks }

/-- Hands the connection over to whoever waits for it, once that is decided. -/
def settleEstablished (scenario : Scenario) : Scenario :=
  if scenario.awaited then
    match scenario.system.loop.readiness.outcome with
    | some (.ok _) =>
        { scenario with
          awaited := false, established := some (.ok ())
          handles := 1, hadHandle := true, outputs := 1 }
    | some (.error error) =>
        { scenario with awaited := false, established := some (.error error) }.move .release
    | none => scenario
  else scenario

/-- The connection lets go of its line when its loop has ended. -/
def releaseLine (scenario : Scenario) : Scenario :=
  if scenario.system.loop.isEnded then { scenario with line := scenario.line.abandon }
  else scenario

def progress? (scenario : Scenario) : Option Scenario :=
  (scenario.advanceCall?.orElse fun _ => scenario.fireTimer?).orElse fun _ => scenario.stimulate?

/-- Runs until nothing more can happen at this point of time. -/
def settle : Nat → Scenario → Scenario
  | 0, scenario => scenario
  | fuel + 1, scenario =>
      let served := scenario.runTasks.settleEstablished
      match served.progress? with
      | some next => settle fuel next
      | none => served.releaseLine

def waiting (scenario : Scenario) : Nat :=
  match scenario.line with
  | .scripted script => script.inbox.length
  | .memory pair => pair.toClient.length

/-- More moves than can happen at one point of time: everything that waits leads
to few calls, and a call leads to no more than its answer. -/
def moveBound (scenario : Scenario) : Nat :=
  8 * (scenario.waiting + scenario.tasks.length + scenario.system.commands.length +
    scenario.system.ticks.length + 8)

def settled (scenario : Scenario) : Scenario := scenario.settle scenario.moveBound

/-! ## Clock -/

/-- The next point of time at which something happens on its own. -/
def nextEvent? (scenario : Scenario) : Option Instant :=
  let system := scenario.system
  let deadline :=
    if system.loop.isIdle && system.loop.readiness.isPending then [system.deadline] else []
  let times := system.dues ++ (scenario.flight.map Flight.due).toList ++ deadline
  (times.filter (scenario.now < ·)).min?

/-- Moves the clock from event to event up to a point of time.  Each round moves it
by a millisecond at least. -/
def advanceTo (target : Instant) : Nat → Scenario → Scenario
  | 0, scenario => scenario
  | fuel + 1, scenario =>
      match scenario.nextEvent? with
      | some time =>
          if time ≤ target then
            advanceTo target fuel (scenario.move (.elapse (time - scenario.now))).settled
          else scenario.move (.elapse (target - scenario.now))
      | none => scenario.move (.elapse (target - scenario.now))

def advance (millis : Nat) (scenario : Scenario) : Scenario :=
  (scenario.advanceTo (scenario.now + millis) (millis + 1)).settled

/-! ## Steps -/

inductive FarStep where
  | deliver (frame : Frame)
  | deliverAll (frames : List Frame)
  | failReceive (error : Error)
  | finish
  | vanish
  | plan (kind : CallKind) (plan : Plan)
  | advance (millis : Nat)

inductive NearStep where
  | sendInput (text : String) (data : Option Json) (flags : ResetFlags) (flush : Bool)
  | send (event : Event) (flush : Bool)
  | close (reason : Option CloseReason)
  | cancel (cause : Option Error)
  | await
  | clone
  | drop
  | session
  | debug
  | output
  | drain (which : Nat) (limit : Option Nat)

inductive Step where
  | far (step : FarStep)
  | near (step : NearStep)
  /-- Near steps between which nothing runs. -/
  | batch (steps : List NearStep)

/-- An item of the output queue, or its end. -/
inductive Item where
  | item (item : Except Error Event)
  | ended

inductive Answer where
  | silence
  | delivery (delivery : Line.Delivery)
  | deliveries (deliveries : List Line.Delivery)
  | noHandle
  | count (count : Nat)
  | text (text : String)
  | items (items : List Item)
  | list (answers : List Answer)

/-! ### Far side -/

def deliver (frame : Frame) (scenario : Scenario) : Line.Delivery × Scenario :=
  let (delivery, line) := scenario.line.deliver (.frame frame)
  (delivery, { scenario with line })

def deliverAll : List Frame → Scenario → List Line.Delivery × Scenario
  | [], scenario => ([], scenario)
  | frame :: rest, scenario =>
      let (delivery, scenario) := scenario.deliver frame
      let (deliveries, scenario) := deliverAll rest scenario
      (delivery :: deliveries, scenario)

def playFar (step : FarStep) (scenario : Scenario) : Answer × Scenario :=
  match step with
  | .deliver frame =>
      let (delivery, scenario) := scenario.deliver frame
      (.delivery delivery, scenario)
  | .deliverAll frames =>
      let (deliveries, scenario) := scenario.deliverAll frames
      (.deliveries deliveries, scenario)
  | .failReceive error =>
      let (delivery, line) := scenario.line.deliver (.failure error)
      (.delivery delivery, { scenario with line })
  | .finish => (.silence, { scenario with line := (scenario.line.deliver .ended).2 })
  | .vanish => (.silence, { scenario with line := scenario.line.vanish })
  | .plan kind plan => (.silence, { scenario with line := scenario.line.plan kind plan })
  | .advance millis => (.silence, scenario.advance millis)

/-! ### Near side -/

/-- The name of a state in diagnostics. -/
def stateLabel : Lifecycle → String
  | .connecting => "Connecting"
  | .handshaking => "Handshaking"
  | .ready => "Ready"
  | .active => "Active"
  | .closed => "Closed"
  | .failed => "Failed"

/-- A handle as diagnostics show it. -/
def debug (scenario : Scenario) : String :=
  "Connection \x7b session_id: " ++ scenario.session.id.debug ++ ", state: " ++
    stateLabel scenario.system.loop.lifecycle ++ ", .. \x7d"

def spawn (step : Nat) (work : Work) (scenario : Scenario) : Scenario :=
  let spawned := { scenario with tasks := scenario.tasks ++ [⟨step, work⟩] }
  if work.holdsHandle then spawned.move .acquire else spawned

/-- The error of a connection that is cancelled without one. -/
def defaultCause : Error := .cancelled "connection cancelled"

def playHeld (index : Nat) (step : NearStep) (scenario : Scenario) : Answer × Scenario :=
  match step with
  | .sendInput text data flags flush =>
      let input := scenario.session.processInput (some text) data flags
      (.silence, scenario.spawn index (.send (.processInput input) flush))
  | .send event flush => (.silence, scenario.spawn index (.send event flush))
  | .close reason => (.silence, scenario.spawn index (.close (reason.getD .default)))
  | .cancel cause => (.silence, scenario.move (.submit (.cancel (cause.getD defaultCause))))
  | .clone =>
      (.count (scenario.handles + 1),
        { scenario with handles := scenario.handles + 1 }.move .acquire)
  | .drop =>
      (.count (scenario.handles - 1),
        { scenario with handles := scenario.handles - 1 }.move .release)
  | .session => (.text scenario.session.id.text, scenario)
  | .debug => (.text scenario.debug, scenario)
  | .output =>
      (.count (scenario.outputs + 1), { scenario with outputs := scenario.outputs + 1 })
  | .await | .drain .. => (.silence, scenario)

def take (limit : Nat) (scenario : Scenario) : List Item × Scenario :=
  let (items, ended, reader) := scenario.reader.drain scenario.system.loop.output false limit
  (items.map .item ++ (if ended then [.ended] else []), { scenario with reader })

def playNear (index : Nat) (step : NearStep) (scenario : Scenario) : Answer × Scenario :=
  match step with
  | .await =>
      if scenario.hadHandle then (.silence, scenario.spawn index .awaitReadiness)
      else (.noHandle, scenario)
  | .drain which limit =>
      if which < scenario.outputs then
        let bound := limit.getD (Reader.all scenario.system.loop.output)
        let (items, scenario) := scenario.take bound
        (.items items, scenario)
      else (.noHandle, scenario)
  | step => if scenario.handles = 0 then (.noHandle, scenario) else scenario.playHeld index step

def playBatch (index : Nat) : List NearStep → Scenario → List Answer × Scenario
  | [], scenario => ([], scenario)
  | step :: rest, scenario =>
      let (answer, scenario) := scenario.playNear index step
      let (answers, scenario) := playBatch index rest scenario
      (answer :: answers, scenario)

def play (index : Nat) (step : Step) (scenario : Scenario) : Answer × Scenario :=
  match step with
  | .far step => scenario.playFar step
  | .near step => scenario.playNear index step
  | .batch steps =>
      let (answers, scenario) := scenario.playBatch index steps
      (.list answers, scenario)

/-! ## Observing -/

structure View where
  lifecycle : Lifecycle
  isClosed : Bool

structure Observation where
  time : Instant
  answer : Answer
  established : Option (Except Error Unit)
  /-- Tasks that finished, by the step that started them. -/
  done : List (Nat × Outcome)
  trace : List Line.Trace
  output : List Item
  view : Option View
  /-- Absent while there has been no handle. -/
  readiness : Option Readiness

def finished (task : Task) : Option (Nat × Outcome) :=
  match task.work with
  | .done outcome => some (task.step, outcome)
  | _ => none

/-- Takes the items that are there, up to the first look at the end. -/
def drainAll (scenario : Scenario) : List Item × Scenario :=
  if scenario.draining && 0 < scenario.outputs then
    let (items, ended, reader) :=
      scenario.reader.drain scenario.system.loop.output false
        (Reader.all scenario.system.loop.output)
    (items.map .item ++ (if ended then [.ended] else []),
      { scenario with reader, draining := !ended })
  else ([], scenario)

def observe (answer : Answer) (scenario : Scenario) : Observation × Scenario :=
  let (output, scenario) := scenario.drainAll
  let (trace, line) := scenario.line.takeTrace
  let loop := scenario.system.loop
  let observation : Observation := {
    time := scenario.now
    answer, trace, output
    established := scenario.established
    done := scenario.tasks.filterMap finished
    view := if scenario.handles = 0 then none else some ⟨loop.lifecycle, loop.isEnded⟩
    readiness := if scenario.hadHandle then some loop.readiness else none }
  (observation, { scenario with
    line
    established := none
    tasks := scenario.tasks.filter fun task => (finished task).isNone })

def runFrom : Nat → List Step → Scenario → List Observation
  | _, [], _ => []
  | index, step :: rest, scenario =>
      let (answer, scenario) := scenario.play index step
      let (observation, scenario) := scenario.settled.observe answer
      observation :: runFrom (index + 1) rest scenario

/-- Plays all steps: one observation before the first, and one after each. -/
def run (steps : List Step) (scenario : Scenario) : List Observation :=
  let (observation, scenario) := scenario.settled.observe .silence
  observation :: scenario.runFrom 0 steps

end Scenario

end ChatSocket.Connection
