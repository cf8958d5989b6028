import ChatSocket.Connection.System
import ChatSocket.Transport.Memory

/-!
# Lines to the far side

A line is a transport for scenarios.  On a scripted line every call succeeds at
once unless a plan says otherwise, and is recorded; on a memory line the far side
is a peer.
-/

set_option autoImplicit false

namespace ChatSocket.Connection

/-- How one call goes: after how long it is answered, and how. -/
structure Plan where
  delay : Nat
  error : Option Error
  deriving DecidableEq, Repr

inductive CallKind where
  | send
  | flush
  | close
  deriving DecidableEq, Repr

def Call.kind : Call → CallKind
  | .send _ => .send
  | .flush => .flush
  | .close _ => .close

/-- A call and when it was made. -/
structure Entry where
  time : Instant
  call : Call
  deriving DecidableEq, Repr

structure Script where
  inbox : List Arrival
  ended : Bool
  plans : List (CallKind × Plan)
  record : List Entry
  deriving DecidableEq, Repr

def Script.start : Script := ⟨[], false, [], []⟩

def takePlan (kind : CallKind) : List (CallKind × Plan) → Option Plan × List (CallKind × Plan)
  | [] => (none, [])
  | (other, plan) :: rest =>
      if other = kind then (some plan, rest)
      else
        let (found, rest) := takePlan kind rest
        (found, (other, plan) :: rest)

/-- A call under way: when it is answered, and how. -/
structure Flight where
  call : Call
  due : Instant
  result : Except Error Unit

inductive Line where
  | scripted (script : Script)
  | memory (pair : MemoryPair)

namespace Line

def scriptedLaunch (now : Instant) (call : Call) (script : Script) : Flight × Script :=
  let (plan, plans) := takePlan call.kind script.plans
  let flight : Flight := {
    call
    due := now + (plan.map Plan.delay).getD 0
    result := match plan.bind Plan.error with
      | some error => .error error
      | none => .ok () }
  (flight, { script with plans })

/-- Starts a call.  A close is recorded when it starts. -/
def launch (now : Instant) (call : Call) : Line → Flight × Line
  | .scripted script =>
      let (flight, script) := scriptedLaunch now call script
      match call with
      | .close _ => (flight, .scripted { script with record := script.record ++ [⟨now, call⟩] })
      | _ => (flight, .scripted script)
  | .memory pair =>
      let (result, pair) := match call with
        | .send frame => pair.send frame
        | .flush => pair.flush
        | .close reason => pair.close reason
      (⟨call, now, result⟩, .memory pair)

/-- Ends a call.  Any other call than a close is recorded when it has succeeded. -/
def land (now : Instant) (flight : Flight) : Line → Line
  | .scripted script =>
      match flight.call, flight.result with
      | .close _, _ | _, .error _ => .scripted script
      | call, .ok () => .scripted { script with record := script.record ++ [⟨now, call⟩] }
  | .memory pair => .memory pair

/-- The next arrival, which is taken from the line. -/
def receive : Line → Option Arrival × Line
  | .scripted script =>
      match script.inbox with
      | arrival :: rest => (some arrival, .scripted { script with inbox := rest })
      | [] => (none, .scripted script)
  | .memory pair =>
      match pair.receive with
      | (.ready frame, pair) => (some (.frame frame), .memory pair)
      | (.ended, pair) => (some .ended, .memory pair)
      | (.pending, pair) => (none, .memory pair)

/-- The connection lets go of the line. -/
def abandon : Line → Line
  | .scripted script => .scripted { script with inbox := [], ended := true }
  | .memory pair => .memory pair.dropClient

/-! ## Far side -/

inductive Delivery where
  /-- Whether there is somebody to take it. -/
  | taken (success : Bool)
  | sent (result : Except Error Unit)

def deliver (arrival : Arrival) : Line → Delivery × Line
  | .scripted script =>
      if script.ended then (.taken false, .scripted script)
      else
        (.taken true, .scripted { script with
          inbox := script.inbox ++ [arrival]
          ended := arrival = .ended })
  | .memory pair =>
      match arrival with
      | .frame frame =>
          if pair.peerGone then (.taken false, .memory pair)
          else
            let (result, pair) := pair.peerSend frame
            (.sent result, .memory pair)
      | .failure _ => (.taken false, .memory pair)
      | .ended => (.sent (.ok ()), .memory pair.disconnect)

def vanish : Line → Line
  | .scripted script => (Line.scripted script).deliver .ended |>.2
  | .memory pair => .memory pair.dropPeer

def plan (kind : CallKind) (plan : Plan) : Line → Line
  | .scripted script => .scripted { script with plans := script.plans ++ [(kind, plan)] }
  | .memory pair => .memory pair

/-- What the far side sees of the calls: entries of a record, or frames. -/
inductive Trace where
  | entry (entry : Entry)
  | frame (frame : Frame)

/-- Takes what the far side has seen since the last look. -/
def takeTrace : Line → List Trace × Line
  | .scripted script => (script.record.map .entry, .scripted { script with record := [] })
  | .memory pair =>
      if pair.peerGone then ([], .memory pair)
      else (pair.toPeer.map .frame, .memory { pair with toPeer := [] })

end Line

end ChatSocket.Connection
