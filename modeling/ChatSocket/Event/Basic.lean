import ChatSocket.Engine.Packet
import ChatSocket.Event.Input
import ChatSocket.Event.Output
import ChatSocket.Socket.Packet

/-!
# Events

An event is a socket event with a known name and one argument that fits it.
Decoding never fails: what is not an event is a `protocolError` that keeps the
packet.  Protocol errors are made here and never sent.
-/

set_option autoImplicit false

namespace ChatSocket

/-! ## Protocol errors -/

/-- What could not be understood, at whichever layer that showed. -/
inductive Subject where
  | transport (frame : Frame)
  | engine (packet : Engine.Packet)
  | socket (packet : Socket.Packet)
  deriving Repr

structure ProtocolError where
  subject : Subject
  message : String
  cause : Option String
  deriving Repr

/-- The error that ends a connection which is not ready yet. -/
def ProtocolError.toError (error : ProtocolError) : Error :=
  match error.cause with
  | some cause => .decode (error.message ++ ": " ++ cause)
  | none => .protocol error.message

/-! ## Events -/

inductive Event where
  | processInput (input : ProcessInput)
  | message (data : OutputMessage)
  | error (data : OutputError)
  | typingStatus (status : TypingStatus)
  | finalPing (kind : FinalPing)
  | triggeredElement (element : TriggeredElement)
  | endpointReady
  | exception (value : Json)
  | protocolError (error : ProtocolError)
  deriving Repr

namespace Event

def name : Event → String
  | .processInput _ => "processInput"
  | .message _ | .error _ => "output"
  | .typingStatus _ => "typingStatus"
  | .finalPing _ => "finalPing"
  | .triggeredElement _ => "triggeredElement"
  | .endpointReady => "endpoint-ready"
  | .exception _ => "exception"
  | .protocolError _ => "protocol-error"

/-- Whether the event is of interest to whoever listens to the endpoint. -/
def isOutput : Event → Bool
  | .processInput _ | .endpointReady => false
  | _ => true

def ofOutput : Output → Event
  | .message data => .message data
  | .error data => .error data

/-! ## Decoding -/

/-- What the argument of an event must be; nothing for names that are not known. -/
def schema? (name : String) : Option (Json → Json.Schema.Result Event) :=
  match name with
  | "processInput" => some fun argument => .processInput <$> ProcessInput.ofJson argument
  | "output" => some fun argument => ofOutput <$> Output.ofJson argument
  | "typingStatus" => some fun argument => .typingStatus <$> TypingStatus.ofJson argument
  | "finalPing" => some fun argument => .finalPing <$> FinalPing.ofJson argument
  | "triggeredElement" =>
      some fun argument => .triggeredElement <$> TriggeredElement.ofJson argument
  | "endpoint-ready" =>
      some fun argument => (fun _ => .endpointReady) <$> endpointReadyOfJson argument
  | "exception" => some fun argument => .exception <$> exceptionOfJson argument
  | _ => none

def ofArgument (packet : Socket.Packet) (name : String) (argument : Json) : Event :=
  match schema? name with
  | none => .protocolError ⟨.socket packet, "unknown event name: " ++ name, none⟩
  | some schema =>
      match schema argument with
      | .ok event => event
      | .error reason =>
          .protocolError ⟨.socket packet, "failed to decode argument", reason.message⟩

def decode (packet : Socket.Packet) : Event :=
  match packet with
  | .event _ _ name [argument] => ofArgument packet name argument
  | .event _ _ _ [] =>
      .protocolError ⟨.socket packet, "no arguments given, exactly one needed", none⟩
  | .event _ _ _ many =>
      .protocolError
        ⟨.socket packet, toString many.length ++ " arguments given, exactly one needed", none⟩
  | _ => .protocolError ⟨.socket packet, "not an event packet", none⟩

/-! ## Encoding -/

/-- The argument that carries an event; protocol errors have none. -/
def argument? : Event → Option Json
  | .processInput input => some input.toJson
  | .message data => some (Output.toJson (.message data))
  | .error data => some (Output.toJson (.error data))
  | .typingStatus status => some status.toJson
  | .finalPing kind => some kind.toJson
  | .triggeredElement element => some element.toJson
  | .endpointReady => some (.record [])
  | .exception value => some (exceptionToJson value)
  | .protocolError _ => none

def encode (event : Event) : Except Error Socket.Packet :=
  match event.argument? with
  | some argument => .ok (.event Socket.defaultNamespace none event.name [argument])
  | none => .error (.unsupported "protocol errors cannot be encoded")

end Event

/-! ## Frames -/

/-- The frame that carries a socket packet. -/
def Socket.Packet.toFrame (packet : Socket.Packet) : Except Error Frame := do
  return (Engine.Packet.message (← packet.encode)).encode

/-- The frame that carries an event. -/
def Event.toFrame (event : Event) : Except Error Frame := do
  (← event.encode).toFrame

end ChatSocket
