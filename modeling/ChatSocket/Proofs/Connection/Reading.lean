import ChatSocket.Connection.Loop

/-!
# What frames say

A frame is read through three layers: engine packets, socket packets, events.
`Malformed` collects what may be wrong with it at any of them, with the error that
describes the defect; `Silent` collects the frames that ask nothing of a connection.
-/

set_option autoImplicit false

namespace ChatSocket

/-- The socket packet that a frame carries. -/
def Frame.socketPacket? (frame : Frame) : Option Socket.Packet :=
  match Engine.Packet.decode? frame with
  | some (.message payload) => some (Socket.Packet.decode payload)
  | _ => none

theorem Frame.socketPacket?_of_message (frame : Frame) (payload : String)
    (read : Engine.Packet.decode? frame = some (.message payload)) :
    frame.socketPacket? = some (Socket.Packet.decode payload) := by
  simp [Frame.socketPacket?, read]

theorem Frame.socketPacket?_eq_some_iff (frame : Frame) (packet : Socket.Packet) :
    frame.socketPacket? = some packet ↔
      ∃ payload, Engine.Packet.decode? frame = some (.message payload) ∧
        Socket.Packet.decode payload = packet := by
  constructor
  · intro carried
    cases read : Engine.Packet.decode? frame with
    | none => simp [Frame.socketPacket?, read] at carried
    | some outer =>
        cases outer <;> simp [Frame.socketPacket?, read] at carried
        exact ⟨_, rfl, carried⟩
  · rintro ⟨payload, read, rfl⟩
    exact frame.socketPacket?_of_message payload read

namespace Connection

inductive Silent (frame : Frame) : Prop
  /-- The frame belongs to the transport. -/
  | control (read : Engine.Packet.decode? frame = none)
  | engineClose (read : Engine.Packet.decode? frame = some .close)
  | upgrade (read : Engine.Packet.decode? frame = some .upgrade)
  | noop (read : Engine.Packet.decode? frame = some .noop)
  | disconnect (ns : String) (read : frame.socketPacket? = some (.disconnect ns))
  | acknowledge (ns : String) (ackId : UInt64) (data : Option (List Json))
      (read : frame.socketPacket? = some (.acknowledge ns ackId data))

inductive Malformed (frame : Frame) : ProtocolError → Prop
  | engine (raw reason : String) (cause : Option String)
      (read : Engine.Packet.decode? frame = some (.broken raw reason cause)) :
      Malformed frame
        ⟨.engine (.broken raw reason cause), "received broken engine packet: " ++ reason, cause⟩
  | opening (data : Engine.Open) (read : Engine.Packet.decode? frame = some (.opening data))
      (zero : data.pingInterval.isZero = true ∨ data.pingTimeout.isZero = true) :
      Malformed frame
        ⟨.engine (.opening data), "ping interval and ping timeout must be positive", none⟩
  | binary (bytes : List UInt8) (read : Engine.Packet.decode? frame = some (.binary bytes)) :
      Malformed frame ⟨.engine (.binary bytes), "binary messages are not supported", none⟩
  | socket (raw reason : String) (cause : Option String)
      (read : frame.socketPacket? = some (.broken raw reason cause)) :
      Malformed frame
        ⟨.socket (.broken raw reason cause), "received broken socket packet: " ++ reason, cause⟩
  | binaryEvent (ns : String) (ackId : Option UInt64) (name : String) (bytes : List UInt8)
      (read : frame.socketPacket? = some (.binaryEvent ns ackId name bytes)) :
      Malformed frame
        ⟨.socket (.binaryEvent ns ackId name bytes), "binary packets are not supported", none⟩
  | binaryAcknowledge (ns : String) (ackId : UInt64) (bytes : Option (List UInt8))
      (read : frame.socketPacket? = some (.binaryAcknowledge ns ackId bytes)) :
      Malformed frame
        ⟨.socket (.binaryAcknowledge ns ackId bytes), "binary packets are not supported", none⟩
  /-- The name, the number of arguments or the argument itself does not fit. -/
  | event (ns : String) (ackId : Option UInt64) (name : String) (args : List Json)
      (error : ProtocolError) (read : frame.socketPacket? = some (.event ns ackId name args))
      (refused : Event.decode (.event ns ackId name args) = .protocolError error) :
      Malformed frame error

end Connection

end ChatSocket
