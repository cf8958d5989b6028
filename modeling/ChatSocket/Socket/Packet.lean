import ChatSocket.Error
import ChatSocket.Json.Parser
import ChatSocket.Json.Schema
import ChatSocket.Socket.Header

/-!
# Socket packets

The inner layer of the conversation: what an engine message carries.  Decoding
never fails: what cannot be read is a `broken` packet that keeps the whole text.
Packets with binary attachments are known but cannot be encoded.
-/

set_option autoImplicit false

namespace ChatSocket.Socket

/-- Why a namespace could not be joined. -/
structure Refusal where
  message : String
  data : Option Json
  deriving Repr

inductive Packet where
  | connect (ns : String) (data : Option Json.Members)
  | disconnect (ns : String)
  | event (ns : String) (ackId : Option UInt64) (name : String) (args : List Json)
  | acknowledge (ns : String) (ackId : UInt64) (data : Option (List Json))
  | connectError (ns : String) (data : Option Refusal)
  | binaryEvent (ns : String) (ackId : Option UInt64) (name : String) (bytes : List UInt8)
  | binaryAcknowledge (ns : String) (ackId : UInt64) (bytes : Option (List UInt8))
  | broken (raw reason : String) (cause : Option String)
  deriving Repr

/-- The namespace of packets that name none. -/
def defaultNamespace : String := "/"

/-! ## Refusals -/

namespace Refusal

def shape : Json.Schema.Shape := ⟨"ConnectErrorData", 2⟩

def ofJson : Json → Json.Schema.Result Refusal :=
  Json.Schema.record shape .argument
    (fun members => do
      let data ← Json.Schema.field? "data" (Json.Schema.optional Json.Schema.any) members
      let message ← Json.Schema.field? "message" Json.Schema.string members
      return ⟨← Json.Schema.needField "message" message, data.getD none⟩)
    (fun items => do
      let message ← Json.Schema.item shape 0 Json.Schema.string items
      let data ← Json.Schema.item? 1 (Json.Schema.optional Json.Schema.any) items
      return ⟨message, data.getD none⟩)

def toJson (refusal : Refusal) : Json :=
  .record [("message", some (.string refusal.message)), ("data", refusal.data)]

end Refusal

namespace Packet

def isBroken : Packet → Bool
  | .broken .. => true
  | _ => false

def ns? : Packet → Option String
  | .connect ns _ | .disconnect ns | .event ns _ _ _ | .acknowledge ns _ _ | .connectError ns _
  | .binaryEvent ns _ _ _ | .binaryAcknowledge ns _ _ => some ns
  | .broken .. => none

/-! ## Decoding -/

/-- What is wrong with a text: a reason, and perhaps a deeper one. -/
structure Defect where
  reason : String
  cause : Option String
  deriving DecidableEq, Repr

def readPayload (payload : List Char) : Except Defect Json :=
  (Json.parse (String.ofList payload)).mapError fun fault =>
    ⟨"broken json payload", fault.message⟩

/-- A payload that may be left out. -/
def readOptional (payload : List Char) : Except Defect (Option Json) :=
  if payload.isEmpty then .ok none else some <$> readPayload payload

def decodeConnect (ns : String) (payload : List Char) : Except Defect Packet := do
  match ← readOptional payload with
  | none => return .connect ns none
  | some (.object members) => return .connect ns members
  | some _ => .error ⟨"Connect expects a JSON object or no payload", none⟩

def decodeEvent (ns : String) (ackId : Option UInt64) (payload : List Char) :
    Except Defect Packet := do
  match ← readPayload payload with
  | .array (.string name :: args) => return .event ns ackId name args
  | .array (other :: _) => .error ⟨"event name is not a string: " ++ Json.write other, none⟩
  | .array [] => .error ⟨"events need at least the event name in the data", none⟩
  | _ => .error ⟨"Events must have a JSON array as payload", none⟩

/-- The data are checked before the id. -/
def decodeAcknowledge (ns : String) (ackId : Option UInt64) (payload : List Char) :
    Except Defect Packet := do
  let data ← match ← readOptional payload with
    | none => pure none
    | some (.array items) => pure (some items)
    | some _ =>
        throw ⟨"Acknowledgements must have a JSON array as data or no data at all", none⟩
  match ackId with
  | some id => return .acknowledge ns id data
  | none => .error ⟨"Acknowledgements must have an acknowledgement id", none⟩

def decodeConnectError (ns : String) (payload : List Char) : Except Defect Packet := do
  match ← readOptional payload with
  | none => return .connectError ns none
  | some (.string message) => return .connectError ns (some ⟨message, none⟩)
  | some (.object members) =>
      match Refusal.ofJson (.object members) with
      | .ok refusal => return .connectError ns refusal
      | .error reason => .error ⟨"malformed error object", reason.message⟩
  | some _ => .error ⟨"error data is neither an object nor a string", none⟩

def decodeBody (header : Header) : Except Defect Packet :=
  let ns := (header.ns.map String.ofList).getD defaultNamespace
  match header.kind with
  | 0 => decodeConnect ns header.payload
  | 1 => .ok (.disconnect ns)
  | 2 => decodeEvent ns header.ackId header.payload
  | 3 => decodeAcknowledge ns header.ackId header.payload
  | 4 => decodeConnectError ns header.payload
  | 5 | 6 => .error ⟨"binary packets are not supported", none⟩
  | other => .error ⟨"unknown packet type: " ++ toString other, none⟩

def decodeAll (text : List Char) : Except Defect Packet := do
  let header ← (Header.scan text).mapError fun fault =>
    ⟨"failed to parse packet: " ++ fault.message, none⟩
  decodeBody header

/-- The packet that a text holds. -/
def decode (raw : String) : Packet :=
  match decodeAll raw.toList with
  | .ok packet => packet
  | .error defect => .broken raw defect.reason defect.cause

/-! ## Encoding -/

def encodeParts (kind : Nat) (ns : String) (ackId : Option UInt64) (payload : Option Json) :
    String :=
  toString kind ++ (if ns = defaultNamespace then "" else ns ++ ",") ++
    ((ackId.map fun id => toString id.toNat).getD "") ++ (payload.map Json.write).getD ""

def encode : Packet → Except Error String
  | .connect ns data => .ok (encodeParts 0 ns none (data.map .object))
  | .disconnect ns => .ok (encodeParts 1 ns none none)
  | .event ns ackId name args => .ok (encodeParts 2 ns ackId (some (.array (.string name :: args))))
  | .acknowledge ns ackId data => .ok (encodeParts 3 ns (some ackId) (data.map .array))
  | .connectError ns data => .ok (encodeParts 4 ns none (data.map Refusal.toJson))
  | .binaryEvent .. | .binaryAcknowledge .. =>
      .error (.unsupported "binary packets cannot be encoded")
  | .broken raw _ _ => .ok raw

end Packet

end ChatSocket.Socket
