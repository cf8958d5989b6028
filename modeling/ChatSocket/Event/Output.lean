import ChatSocket.Identifier

/-!
# What an endpoint says

The arguments of the events that an endpoint sends, and how each stands in JSON.
-/

set_option autoImplicit false

namespace ChatSocket

open Json.Schema (Result Shape Place field? item? item needField optional string bool signed any
  variant record)

/-! ## Output of the flow -/

structure OutputMessage where
  text : Option String
  data : Option Json
  traceId : String
  disableSensitiveLogging : Bool
  source : Source
  deriving Repr

namespace OutputMessage

def shape : Shape := ⟨"OutputData", 5⟩

def ofMembers (members : Json.Members) : Result OutputMessage := do
  let data ← field? "data" (optional any) members
  let disableSensitiveLogging ← field? "disableSensitiveLogging" bool members
  let source ← field? "source" Identifier.ofJson members
  let text ← field? "text" (optional string) members
  let traceId ← field? "traceId" string members
  let traceId ← needField "traceId" traceId
  let disableSensitiveLogging ← needField "disableSensitiveLogging" disableSensitiveLogging
  let source ← needField "source" source
  return {
    text := text.getD none
    data := data.getD none
    traceId, disableSensitiveLogging, source }

def ofItems (items : List Json) : Result OutputMessage := do
  let text ← item? 0 (optional string) items
  let data ← item? 1 (optional any) items
  let traceId ← item shape 2 string items
  let disableSensitiveLogging ← item shape 3 bool items
  let source ← item shape 4 Identifier.ofJson items
  return {
    text := text.getD none
    data := data.getD none
    traceId, disableSensitiveLogging, source }

def ofJson (place : Place) : Json → Result OutputMessage := record shape place ofMembers ofItems

def toJson (output : OutputMessage) : Json :=
  .record [
    ("text", output.text.map .string),
    ("data", output.data),
    ("traceId", some (.string output.traceId)),
    ("disableSensitiveLogging", some (.bool output.disableSensitiveLogging)),
    ("source", output.source.toJson)]

end OutputMessage

/-! ## Errors of the endpoint -/

structure ErrorContent where
  code : Int64
  message : Option String
  deriving DecidableEq, Repr

namespace ErrorContent

def shape : Shape := ⟨"ErrorContent", 2⟩

def ofMembers (members : Json.Members) : Result ErrorContent := do
  let code ← field? "code" signed members
  let message ← field? "message" (optional string) members
  return ⟨← needField "code" code, message.getD none⟩

def ofItems (items : List Json) : Result ErrorContent := do
  let code ← item shape 0 signed items
  let message ← item? 1 (optional string) items
  return ⟨code, message.getD none⟩

def ofJson (place : Place) : Json → Result ErrorContent := record shape place ofMembers ofItems

def toJson (content : ErrorContent) : Json :=
  .record [("code", some (.ofInt content.code.toInt)), ("message", content.message.map .string)]

end ErrorContent

/-- An error that may come without details. -/
structure OutputError where
  content : Option ErrorContent
  deriving DecidableEq, Repr

namespace OutputError

def shape : Shape := ⟨"ErrorData", 1⟩

def ofJson (place : Place) : Json → Result OutputError :=
  record shape place
    (fun members => do
      let content ← field? "error" (optional (ErrorContent.ofJson place)) members
      return ⟨content.getD none⟩)
    (fun items => do
      let content ← item? 0 (optional (ErrorContent.ofJson place)) items
      return ⟨content.getD none⟩)

def toJson (error : OutputError) : Json :=
  .record [("error", error.content.map ErrorContent.toJson)]

end OutputError

/-! ## Tagged output

Messages and errors share an event and are told apart by a tag, which is read
before what it tags. -/

inductive Output where
  | message (data : OutputMessage)
  | error (data : OutputError)
  deriving Repr

namespace Output

inductive Tag where
  | output
  | error
  deriving DecidableEq, Repr

def Tag.name : Tag → String
  | .output => "output"
  | .error => "error"

def Tag.shapeName : Tag → String
  | .output => "struct variant OutputWire::Message"
  | .error => "struct variant OutputWire::Error"

def Tag.ofJson : Json → Result Tag
  | .string name =>
      match [Tag.output, Tag.error].find? (·.name == name) with
      | some tag => .ok tag
      | none => .error (.unknownVariant name [Tag.output.name, Tag.error.name])
  | other => .error (.invalidType other.found "variant identifier")

/-- The data that a tag announces. -/
def ofTagged (tag : Tag) (data : Json) : Result Output :=
  match tag with
  | .output => .message <$> OutputMessage.ofJson .tagged data
  | .error => .error <$> OutputError.ofJson .tagged data

def ofMembers (members : Json.Members) : Result Output := do
  let tag ← needField "type" (← field? "type" Tag.ofJson members)
  needField "data" (← field? "data" (ofTagged tag) members)

def ofItems : List Json → Result Output
  | [] => .error (.missingField "type")
  | first :: rest => do
      let tag ← Tag.ofJson first
      match rest with
      | [] => .error (.invalidLength 0 (tag.shapeName ++ " with " ++ Json.Schema.elementCount 1))
      | data :: surplus => do
          let output ← ofTagged tag data
          if surplus.isEmpty then return output
          else .error (Place.tagged.surplus (surplus.length + 1) 1)

def ofJson : Json → Result Output
  | .object members => ofMembers members
  | .array items => ofItems items
  | other => .error (.invalidType other.found "internally tagged enum OutputWire")

def toJson : Output → Json
  | .message data => .record [("type", some (.string Tag.output.name)), ("data", data.toJson)]
  | .error data => .record [("type", some (.string Tag.error.name)), ("data", data.toJson)]

end Output

/-! ## Signals -/

inductive TypingStatus where
  | on
  | off
  deriving DecidableEq, Repr

namespace TypingStatus

def name : TypingStatus → String
  | .on => "typingOn"
  | .off => "typingOff"

def schema : Json → Result TypingStatus :=
  variant ([on, off].map fun status => (status.name, status))

def shape : Shape := ⟨"TypingStatusWire", 1⟩

def ofJson : Json → Result TypingStatus :=
  record shape .argument
    (fun members => do needField "status" (← field? "status" schema members))
    (fun items => item shape 0 schema items)

def toJson (status : TypingStatus) : Json := .record [("status", some (.string status.name))]

end TypingStatus

/-- How the processing of an input ended. -/
inductive FinalPing where
  | stopFlow
  | regular
  | error
  deriving DecidableEq, Repr

namespace FinalPing

def name : FinalPing → String
  | .stopFlow => "cognigyStopFlow"
  | .regular => "regular"
  | .error => "error"

def schema : Json → Result FinalPing :=
  variant ([stopFlow, regular, error].map fun ping => (ping.name, ping))

def shape : Shape := ⟨"FinalPingWire", 1⟩

def ofJson : Json → Result FinalPing :=
  record shape .argument
    (fun members => do needField "type" (← field? "type" schema members))
    (fun items => item shape 0 schema items)

def toJson (ping : FinalPing) : Json := .record [("type", some (.string ping.name))]

end FinalPing

/-- A node of the flow was executed. -/
structure TriggeredElement where
  id : String
  isDisableSensitiveLogging : Bool
  result : Option Bool
  deriving DecidableEq, Repr

namespace TriggeredElement

def shape : Shape := ⟨"TriggeredElement", 3⟩

def ofMembers (members : Json.Members) : Result TriggeredElement := do
  let id ← field? "id" string members
  let logging ← field? "isDisableSensitiveLogging" bool members
  let result ← field? "result" (optional bool) members
  let id ← needField "id" id
  let logging ← needField "isDisableSensitiveLogging" logging
  return ⟨id, logging, result.getD none⟩

def ofItems (items : List Json) : Result TriggeredElement := do
  let id ← item shape 0 string items
  let logging ← item shape 1 bool items
  let result ← item? 2 (optional bool) items
  return ⟨id, logging, result.getD none⟩

def ofJson : Json → Result TriggeredElement := record shape .argument ofMembers ofItems

def toJson (element : TriggeredElement) : Json :=
  .record [
    ("id", some (.string element.id)),
    ("isDisableSensitiveLogging", some (.bool element.isDisableSensitiveLogging)),
    ("result", element.result.map .bool)]

end TriggeredElement

/-- The endpoint waits for input.  The argument says nothing more. -/
def endpointReadyOfJson : Json → Result Unit :=
  record ⟨"EndpointReadyWire", 0⟩ .argument (fun _ => .ok ()) (fun _ => .ok ())

/-- An exception of the endpoint: any value, null included, but it must be there. -/
def exceptionOfJson : Json → Result Json :=
  record ⟨"ExceptionWire", 1⟩ .argument
    (fun members => do needField "error" (← field? "error" any members))
    (fun items => item ⟨"ExceptionWire", 1⟩ 0 any items)

def exceptionToJson (error : Json) : Json := .record [("error", some error)]

end ChatSocket
