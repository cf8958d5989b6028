import ChatSocket.Identifier

/-!
# User input

What a user says, with the identity of the conversation it belongs to.
-/

set_option autoImplicit false

namespace ChatSocket

/-- What an input undoes before it is processed. -/
structure ResetFlags where
  reloadFlow : Bool
  resetFlow : Bool
  resetState : Bool
  resetContext : Bool
  deriving DecidableEq, Repr

/-- Undoes nothing. -/
def ResetFlags.none : ResetFlags := ⟨false, false, false, false⟩

structure ProcessInput where
  token : EndpointToken
  user : UserId
  session : SessionId
  channel : Option ChannelName
  source : Source
  passthroughIp : Option String
  flags : ResetFlags
  text : Option String
  data : Option Json
  deriving Repr

namespace ProcessInput

open Json.Schema (Result field? item? item needField optional string bool any)

def shape : Json.Schema.Shape := ⟨"ProcessInput", 12⟩

/-- Members are checked in the order of their keys, and only then are those that
are missing named, in the order in which they are written. -/
def ofMembers (members : Json.Members) : Result ProcessInput := do
  let token ← field? "URLToken" Identifier.ofJson members
  let channel ← field? "channel" (optional Identifier.ofJson) members
  let data ← field? "data" (optional any) members
  let passthroughIp ← field? "passthroughIP" (optional string) members
  let reloadFlow ← field? "reloadFlow" bool members
  let resetContext ← field? "resetContext" bool members
  let resetFlow ← field? "resetFlow" bool members
  let resetState ← field? "resetState" bool members
  let session ← field? "sessionId" Identifier.ofJson members
  let source ← field? "source" Identifier.ofJson members
  let text ← field? "text" (optional string) members
  let user ← field? "userId" Identifier.ofJson members
  let token ← needField "URLToken" token
  let user ← needField "userId" user
  let session ← needField "sessionId" session
  let source ← needField "source" source
  let reloadFlow ← needField "reloadFlow" reloadFlow
  let resetFlow ← needField "resetFlow" resetFlow
  let resetState ← needField "resetState" resetState
  let resetContext ← needField "resetContext" resetContext
  return {
    token, user, session, source
    channel := channel.getD none
    passthroughIp := passthroughIp.getD none
    flags := ⟨reloadFlow, resetFlow, resetState, resetContext⟩
    text := text.getD none
    data := data.getD none }

def ofItems (items : List Json) : Result ProcessInput := do
  let token ← item shape 0 Identifier.ofJson items
  let user ← item shape 1 Identifier.ofJson items
  let session ← item shape 2 Identifier.ofJson items
  let channel ← item? 3 (optional Identifier.ofJson) items
  let source ← item shape 4 Identifier.ofJson items
  let passthroughIp ← item? 5 (optional string) items
  let reloadFlow ← item shape 6 bool items
  let resetFlow ← item shape 7 bool items
  let resetState ← item shape 8 bool items
  let resetContext ← item shape 9 bool items
  let text ← item? 10 (optional string) items
  let data ← item? 11 (optional any) items
  return {
    token, user, session, source
    channel := channel.getD none
    passthroughIp := passthroughIp.getD none
    flags := ⟨reloadFlow, resetFlow, resetState, resetContext⟩
    text := text.getD none
    data := data.getD none }

def ofJson : Json → Result ProcessInput :=
  Json.Schema.record shape .argument ofMembers ofItems

def toJson (input : ProcessInput) : Json :=
  .record [
    ("URLToken", input.token.toJson),
    ("userId", input.user.toJson),
    ("sessionId", input.session.toJson),
    ("channel", input.channel.map Identifier.toJson),
    ("source", input.source.toJson),
    ("passthroughIP", input.passthroughIp.map .string),
    ("reloadFlow", some (.bool input.flags.reloadFlow)),
    ("resetFlow", some (.bool input.flags.resetFlow)),
    ("resetState", some (.bool input.flags.resetState)),
    ("resetContext", some (.bool input.flags.resetContext)),
    ("text", input.text.map .string),
    ("data", input.data)]

end ProcessInput

end ChatSocket
