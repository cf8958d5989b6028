import ChatSocket.Json.Parser
import ChatSocket.Json.Schema

/-!
# Identifiers of a conversation

An identifier is a text with a role.  The role is part of the type, so that a
user is never taken for a session; it is not part of the text.
-/

set_option autoImplicit false

namespace ChatSocket

inductive Role where
  | session
  | user
  | token
  | channel
  | source
  deriving DecidableEq, Repr

def Role.label : Role → String
  | .session => "SessionId"
  | .user => "UserId"
  | .token => "EndpointToken"
  | .channel => "ChannelName"
  | .source => "Source"

structure Identifier (role : Role) where
  text : String
  deriving DecidableEq, Repr, Inhabited

/-- One conversation with the endpoint. -/
abbrev SessionId := Identifier .session

abbrev UserId := Identifier .user

/-- Grants access to the endpoint. -/
abbrev EndpointToken := Identifier .token

/-- A free label that is reported with every input. -/
abbrev ChannelName := Identifier .channel

/-- Where a message comes from. -/
abbrev Source := Identifier .source

namespace Identifier

variable {role : Role}

def debug (id : Identifier role) : String :=
  role.label ++ "(" ++ Text.quoted id.text ++ ")"

def toJson (id : Identifier role) : Json := .string id.text

def ofJson (value : Json) : Json.Schema.Result (Identifier role) :=
  Identifier.mk <$> Json.Schema.string value

/-- Identifiers are ordered as their texts, by code points. -/
def order (first second : Identifier role) : Ordering :=
  compareOfLessAndEq first.text second.text

theorem ofJson_toJson (id : Identifier role) : ofJson id.toJson = .ok id := rfl

end Identifier

namespace Source

/-- Input from a device integration. -/
def device : Source := ⟨"device"⟩

def user : Source := ⟨"user"⟩

/-- Output of the flow. -/
def bot : Source := ⟨"bot"⟩

/-- Output of a person who answers for the endpoint. -/
def agent : Source := ⟨"agent"⟩

end Source

namespace SessionId

def hexPadded (width value : Nat) : String :=
  let digits := (Nat.toDigits 16 value)
  String.ofList (List.replicate (width - digits.length) '0' ++ digits)

/-- A session named by 122 random bits, in the form of a random UUID: version 4,
variant 1.  The six bits that mark the form are not taken from the arguments. -/
def ofRandomBits (high low : UInt64) : SessionId :=
  let high := high.toNat
  let low := low.toNat
  let version := 0x4000 + high % 0x1000
  let variant := 0x8000 + low / 0x1000000000000 % 0x4000
  ⟨"-".intercalate [
    hexPadded 8 (high / 0x100000000), hexPadded 4 (high / 0x10000 % 0x10000),
    hexPadded 4 version, hexPadded 4 variant, hexPadded 12 (low % 0x1000000000000)]⟩

end SessionId

end ChatSocket
