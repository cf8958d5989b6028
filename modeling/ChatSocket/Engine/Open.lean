import ChatSocket.Duration
import ChatSocket.Json.Skip
import ChatSocket.Json.Typed

/-!
# What a server opens a session with

The data come as JSON text and are read straight from it: an object whose
members are checked in the order in which they stand, or an array of the fields
in the order in which they are written here.  Fields that are not known are
passed over.
-/

set_option autoImplicit false

namespace ChatSocket.Engine

open Json (Halt haltAt haltPast byteCount skipBlanks)

structure Open where
  sid : String
  upgrades : List String
  pingInterval : Duration
  pingTimeout : Duration
  maxPayload : Option UInt64
  deriving DecidableEq, Repr

namespace Open

def shape : Json.Schema.Shape := ⟨"OpenData", 5⟩

def schemaMillis (value : Json) : Json.Schema.Result Duration :=
  (fun count => Duration.ofMillis count.toNat) <$> Json.Schema.unsigned value

def schemaMaxPayload : Json → Json.Schema.Result (Option UInt64) :=
  Json.Schema.optional Json.Schema.unsigned

/-! ## Fields -/

inductive Field where
  | sid
  | upgrades
  | pingInterval
  | pingTimeout
  | maxPayload
  deriving DecidableEq, Repr

def Field.key : Field → String
  | .sid => "sid"
  | .upgrades => "upgrades"
  | .pingInterval => "pingInterval"
  | .pingTimeout => "pingTimeout"
  | .maxPayload => "maxPayload"

/-- All fields, in the order in which they are written. -/
def Field.all : List Field := [.sid, .upgrades, .pingInterval, .pingTimeout, .maxPayload]

def Field.ofKey? (key : String) : Option Field := Field.all.find? (·.key == key)

/-- What has been read so far.  A limit that is null has been read too. -/
structure Partial where
  sid : Option String
  upgrades : Option (List String)
  pingInterval : Option Duration
  pingTimeout : Option Duration
  maxPayload : Option (Option UInt64)

def Partial.empty : Partial := ⟨none, none, none, none, none⟩

def Partial.has (parts : Partial) : Field → Bool
  | .sid => parts.sid.isSome
  | .upgrades => parts.upgrades.isSome
  | .pingInterval => parts.pingInterval.isSome
  | .pingTimeout => parts.pingTimeout.isSome
  | .maxPayload => parts.maxPayload.isSome

/-- Reads the value of a field. -/
def readField (field : Field) (parts : Partial) (chars : List Char) :
    Except Halt (Partial × List Char) := do
  match field with
  | .sid =>
      let (value, rest) ← Json.readScalar Json.Schema.string chars
      return ({ parts with sid := some value }, rest)
  | .upgrades =>
      let (value, rest) ← Json.readSequence Json.Schema.string chars
      return ({ parts with upgrades := some value }, rest)
  | .pingInterval =>
      let (value, rest) ← Json.readScalar schemaMillis chars
      return ({ parts with pingInterval := some value }, rest)
  | .pingTimeout =>
      let (value, rest) ← Json.readScalar schemaMillis chars
      return ({ parts with pingTimeout := some value }, rest)
  | .maxPayload =>
      let (value, rest) ← Json.readScalar schemaMaxPayload chars
      return ({ parts with maxPayload := some value }, rest)

/-- Every field must have been read, the limit apart. -/
def Partial.finish (parts : Partial) : Json.Schema.Result Open := do
  let sid ← Json.Schema.needField "sid" parts.sid
  let upgrades ← Json.Schema.needField "upgrades" parts.upgrades
  let pingInterval ← Json.Schema.needField "pingInterval" parts.pingInterval
  let pingTimeout ← Json.Schema.needField "pingTimeout" parts.pingTimeout
  return ⟨sid, upgrades, pingInterval, pingTimeout, parts.maxPayload.getD none⟩

/-! ## Objects -/

/-- Refuses what was read, with a bracket that closes it at once read as well. -/
def refuseBefore {α : Type} (bracket : Char) (reason : Json.Mismatch) (chars : List Char) :
    Except Halt α :=
  let rest := match skipBlanks chars with
    | [] => []
    | c :: rest => if c = bracket then rest else c :: rest
  .error ⟨.mismatch reason, byteCount rest⟩

/-- Members after those in `parts`, up to the closing brace.  The fuel bounds their
number and what a member that is passed over may hold. -/
def readMembers : Nat → Bool → Partial → List Char → Except Halt (Partial × List Char)
  | 0, _, _, chars => haltAt .eofInObject chars
  | fuel + 1, first, parts, chars => do
      let (more, rest) ← Json.nextKey first chars
      match more with
      | none => return (parts, rest)
      | some () =>
          let (key, rest) ← Json.stringBody rest
          match Field.ofKey? key with
          | some field =>
              if parts.has field then refuseBefore '\x7d' (.duplicateField key) rest
              else
                let (parts, rest) ← readField field parts (← Json.colon rest)
                readMembers fuel false parts rest
          | none =>
              let rest ← Json.colon rest
              readMembers fuel false parts (← Json.skipValue fuel rest)

/-! ## Arrays -/

/-- Elements for the given fields, the first of which has the given index. -/
def readItems : List Field → Nat → Partial → List Char → Except Halt (Partial × List Char)
  | [], _, parts, chars =>
      match skipBlanks chars with
      | [] => haltAt .eofInList []
      | ']' :: rest => .ok (parts, rest)
      | ',' :: rest =>
          match skipBlanks rest with
          | ']' :: rest => haltPast .trailingComma (']' :: rest)
          | rest => haltPast .trailingCharacters rest
      | rest => haltPast .trailingCharacters rest
  | field :: fields, index, parts, chars => do
      let (more, rest) ← Json.nextItem (index == 0) chars
      match more with
      | some () =>
          let (parts, rest) ← readField field parts rest
          readItems fields (index + 1) parts rest
      | none =>
          if field = .maxPayload then return (parts, rest)
          else .error ⟨.mismatch (.invalidLength index shape.expectedItems), byteCount rest⟩

/-! ## The whole -/

def read (chars : List Char) : Except Halt (Open × List Char) := do
  match skipBlanks chars with
  | '\x7b' :: rest =>
      let (parts, rest) ← readMembers (Json.fuelFor rest) true Partial.empty rest
      Json.fit parts.finish rest
  | '[' :: rest =>
      let (parts, rest) ← readItems Field.all 0 Partial.empty rest
      Json.fit parts.finish rest
  | rest => Json.refuseNext shape.expected rest

def parse (text : String) : Except Json.TextFault Open := Json.readAll read text

/-- Writes the fields in their order.  Spans of time are whole milliseconds, and a
limit that is not there is not written. -/
def write (data : Open) : String :=
  let members : List (String × Json) := [
    ("sid", .string data.sid),
    ("upgrades", .array (data.upgrades.map .string)),
    ("pingInterval", .ofNat data.pingInterval.millis),
    ("pingTimeout", .ofNat data.pingTimeout.millis)]
  let limit := match data.maxPayload with
    | some bytes => [("maxPayload", Json.ofNat bytes.toNat)]
    | none => []
  Json.write (.object (members ++ limit))

end Open

end ChatSocket.Engine
