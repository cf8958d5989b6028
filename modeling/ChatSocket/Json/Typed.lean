import ChatSocket.Json.Parser
import ChatSocket.Json.Schema

/-!
# Reading text by a schema

A reader that knows what it wants refuses a value as soon as it has seen it: a
scalar after its last character, an array or an object at its bracket.
-/

set_option autoImplicit false

namespace ChatSocket.Json

/-- Takes over what a schema says, at the place reached. -/
def fit {α : Type} (result : Schema.Result α) (rest : List Char) : Except Halt (α × List Char) :=
  match result with
  | .ok value => .ok (value, rest)
  | .error reason => .error ⟨.mismatch reason, byteCount rest⟩

/-- A value that has no parts. -/
def readScalar {α : Type} (schema : Json → Schema.Result α) (chars : List Char) :
    Except Halt (α × List Char) :=
  match skipBlanks chars with
  | '[' :: rest => fit (schema (.array [])) ('[' :: rest)
  | '\x7b' :: rest => fit (schema (.object [])) ('\x7b' :: rest)
  | rest => do
      let (value, rest) ← readValue 1 maxDepth rest
      fit (schema value) rest

/-- Refuses whatever value comes next. -/
def refuseNext {α : Type} (expected : String) (chars : List Char) : Except Halt (α × List Char) :=
  readScalar (fun value => .error (.invalidType value.found expected)) chars

/-- Elements without parts, after those in `read`, up to the closing bracket.
Each takes a character, so the length of the text is fuel enough. -/
def readScalars {α : Type} (schema : Json → Schema.Result α) :
    Nat → Bool → List α → List Char → Except Halt (List α × List Char)
  | 0, _, _, chars => haltAt .eofInList chars
  | fuel + 1, first, read, chars => do
      let (more, rest) ← nextItem first chars
      match more with
      | none => return (read.reverse, rest)
      | some () =>
          let (value, rest) ← readScalar schema rest
          readScalars schema fuel false (value :: read) rest

/-- An array of values without parts. -/
def readSequence {α : Type} (schema : Json → Schema.Result α) (chars : List Char) :
    Except Halt (List α × List Char) :=
  match skipBlanks chars with
  | '[' :: rest => readScalars schema (rest.length + 1) true [] rest
  | rest => refuseNext "a sequence" rest

/-- Reads a text that holds one value without parts. -/
def parseScalar {α : Type} (schema : Json → Schema.Result α) (text : String) :
    Except TextFault α :=
  readAll (readScalar schema) text

end ChatSocket.Json
