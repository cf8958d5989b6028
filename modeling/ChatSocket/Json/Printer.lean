import ChatSocket.Json.Value
import ChatSocket.Number.Shortest

/-!
# Compact JSON text

No blanks.  Strings escape only what must be escaped: the quote, the backslash
and the controls below U+0020.
-/

set_option autoImplicit false

namespace ChatSocket.Json

/-- Doubles are written with a point or with an exponent, so that they never
read back as integers: plainly from `0.00001` to `1000000000000000.0`, and with
a signed exponent outside. -/
def realLayout : Number.Layout := ⟨-5, 15, "e", "+"⟩

def writeReal (x : Number.Binary64) : String := realLayout.write x

def Number.write : Json.Number → String
  | .integer value => toString value
  | .real value => writeReal value

/-- A digit in base sixteen, lower case. -/
def hexDigit (n : Nat) : Char := Nat.digitChar (n % 16)

/-- The written form of one character inside a string. -/
def escapeChar (c : Char) : List Char :=
  match c with
  | '"' => ['\\', '"']
  | '\\' => ['\\', '\\']
  | '\x08' => ['\\', 'b']
  | '\x0c' => ['\\', 'f']
  | '\n' => ['\\', 'n']
  | '\r' => ['\\', 'r']
  | '\t' => ['\\', 't']
  | _ =>
      if c.toNat < 0x20 then ['\\', 'u', '0', '0', hexDigit (c.toNat / 16), hexDigit c.toNat]
      else [c]

/-- A string between its quotes. -/
def quote (text : String) : List Char := '"' :: text.toList.flatMap escapeChar ++ ['"']

mutual

/-- The characters of the compact text of a value. -/
def print : Json → List Char
  | .null => ['n', 'u', 'l', 'l']
  | .bool true => ['t', 'r', 'u', 'e']
  | .bool false => ['f', 'a', 'l', 's', 'e']
  | .number value => value.write.toList
  | .string value => quote value
  | .array items => '[' :: printItems items ++ [']']
  | .object members => '\x7b' :: printMembers members ++ ['\x7d']

/-- Elements with commas between them. -/
def printItems : List Json → List Char
  | [] => []
  | [item] => print item
  | item :: rest => print item ++ ',' :: printItems rest

/-- Members with commas between them. -/
def printMembers : List (String × Json) → List Char
  | [] => []
  | [(key, value)] => quote key ++ ':' :: print value
  | (key, value) :: rest => quote key ++ ':' :: print value ++ ',' :: printMembers rest

end

/-- The compact text of a value. -/
def write (value : Json) : String := String.ofList value.print

end ChatSocket.Json
