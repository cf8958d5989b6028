import ChatSocket.Json.Lexer

/-!
# Reading JSON text

`parse` reads one value that fills the text.  Arrays and objects nest at most
127 deep.
-/

set_option autoImplicit false

namespace ChatSocket.Json

/-- One more than the number of arrays and objects that may enclose each other. -/
def maxDepth : Nat := 128

/-- What follows a key: a colon. -/
def colon (chars : List Char) : Except Halt (List Char) :=
  match skipBlanks chars with
  | [] => haltAt .eofInObject []
  | ':' :: rest => .ok rest
  | rest => haltPast .expectedColon rest

/-- What stands before the next element of an array: nothing before the first,
a comma before the others.  Answers nothing at the closing bracket. -/
def nextItem (first : Bool) (chars : List Char) : Except Halt (Option Unit × List Char) :=
  match skipBlanks chars with
  | [] => haltAt .eofInList []
  | ']' :: rest => .ok (none, rest)
  | c :: rest =>
      if first then .ok (some (), c :: rest)
      else if c = ',' then
        match skipBlanks rest with
        | [] => haltAt .eofInValue []
        | ']' :: rest => haltPast .trailingComma (']' :: rest)
        | rest => .ok (some (), rest)
      else haltPast .expectedCommaOrBracket (c :: rest)

/-- What stands before the next key of an object, up to its opening quote.
Answers nothing at the closing brace. -/
def nextKey (first : Bool) (chars : List Char) : Except Halt (Option Unit × List Char) :=
  match skipBlanks chars with
  | [] => haltAt .eofInObject []
  | '\x7d' :: rest => .ok (none, rest)
  | c :: rest =>
      if first then
        if c = '"' then .ok (some (), rest) else haltPast .keyMustBeString (c :: rest)
      else if c = ',' then
        match skipBlanks rest with
        | [] => haltAt .eofInValue []
        | '"' :: rest => .ok (some (), rest)
        | '\x7d' :: rest => haltPast .trailingComma ('\x7d' :: rest)
        | rest => haltPast .keyMustBeString rest
      else haltPast .expectedCommaOrBrace (c :: rest)

mutual

/-- One value.  The fuel bounds the number of calls, `depth` the nesting. -/
def readValue : Nat → Nat → List Char → Except Halt (Json × List Char)
  | 0, _, chars => haltAt .eofInValue chars
  | fuel + 1, depth, chars =>
      match skipBlanks chars with
      | [] => haltAt .eofInValue []
      | 'n' :: rest => do return (.null, ← literal ['u', 'l', 'l'] rest)
      | 't' :: rest => do return (.bool true, ← literal ['r', 'u', 'e'] rest)
      | 'f' :: rest => do return (.bool false, ← literal ['a', 'l', 's', 'e'] rest)
      | '-' :: rest => do
          let (value, rest) ← numberBody true rest
          return (.number value, rest)
      | '"' :: rest => do
          let (value, rest) ← stringBody rest
          return (.string value, rest)
      | '[' :: rest => do
          if depth ≤ 1 then haltPast .tooDeep ('[' :: rest)
          else
            let (items, rest) ← readItems fuel (depth - 1) true [] rest
            return (.array items, rest)
      | '\x7b' :: rest => do
          if depth ≤ 1 then haltPast .tooDeep ('\x7b' :: rest)
          else
            let (members, rest) ← readMembers fuel (depth - 1) true [] rest
            return (.object members, rest)
      | c :: rest =>
          if c.isDigit then do
            let (value, rest) ← numberBody false (c :: rest)
            return (.number value, rest)
          else haltPast .expectedValue (c :: rest)

/-- The elements of an array up to its closing bracket, after those in `read`. -/
def readItems : Nat → Nat → Bool → List Json → List Char → Except Halt (List Json × List Char)
  | 0, _, _, _, chars => haltAt .eofInList chars
  | fuel + 1, depth, first, read, chars => do
      let (more, rest) ← nextItem first chars
      match more with
      | none => return (read.reverse, rest)
      | some () =>
          let (item, rest) ← readValue fuel depth rest
          readItems fuel depth false (item :: read) rest

/-- The members of an object up to its closing brace, put among those in `read`. -/
def readMembers : Nat → Nat → Bool → Members → List Char → Except Halt (Members × List Char)
  | 0, _, _, _, chars => haltAt .eofInObject chars
  | fuel + 1, depth, first, read, chars => do
      let (more, rest) ← nextKey first chars
      match more with
      | none => return (read, rest)
      | some () =>
          let (key, rest) ← stringBody rest
          let rest ← colon rest
          let (value, rest) ← readValue fuel depth rest
          readMembers fuel depth false (read.insert key value) rest

end

/-- Fuel for a text: every call but one in three reads a character. -/
def fuelFor (chars : List Char) : Nat := 3 * chars.length + 3

/-- Runs a reader over a whole text; only blanks may follow what it reads. -/
def readAll {α : Type} (reader : List Char → Except Halt (α × List Char)) (text : String) :
    Except TextFault α :=
  let chars := text.toList
  let whole : Except Halt α := do
    let (value, rest) ← reader chars
    match skipBlanks rest with
    | [] => return value
    | rest => haltPast .trailingCharacters rest
  whole.mapError (·.locate chars)

/-- The JSON value that a text holds. -/
def parse (text : String) : Except TextFault Json :=
  readAll (fun chars => readValue (fuelFor chars) maxDepth chars) text

end ChatSocket.Json
