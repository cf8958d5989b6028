import ChatSocket.Json.Lexer

/-!
# Passing over a value

A value that nobody asked for is only checked for its form: it may nest to any
depth, its numbers may have any size, and its escapes may name half a surrogate
pair.
-/

set_option autoImplicit false

namespace ChatSocket.Json

/-! ## Strings -/

/-- What stands after a backslash. -/
def skipEscape : List Char → Except Halt (List Char)
  | [] => haltAt .eofInString []
  | 'u' :: rest => do return (← hexFour rest).2
  | c :: rest =>
      match simpleEscape? c with
      | some _ => .ok rest
      | none => haltPast .invalidEscape (c :: rest)

/-- The rest of a string, up to and with its closing quote.  Each step takes a
character at least, so a budget as long as the text is enough. -/
def skipString : List Char → List Char → Except Halt (List Char)
  | _, [] => haltAt .eofInString []
  | [], chars => haltAt .eofInString chars
  | _ :: _, '"' :: rest => .ok rest
  | _ :: budget, '\\' :: rest => do skipString budget (← skipEscape rest)
  | _ :: budget, c :: rest =>
      if c.toNat < 0x20 then haltAt .controlCharacter (c :: rest) else skipString budget rest

/-! ## Numbers -/

/-- What stands after an exponent mark. -/
def skipExponent (chars : List Char) : Except Halt (List Char) :=
  let digits := match chars with
    | '+' :: rest => rest
    | '-' :: rest => rest
    | rest => rest
  match digits with
  | [] => haltAt .invalidNumber []
  | c :: rest =>
      if c.isDigit then .ok (rest.dropWhile Char.isDigit) else haltPast .invalidNumber (c :: rest)

def skipFraction (chars : List Char) : Except Halt (List Char) :=
  match chars with
  | [] => haltAt .invalidNumber []
  | c :: rest =>
      if !c.isDigit then haltPast .invalidNumber (c :: rest)
      else
        match rest.dropWhile Char.isDigit with
        | 'e' :: rest => skipExponent rest
        | 'E' :: rest => skipExponent rest
        | rest => .ok rest

def skipAfterInteger : List Char → Except Halt (List Char)
  | '.' :: rest => skipFraction rest
  | 'e' :: rest => skipExponent rest
  | 'E' :: rest => skipExponent rest
  | rest => .ok rest

/-- A number without its minus sign. -/
def skipNumber : List Char → Except Halt (List Char)
  | [] => haltAt .invalidNumber []
  | '0' :: c :: rest =>
      if c.isDigit then haltPast .invalidNumber (c :: rest) else skipAfterInteger (c :: rest)
  | c :: rest =>
      if c.isDigit then skipAfterInteger (rest.dropWhile Char.isDigit)
      else haltPast .invalidNumber (c :: rest)

/-! ## Values -/

/-- A key from its opening quote on, and the colon after it. -/
def skipKey (chars : List Char) : Except Halt (List Char) := do
  match skipBlanks chars with
  | [] => haltAt .eofInObject []
  | '"' :: rest =>
      let rest ← skipString rest rest
      match skipBlanks rest with
      | [] => haltAt .eofInObject []
      | ':' :: rest => return rest
      | rest => haltPast .expectedColon rest
  | rest => haltPast .keyMustBeString rest

mutual

def skipValue : Nat → List Char → Except Halt (List Char)
  | 0, chars => haltAt .eofInValue chars
  | fuel + 1, chars =>
      match skipBlanks chars with
      | [] => haltAt .eofInValue []
      | 'n' :: rest => literal ['u', 'l', 'l'] rest
      | 't' :: rest => literal ['r', 'u', 'e'] rest
      | 'f' :: rest => literal ['a', 'l', 's', 'e'] rest
      | '-' :: rest => skipNumber rest
      | '"' :: rest => skipString rest rest
      | '[' :: rest => skipItems fuel true rest
      | '\x7b' :: rest => skipMembers fuel true rest
      | c :: rest =>
          if c.isDigit then skipNumber (c :: rest) else haltPast .expectedValue (c :: rest)

/-- Elements up to and with the closing bracket. -/
def skipItems : Nat → Bool → List Char → Except Halt (List Char)
  | 0, _, chars => haltAt .eofInList chars
  | fuel + 1, first, chars =>
      match skipBlanks chars with
      | [] => haltAt .eofInList []
      | ']' :: rest => .ok rest
      | c :: rest =>
          if first then do skipItems fuel false (← skipValue fuel (c :: rest))
          else if c = ',' then do skipItems fuel false (← skipValue fuel rest)
          else haltPast .expectedCommaOrBracket (c :: rest)

/-- Members up to and with the closing brace. -/
def skipMembers : Nat → Bool → List Char → Except Halt (List Char)
  | 0, _, chars => haltAt .eofInObject chars
  | fuel + 1, first, chars =>
      match skipBlanks chars with
      | [] => haltAt .eofInObject []
      | '\x7d' :: rest => .ok rest
      | c :: rest =>
          if first then do
            skipMembers fuel false (← skipValue fuel (← skipKey (c :: rest)))
          else if c = ',' then do
            skipMembers fuel false (← skipValue fuel (← skipKey rest))
          else haltPast .expectedCommaOrBrace (c :: rest)

end

end ChatSocket.Json
