import ChatSocket.Json.Fault

/-!
# Reading the smallest parts of JSON text

A reader takes the characters that are left and answers a value with what is
left after it, or a `Halt`.  A halt counts the bytes that were left when the
reader gave up; `TextFault` turns that count into a line and a column.  A reader
that only looked at a character and refused it counts the first byte of that
character as read.
-/

set_option autoImplicit false

namespace ChatSocket.Json

/-- Why a reader gave up, and how many bytes were left then. -/
structure Halt where
  cause : TextCause
  left : Nat
  deriving DecidableEq, Repr

def byteCount (chars : List Char) : Nat := chars.foldr (fun c count => c.utf8Size + count) 0

/-- Gives up with everything before `rest` read. -/
def haltAt {α : Type} (fault : SyntaxFault) (rest : List Char) : Except Halt α :=
  .error ⟨.syntactic fault, byteCount rest⟩

/-- Gives up after one more byte than what stands before `rest`. -/
def haltPast {α : Type} (fault : SyntaxFault) (rest : List Char) : Except Halt α :=
  .error ⟨.syntactic fault, byteCount rest - 1⟩

/-- Line and column after a number of bytes. -/
def positionAfter : List Char → Nat → Nat → Nat → Nat × Nat
  | [], _, line, column => (line, column)
  | _ :: _, 0, line, column => (line, column)
  | c :: rest, bytes + 1, line, column =>
      if c = '\n' then positionAfter rest bytes (line + 1) 0
      else if c.utf8Size ≤ bytes + 1 then
        positionAfter rest (bytes + 1 - c.utf8Size) line (column + c.utf8Size)
      else (line, column + bytes + 1)

/-- The place of a halt in the text that was read. -/
def Halt.locate (text : List Char) (halt : Halt) : TextFault :=
  let (line, column) := positionAfter text (byteCount text - halt.left) 1 0
  ⟨halt.cause, line, column⟩

/-- The only blanks between the parts of JSON text. -/
def isBlank (c : Char) : Bool := c = ' ' || c = '\t' || c = '\n' || c = '\r'

def skipBlanks (chars : List Char) : List Char := chars.dropWhile isBlank

/-! ## Literals -/

/-- The rest of `null`, `true` or `false`. -/
def literal : List Char → List Char → Except Halt (List Char)
  | [], rest => .ok rest
  | _ :: _, [] => haltAt .eofInValue []
  | wanted :: word, c :: rest =>
      if c = wanted then literal word rest else haltPast .expectedIdent (c :: rest)

/-! ## Strings -/

def hexValue? (c : Char) : Option Nat :=
  if '0' ≤ c ∧ c ≤ '9' then some (c.toNat - '0'.toNat)
  else if 'a' ≤ c ∧ c ≤ 'f' then some (c.toNat - 'a'.toNat + 10)
  else if 'A' ≤ c ∧ c ≤ 'F' then some (c.toNat - 'A'.toNat + 10)
  else none

/-- Four digits in base sixteen.  Fewer than four bytes are an unfinished
string; four bytes that are no digits are a bad escape. -/
def hexFour (chars : List Char) : Except Halt (Nat × List Char) :=
  let refused : Except Halt (Nat × List Char) :=
    if byteCount chars < 4 then haltAt .eofInString []
    else .error ⟨.syntactic .invalidEscape, byteCount chars - 4⟩
  match chars with
  | a :: b :: c :: d :: rest =>
      match hexValue? a, hexValue? b, hexValue? c, hexValue? d with
      | some a, some b, some c, some d => .ok (((a * 16 + b) * 16 + c) * 16 + d, rest)
      | _, _, _, _ => refused
  | _ => refused

def isHighSurrogate (unit : Nat) : Bool := 0xd800 ≤ unit && unit ≤ 0xdbff

def isLowSurrogate (unit : Nat) : Bool := 0xdc00 ≤ unit && unit ≤ 0xdfff

def pairChar (high low : Nat) : Char :=
  Char.ofNat ((high - 0xd800) * 0x400 + (low - 0xdc00) + 0x10000)

/-- What follows `\u`: one unit, or two that form a surrogate pair. -/
def unicodeEscape (chars : List Char) : Except Halt (Char × List Char) := do
  let (unit, rest) ← hexFour chars
  if isLowSurrogate unit then haltAt .loneLeadingSurrogate rest
  else if isHighSurrogate unit then
    match rest with
    | [] => haltAt .eofInString []
    | '\\' :: [] => haltAt .eofInString []
    | '\\' :: 'u' :: rest =>
        let (low, rest) ← hexFour rest
        if isLowSurrogate low then .ok (pairChar unit low, rest)
        else haltAt .loneLeadingSurrogate rest
    | '\\' :: rest => haltPast .unexpectedEndOfHexEscape rest
    | rest => haltPast .unexpectedEndOfHexEscape rest
  else .ok (Char.ofNat unit, rest)

def simpleEscape? (c : Char) : Option Char :=
  match c with
  | '"' => some '"'
  | '\\' => some '\\'
  | '/' => some '/'
  | 'b' => some '\x08'
  | 'f' => some '\x0c'
  | 'n' => some '\n'
  | 'r' => some '\r'
  | 't' => some '\t'
  | _ => none

/-- One character inside a string, or nothing at the closing quote. -/
def stringChar : List Char → Except Halt (Option Char × List Char)
  | [] => haltAt .eofInString []
  | '"' :: rest => .ok (none, rest)
  | '\\' :: [] => haltAt .eofInString []
  | '\\' :: 'u' :: rest => do
      let (c, rest) ← unicodeEscape rest
      return (some c, rest)
  | '\\' :: c :: rest =>
      match simpleEscape? c with
      | some meant => .ok (some meant, rest)
      | none => haltPast .invalidEscape (c :: rest)
  | c :: rest =>
      if c.toNat < 0x20 then haltPast .controlCharacter (c :: rest)
      else .ok (some c, rest)

/-- The characters up to the closing quote, after those in `read`.  Each takes at
least one character of the text, so a budget as long as the text is enough. -/
def stringChars : List Char → List Char → List Char → Except Halt (String × List Char)
  | [], _, chars => haltAt .eofInString chars
  | _ :: budget, read, chars => do
      let (next, rest) ← stringChar chars
      match next with
      | some c => stringChars budget (c :: read) rest
      | none => return (String.ofList read.reverse, rest)

/-- A string whose opening quote has been read. -/
def stringBody (chars : List Char) : Except Halt (String × List Char) :=
  stringChars chars [] chars

/-! ## Numbers -/

/-- Digits are gathered in a significand of 64 bits. -/
def maxSignificand : Nat := 0xffffffffffffffff

/-- Exponents are gathered in 31 bits. -/
def maxExponent : Nat := 0x7fffffff

def digitValue (c : Char) : Nat := c.toNat - '0'.toNat

def powerOfTen? (exponent : Nat) : Option Number.Binary64 :=
  Number.Binary64.nearest? false (Nat.pow 10 exponent) 1

/-- Divides by `10 ^ 308` a number of times, or until nothing is left. -/
def shrink : Nat → Number.Binary64 → Option Number.Binary64
  | 0, x => some x
  | times + 1, x =>
      if x.isZero then some x else do shrink times (← x.scaleDown? (← powerOfTen? 308))

/-- `significand * 10 ^ exponent` in double arithmetic: the significand is
rounded, then multiplied or divided once, after as many divisions by `10 ^ 308`
as a smaller exponent needs.  Nothing if the result would be infinite. -/
def realOfParts? (negative : Bool) (significand : Nat) (exponent : Int) :
    Option Number.Binary64 := do
  let x ← Number.Binary64.nearest? negative significand 1
  if 0 ≤ exponent then
    if x.isZero then some x
    else if 308 < exponent then none
    else x.scaleUp? (← powerOfTen? exponent.toNat)
  else
    let steps := (exponent.natAbs - 1) / 308
    let y ← shrink steps x
    if y.isZero then some y
    else y.scaleDown? (← powerOfTen? (exponent.natAbs - 308 * steps))

def realNumber (negative : Bool) (significand : Nat) (exponent : Int) (rest : List Char) :
    Except Halt (Json.Number × List Char) :=
  match realOfParts? negative significand exponent with
  | some x => .ok (.real x, rest)
  | none => haltAt .numberOutOfRange rest

/-- The digits of an exponent.  One that is too large is an infinite number, or
zero where the significand or the sign of the exponent makes it so. -/
def exponentDigits (negative : Bool) (significand : Nat) (start : Int) (upward : Bool) :
    Nat → List Char → Except Halt (Json.Number × List Char)
  | exponent, c :: rest =>
      if c.isDigit then
        let next := exponent * 10 + digitValue c
        if next ≤ maxExponent then
          exponentDigits negative significand start upward next rest
        else if upward && significand != 0 then haltAt .numberOutOfRange rest
        else .ok (.real { Number.Binary64.zero with negative }, rest.dropWhile Char.isDigit)
      else
        realNumber negative significand (if upward then start + exponent else start - exponent)
          (c :: rest)
  | exponent, [] =>
      realNumber negative significand (if upward then start + exponent else start - exponent) []

/-- What follows the exponent mark: a sign or none, and at least one digit. -/
def exponentPart (negative : Bool) (significand : Nat) (start : Int) (chars : List Char) :
    Except Halt (Json.Number × List Char) :=
  let (upward, digits) := match chars with
    | '+' :: rest => (true, rest)
    | '-' :: rest => (false, rest)
    | rest => (true, rest)
  match digits with
  | [] => haltAt .eofInValue []
  | c :: rest =>
      if c.isDigit then exponentDigits negative significand start upward (digitValue c) rest
      else haltPast .invalidNumber (c :: rest)

/-- What follows all digits: an exponent, or nothing more. -/
def afterDigits (negative : Bool) (significand : Nat) (exponent : Int) :
    List Char → Except Halt (Json.Number × List Char)
  | 'e' :: rest => exponentPart negative significand exponent rest
  | 'E' :: rest => exponentPart negative significand exponent rest
  | rest => realNumber negative significand exponent rest

/-- The digits behind the point.  From the first one that does not fit into the
significand on, they are dropped. -/
def decimalDigits (negative : Bool) (start : Int) :
    Nat → Nat → List Char → Except Halt (Json.Number × List Char)
  | significand, places, c :: rest =>
      if c.isDigit then
        let next := significand * 10 + digitValue c
        if next ≤ maxSignificand then decimalDigits negative start next (places + 1) rest
        else afterDigits negative significand (start - places) (rest.dropWhile Char.isDigit)
      else if places = 0 then haltPast .invalidNumber (c :: rest)
      else afterDigits negative significand (start - places) (c :: rest)
  | significand, places, [] =>
      if places = 0 then haltAt .eofInValue []
      else afterDigits negative significand (start - places) []

/-- An integer with more digits than fit: each further digit raises the
exponent instead. -/
def longInteger (negative : Bool) (significand : Nat) (chars : List Char) :
    Except Halt (Json.Number × List Char) :=
  let dropped := (chars.takeWhile Char.isDigit).length
  match chars.dropWhile Char.isDigit with
  | '.' :: rest => decimalDigits negative dropped significand 0 rest
  | rest => afterDigits negative significand dropped rest

/-- An integer in full: exact if it fits, else a double.  Minus zero is a double. -/
def exactInteger (negative : Bool) (significand : Nat) : Json.Number :=
  if !negative then .integer significand
  else if 0 < significand ∧ minInteger ≤ -(significand : Int) then .integer (-(significand : Int))
  else .real ((Number.Binary64.nearest? true significand 1).getD .zero)

def afterInteger (negative : Bool) (significand : Nat) :
    List Char → Except Halt (Json.Number × List Char)
  | '.' :: rest => decimalDigits negative 0 significand 0 rest
  | 'e' :: rest => exponentPart negative significand 0 rest
  | 'E' :: rest => exponentPart negative significand 0 rest
  | rest => .ok (exactInteger negative significand, rest)

def integerDigits (negative : Bool) : Nat → List Char → Except Halt (Json.Number × List Char)
  | significand, c :: rest =>
      if c.isDigit then
        let next := significand * 10 + digitValue c
        if next ≤ maxSignificand then integerDigits negative next rest
        else longInteger negative significand (c :: rest)
      else afterInteger negative significand (c :: rest)
  | significand, [] => afterInteger negative significand []

/-- A number whose minus sign, if it has one, has been read.  A leading zero
stands alone. -/
def numberBody (negative : Bool) : List Char → Except Halt (Json.Number × List Char)
  | [] => haltAt .eofInValue []
  | '0' :: c :: rest =>
      if c.isDigit then haltPast .invalidNumber (c :: rest)
      else afterInteger negative 0 (c :: rest)
  | c :: rest =>
      if c.isDigit then integerDigits negative (digitValue c) rest
      else haltPast .invalidNumber (c :: rest)

end ChatSocket.Json
