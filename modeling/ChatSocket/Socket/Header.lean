import ChatSocket.Text.Quoted

/-!
# Heads of socket packets

A socket packet starts with a digit that names its kind.  After it may stand a
number of attachments with a dash, a namespace with a comma, and the id of an
acknowledgement; the rest is the payload.  Each part takes as much of the text as
it can.
-/

set_option autoImplicit false

namespace ChatSocket.Socket

structure Header where
  kind : Nat
  attachments : Option UInt32
  ns : Option (List Char)
  ackId : Option UInt64
  payload : List Char
  deriving DecidableEq, Repr

namespace Header

/-- Numbers that have a limit. -/
inductive Number where
  | attachmentCount
  | acknowledgementId
  deriving DecidableEq, Repr

def Number.label : Number → String
  | .attachmentCount => "attachment count"
  | .acknowledgementId => "acknowledgement id"

inductive Fault where
  | empty
  | invalidKind (found : Char)
  | outOfRange (number : Number) (digits : List Char)
  deriving DecidableEq, Repr

def Fault.message : Fault → String
  | .empty => "empty message"
  | .invalidKind found => "expected packet type digit, found " ++ Text.quotedChar found
  | .outOfRange number digits => number.label ++ " out of range: " ++ String.ofList digits

/-- Largest number of attachments: 32 bits. -/
def maxCount : Nat := 0xffffffff

/-- Largest id of an acknowledgement: 64 bits. -/
def maxAckId : Nat := 0xffffffffffffffff

/-- Value of decimal digits. -/
def valueOf (digits : List Char) : Nat :=
  digits.foldl (fun value c => value * 10 + (c.toNat - '0'.toNat)) 0

/-- The digit that names the kind. -/
def scanKind : List Char → Except Fault (Nat × List Char)
  | [] => .error .empty
  | c :: rest => if c.isDigit then .ok (c.toNat - '0'.toNat, rest) else .error (.invalidKind c)

/-- Digits with a dash after them.  Digits without one are left alone. -/
def scanAttachments (text : List Char) : Except Fault (Option UInt32 × List Char) :=
  let digits := text.takeWhile Char.isDigit
  match text.dropWhile Char.isDigit with
  | '-' :: rest =>
      if digits.isEmpty then .ok (none, text)
      else if valueOf digits ≤ maxCount then .ok (some (UInt32.ofNat (valueOf digits)), rest)
      else .error (.outOfRange .attachmentCount digits)
  | _ => .ok (none, text)

/-- Characters that a namespace does not hold: the comma that ends it, and those
that start a payload. -/
def endsNamespace (c : Char) : Bool := c = ',' || c = '[' || c = '\x7b' || c = '"'

/-- A slash and all that follows it, if a comma ends it. -/
def scanNamespace : List Char → Option (List Char) × List Char
  | '/' :: rest =>
      match rest.dropWhile (!endsNamespace ·) with
      | ',' :: after => (some ('/' :: rest.takeWhile (!endsNamespace ·)), after)
      | _ => (none, '/' :: rest)
  | text => (none, text)

def scanAckId (text : List Char) : Except Fault (Option UInt64 × List Char) :=
  let digits := text.takeWhile Char.isDigit
  if digits.isEmpty then .ok (none, text)
  else if valueOf digits ≤ maxAckId then
    .ok (some (UInt64.ofNat (valueOf digits)), text.dropWhile Char.isDigit)
  else .error (.outOfRange .acknowledgementId digits)

def scan (text : List Char) : Except Fault Header := do
  let (kind, rest) ← scanKind text
  let (attachments, rest) ← scanAttachments rest
  let (ns, rest) := scanNamespace rest
  let (ackId, payload) ← scanAckId rest
  return { kind, attachments, ns, ackId, payload }

end Header

end ChatSocket.Socket
