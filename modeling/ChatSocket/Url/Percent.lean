import ChatSocket.Text.Utf8

/-!
# Percent encoding

A character that a part of a URL must not hold is written as the bytes of its
UTF-8 form, each as `%` and two digits in base sixteen.
-/

set_option autoImplicit false

namespace ChatSocket.Url.Percent

/-- A digit in base sixteen, upper case. -/
def hexDigit (n : Nat) : Char := (Nat.digitChar (n % 16)).toUpper

def encodeByte (byte : UInt8) : List Char :=
  ['%', hexDigit (byte.toNat / 16), hexDigit byte.toNat]

/-- Encodes the characters for which `reserved` holds. -/
def encode (reserved : Char → Bool) (text : List Char) : List Char :=
  text.flatMap fun c =>
    if reserved c then (String.utf8EncodeChar c).flatMap encodeByte else [c]

def hexValue? (byte : UInt8) : Option Nat :=
  if 0x30 ≤ byte ∧ byte ≤ 0x39 then some (byte.toNat - 0x30)
  else if 0x41 ≤ byte ∧ byte ≤ 0x46 then some (byte.toNat - 0x41 + 10)
  else if 0x61 ≤ byte ∧ byte ≤ 0x66 then some (byte.toNat - 0x61 + 10)
  else none

/-- Undoes the encoding.  A `%` that no two digits follow stands for itself. -/
def decode : List UInt8 → List UInt8
  | 0x25 :: high :: low :: rest =>
      match hexValue? high, hexValue? low with
      | some high, some low => UInt8.ofNat (high * 16 + low) :: decode rest
      | _, _ => 0x25 :: decode (high :: low :: rest)
  | byte :: rest => byte :: decode rest
  | [] => []

/-! ## What each part of a URL reserves -/

/-- Controls and everything beyond ASCII. -/
def inText (c : Char) : Bool := c.toNat < 0x20 || 0x7e < c.toNat

def inFragment (c : Char) : Bool := inText c || " \"<>`".toList.contains c

def inPath (c : Char) : Bool := inFragment c || "#?\x7b\x7d".toList.contains c

def inUserInfo (c : Char) : Bool := inPath c || "/:;=@[\\]^|".toList.contains c

def inQuery (c : Char) : Bool := inText c || " \"#<>".toList.contains c

/-- Queries of the web's own schemes reserve the apostrophe too. -/
def inSpecialQuery (c : Char) : Bool := inQuery c || c = '\''

end ChatSocket.Url.Percent
