/-!
# UTF-8

Text as bytes, and bytes as text.  Bytes that encode no character read as the
replacement character, one for each maximal part of an encoding.
-/

set_option autoImplicit false

namespace ChatSocket.Text.Utf8

def encode (text : List Char) : List UInt8 := text.flatMap String.utf8EncodeChar

def replacement : Char := '\ufffd'

def isContinuation (byte : UInt8) : Bool := 0x80 ≤ byte && byte < 0xc0

/-- The six bits that a continuation byte carries. -/
def payload (byte : UInt8) : Nat := byte.toNat % 0x40

/-- Whether the second byte of an encoding may follow its first.  After `e0` and
`f0` it must not make the encoding longer than needed, after `ed` no surrogate
and after `f4` no code point beyond the last. -/
def mayFollow (lead second : UInt8) : Bool :=
  isContinuation second &&
    (if lead = 0xe0 then 0xa0 ≤ second
    else if lead = 0xed then second < 0xa0
    else if lead = 0xf0 then 0x90 ≤ second
    else if lead = 0xf4 then second < 0x90
    else true)

/-- The character at the head of some bytes and the number of bytes it takes. -/
def decodeHead : UInt8 → List UInt8 → Char × Nat
  | lead, rest =>
      if lead < 0x80 then (Char.ofNat lead.toNat, 1)
      else if lead < 0xc2 then (replacement, 1)
      else if lead < 0xe0 then
        match rest with
        | b :: _ =>
            if isContinuation b then (Char.ofNat ((lead.toNat - 0xc0) * 0x40 + payload b), 2)
            else (replacement, 1)
        | [] => (replacement, 1)
      else if lead < 0xf0 then
        match rest with
        | b :: c :: _ =>
            if !mayFollow lead b then (replacement, 1)
            else if !isContinuation c then (replacement, 2)
            else (Char.ofNat (((lead.toNat - 0xe0) * 0x40 + payload b) * 0x40 + payload c), 3)
        | [b] => (replacement, if mayFollow lead b then 2 else 1)
        | [] => (replacement, 1)
      else if lead < 0xf5 then
        match rest with
        | b :: c :: d :: _ =>
            if !mayFollow lead b then (replacement, 1)
            else if !isContinuation c then (replacement, 2)
            else if !isContinuation d then (replacement, 3)
            else
              (Char.ofNat ((((lead.toNat - 0xf0) * 0x40 + payload b) * 0x40 + payload c) * 0x40 +
                payload d), 4)
        | [b, c] =>
            (replacement, if !mayFollow lead b then 1 else if !isContinuation c then 2 else 3)
        | [b] => (replacement, if mayFollow lead b then 2 else 1)
        | [] => (replacement, 1)
      else (replacement, 1)

/-- Reads up to `fuel` characters.  A character takes a byte at least, so the
number of bytes is fuel enough. -/
def decodeUpTo : Nat → List UInt8 → List Char
  | 0, _ => []
  | _ + 1, [] => []
  | fuel + 1, lead :: rest =>
      let (c, size) := decodeHead lead rest
      c :: decodeUpTo fuel (rest.drop (size - 1))

def decode (bytes : List UInt8) : List Char := decodeUpTo bytes.length bytes

example : decode (encode "aé日😀".toList) = "aé日😀".toList := by decide +kernel

end ChatSocket.Text.Utf8
