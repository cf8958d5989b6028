import ChatSocket.Text.Split
import ChatSocket.Url.Fault
import ChatSocket.Url.Percent

/-!
# Hosts

A host is a name or an address.  The schemes of the web read a host as a domain
name, which is not case-sensitive and must not look like a malformed address;
every other scheme keeps it as it stands.

International names are left out.  A domain name with characters outside ASCII is
refused and not written in ASCII, and a label that starts with `xn--` is taken as
it is, whether or not it stands for such a name.
-/

set_option autoImplicit false

namespace ChatSocket.Url

inductive Host where
  | name (text : List Char)
  | ipv4 (address : UInt32)
  | ipv6 (groups : List UInt16)
  deriving DecidableEq, Repr

namespace Host

/-! ## Addresses of 32 bits -/

/-- Value of digits in a base.  `none` if one of them is no digit. -/
def valueOf? (digit? : Char → Option Nat) (base : Nat) (digits : List Char) : Option Nat :=
  digits.foldlM (fun value c => (digit? c).map (value * base + ·)) 0

def hexDigit? (c : Char) : Option Nat :=
  if c.isDigit then some (c.toNat - '0'.toNat)
  else if 'a' ≤ c ∧ c ≤ 'f' then some (c.toNat - 'a'.toNat + 10)
  else if 'A' ≤ c ∧ c ≤ 'F' then some (c.toNat - 'A'.toNat + 10)
  else none

/-- A digit in a base up to sixteen. -/
def digitIn? (base : Nat) (c : Char) : Option Nat :=
  (hexDigit? c).filter (· < base)

/-- One part of an address of 32 bits: decimal, octal after `0`, or in base
sixteen after `0x`.  A mark of the base on its own is zero. -/
def ipv4Part? : List Char → Option Nat
  | [] => none
  | '0' :: 'x' :: rest => valueOf? (digitIn? 16) 16 rest
  | '0' :: 'X' :: rest => valueOf? (digitIn? 16) 16 rest
  | '0' :: c :: rest => valueOf? (digitIn? 8) 8 (c :: rest)
  | part => valueOf? (digitIn? 10) 10 part

/-- Parts between the dots.  A dot at the end divides nothing. -/
def dottedParts (text : List Char) : List (List Char) :=
  let parts := Text.splitOn (· == '.') text
  if parts.getLast? = some [] then parts.dropLast else parts

/-- Whether the last part of a name is a number, so that the name is an address
or nothing. -/
def endsInNumber (text : List Char) : Bool :=
  match (dottedParts text).getLast? with
  | some [] => false
  | some part => part.all Char.isDigit || (ipv4Part? part).isSome
  | none => false

/-- An address from one to four numbers: each but the last fills a byte, the last
fills all that is left. -/
def ipv4OfParts? (leading : List Nat) (final : Nat) : Option UInt32 :=
  if leading.length < 4 ∧ leading.all (· < 256) ∧ final < Nat.pow 256 (4 - leading.length) then
    let high := leading.foldl (fun value part => value * 256 + part) 0
    some (UInt32.ofNat (high * Nat.pow 256 (4 - leading.length) + final))
  else none

def ipv4? (text : List Char) : Option UInt32 := do
  let numbers ← (dottedParts text).mapM ipv4Part?
  ipv4OfParts? numbers.dropLast (← numbers.getLast?)

/-! ## Addresses of 128 bits -/

/-- One group of 16 bits: one to four digits in base sixteen. -/
def ipv6Group? (text : List Char) : Option UInt16 := do
  guard (1 ≤ text.length ∧ text.length ≤ 4)
  let value ← valueOf? hexDigit? 16 text
  return UInt16.ofNat value

/-- One byte in decimal, without leading zeros. -/
def octet? (text : List Char) : Option Nat := do
  guard (text ≠ [] ∧ (text.head? = some '0' → text.length = 1))
  let value ← valueOf? (digitIn? 10) 10 text
  guard (value < 256)
  return value

/-- Two groups written as four bytes with dots between them. -/
def dottedGroups? (text : List Char) : Option (List UInt16) := do
  match ← (Text.splitOn (· == '.') text).mapM octet? with
  | [a, b, c, d] => return [UInt16.ofNat (a * 256 + b), UInt16.ofNat (c * 256 + d)]
  | _ => none

/-- Groups with colons between them.  Only at the end of an address may the last
two be dotted. -/
def ipv6Groups? (isEnd : Bool) (text : List Char) : Option (List UInt16) :=
  if text.isEmpty then some []
  else do
    let parts := Text.splitOn (· == ':') text
    let leading ← parts.dropLast.mapM ipv6Group?
    let last := parts.getLastD []
    let final ← if isEnd && last.contains '.' then dottedGroups? last
      else (ipv6Group? last).map ([·])
    return leading ++ final

/-- What stands before and after the first two colons in a row. -/
def splitGap? : List Char → Option (List Char × List Char)
  | ':' :: ':' :: rest => some ([], rest)
  | c :: rest => (splitGap? rest).map fun parts => (c :: parts.1, parts.2)
  | [] => none

/-- Eight groups, or fewer with a gap in which the others are zero. -/
def ipv6? (text : List Char) : Option (List UInt16) :=
  match splitGap? text with
  | none => do
      let groups ← ipv6Groups? true text
      guard (groups.length = 8)
      return groups
  | some (before, after) => do
      let leading ← ipv6Groups? false before
      let final ← ipv6Groups? true after
      guard (leading.length + final.length ≤ 7)
      return leading ++ List.replicate (8 - leading.length - final.length) 0 ++ final

/-! ## Reading -/

def bracketed (text : List Char) : Except Fault Host :=
  match text.getLast?, ipv6? text.dropLast with
  | some ']', some groups => .ok (.ipv6 groups)
  | _, _ => .error .invalidIpv6

/-- Characters that no domain name holds once it is written in ASCII. -/
def isForbidden (c : Char) : Bool :=
  c.toNat ≤ 0x20 || 0x7f ≤ c.toNat || "#%/:<>?@[\\]^|".toList.contains c

def ofDomain : List Char → Except Fault Host
  | '[' :: rest => bracketed rest
  | text =>
      let bytes := Percent.decode (Text.Utf8.encode text)
      let name := (Text.Utf8.decode bytes).map Char.toLower
      if name.any isForbidden then .error .forbiddenHostCharacter
      else if name.isEmpty then .error .emptyHost
      else if endsInNumber name then
        match ipv4? name with
        | some address => .ok (.ipv4 address)
        | none => .error .invalidIpv4
      else .ok (.name name)

/-- Characters that end or change a host of any scheme. -/
def isDelimiter (c : Char) : Bool := "\x00\t\n\r #/:<>?@[\\]^|".toList.contains c

def ofText : List Char → Except Fault Host
  | '[' :: rest => bracketed rest
  | text =>
      if text.any isDelimiter then .error .invalidDomainCharacter
      else .ok (.name (Percent.encode Percent.inText text))

/-! ## Writing -/

/-- Length of the zeros at the head of each tail. -/
def zeroRun : List UInt16 → Nat
  | 0 :: rest => zeroRun rest + 1
  | _ => 0

/-- The first of the longest runs of two zeros or more, as its place and length. -/
def longestGap (groups : List UInt16) : Option (Nat × Nat) :=
  let runs := (List.range groups.length).map fun place => (place, zeroRun (groups.drop place))
  runs.foldl (fun best run =>
    if 2 ≤ run.2 ∧ (best.map Prod.snd).getD 0 < run.2 then some run else best) none

def writeGroups (groups : List UInt16) : List Char :=
  [':'].intercalate (groups.map fun group => Nat.toDigits 16 group.toNat)

def writeIpv6 (groups : List UInt16) : List Char :=
  match longestGap groups with
  | none => writeGroups groups
  | some (place, length) =>
      writeGroups (groups.take place) ++ [':', ':'] ++ writeGroups (groups.drop (place + length))

def writeIpv4 (address : UInt32) : List Char :=
  let value := address.toNat
  let parts := [value / 0x1000000, value / 0x10000 % 256, value / 0x100 % 256, value % 256]
  ['.'].intercalate (parts.map fun part => (toString part).toList)

def write : Host → List Char
  | .name text => text
  | .ipv4 address => writeIpv4 address
  | .ipv6 groups => '[' :: writeIpv6 groups ++ [']']

end Host

end ChatSocket.Url
