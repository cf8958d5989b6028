import ChatSocket.Text.Split
import ChatSocket.Url.Percent

/-!
# Pairs in a query

A query carries names and values: `name=value` pairs with `&` between them.
Letters, digits and `*-._` stand for themselves, a space is written as `+`, and
every other byte is percent-encoded.
-/

set_option autoImplicit false

namespace ChatSocket.Url.Form

def isPlain (byte : UInt8) : Bool :=
  (Char.ofNat byte.toNat).isAlphanum || [0x2a, 0x2d, 0x2e, 0x5f].contains byte

def writeByte (byte : UInt8) : List Char :=
  if isPlain byte then [Char.ofNat byte.toNat]
  else if byte = 0x20 then ['+']
  else Percent.encodeByte byte

def writeText (text : String) : List Char :=
  (Text.Utf8.encode text.toList).flatMap writeByte

def writePair (pair : String × String) : List Char :=
  writeText pair.1 ++ '=' :: writeText pair.2

/-- A query with pairs after those that it holds already. -/
def append (query : List Char) (pairs : List (String × String)) : List Char :=
  pairs.foldl (fun query pair =>
    if query.isEmpty then writePair pair else query ++ '&' :: writePair pair) query

def readText (written : List Char) : String :=
  let spaced := written.map fun c => if c = '+' then ' ' else c
  String.ofList (Text.Utf8.decode (Percent.decode (Text.Utf8.encode spaced)))

def readPair (written : List Char) : String × String :=
  match Text.splitFirst? '=' written with
  | some (name, value) => (readText name, readText value)
  | none => (readText written, "")

/-- The pairs of a query in order.  An empty piece between two `&` is no pair. -/
def pairs (query : List Char) : List (String × String) :=
  ((Text.splitOn (· == '&') query).filter (!·.isEmpty)).map readPair

example : pairs (append "k=v".toList [("a b", "t&k=%")]) = [("k", "v"), ("a b", "t&k=%")] := by
  decide +kernel

end ChatSocket.Url.Form
