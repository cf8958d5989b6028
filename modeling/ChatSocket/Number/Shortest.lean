import ChatSocket.Number.Binary64

/-!
# Shortest decimal form of a double

Among the decimals that round back to a double, the ones with the fewest digits
are candidates, and of those the nearest to its exact value is chosen; on a tie
the even one.  Layout of the digits is `Layout`, the selection is `shortest`.
-/

set_option autoImplicit false

namespace ChatSocket.Number

/-- A positive decimal `digits * 10 ^ exponent`, where the digits have no
trailing zero. -/
structure Decimal where
  digits : Nat
  exponent : Int
  deriving DecidableEq, Repr

namespace Binary64

/-- The rounding interval of a positive double in quarters of its last place:
lower end, the number itself, upper end. -/
def quarters (x : Binary64) : Nat × Nat × Nat :=
  let low := if x.mantissa = leastNormal ∧ minExponent < x.exponent then 1 else 2
  (4 * x.mantissa - low, 4 * x.mantissa, 4 * x.mantissa + 2)

/-- Compares a count of decimal places with a count of quarters: the two
numbers, brought to one scale. -/
def onOneScale (x : Binary64) (decimalExponent : Int) (places quarterCount : Nat) : Nat × Nat :=
  let binaryExponent := x.exponent - 2
  (places * Nat.pow 10 decimalExponent.toNat * Nat.pow 2 (-binaryExponent).toNat,
   quarterCount * Nat.pow 2 binaryExponent.toNat * Nat.pow 10 (-decimalExponent).toNat)

/-- Whether `places * 10 ^ decimalExponent` rounds to the double.  The ends of
the interval belong to it iff the mantissa is even. -/
def reads (x : Binary64) (decimalExponent : Int) (places : Nat) : Bool :=
  let (low, _, high) := x.quarters
  let (value, lowEnd) := x.onOneScale decimalExponent places low
  let (_, highEnd) := x.onOneScale decimalExponent places high
  if x.mantissa % 2 = 0 then lowEnd ≤ value && value ≤ highEnd
  else lowEnd < value && value < highEnd

/-- The candidate on one decimal grid, if any: of the two grid points around
the number, the nearer one that reads back. -/
def onGrid? (x : Binary64) (decimalExponent : Int) : Option Nat :=
  let (_, exact, _) := x.quarters
  let (unit, value) := x.onOneScale decimalExponent 1 exact
  let below := value / unit
  let rest := 2 * (value % unit)
  let preferred := if rest < unit then below
    else if unit < rest then below + 1
    else below + below % 2
  let other := if preferred = below then below + 1 else below
  if 0 < preferred && x.reads decimalExponent preferred then some preferred
  else if 0 < other && x.reads decimalExponent other then some other
  else none

/-- Tries finer and finer grids, `fuel` of them. -/
def searchGrids (x : Binary64) : Nat → Int → Option Decimal
  | 0, _ => none
  | fuel + 1, decimalExponent =>
      match x.onGrid? decimalExponent with
      | some digits => some ⟨digits, decimalExponent⟩
      | none => searchGrids x fuel (decimalExponent - 1)

/-- An exponent of ten not below that of the first digit.  One bit is worth less
than 0.302 decimal places. -/
def leadingExponent (x : Binary64) : Int :=
  let bits : Int := Nat.log2 x.mantissa + 1 + x.exponent
  Int.fdiv (bits * 302) 1000 + 2

/-- The shortest decimal of the magnitude of a nonzero double.  Grids are tried
from the coarsest, so the first one with a candidate has the fewest digits; a
double never needs more than 17. -/
def shortest (x : Binary64) : Decimal :=
  (x.searchGrids 32 x.leadingExponent).getD ⟨0, 0⟩

end Binary64

structure Layout where
  /-- Least exponent of the first digit that is written without an exponent. -/
  leastPlain : Int
  /-- Largest exponent of the first digit that is written without an exponent. -/
  largestPlain : Int
  exponentMark : String
  /-- Sign before an exponent that is not negative. -/
  positiveSign : String

namespace Layout

def zeros (count : Nat) : String := String.ofList (List.replicate count '0')

/-- Plain notation with at least one place after the point. -/
def plain (digits : List Char) (exponent : Int) : String :=
  if exponent < 0 then
    "0." ++ zeros ((-exponent).toNat - 1) ++ String.ofList digits
  else
    let whole := exponent.toNat + 1
    if digits.length ≤ whole then
      String.ofList digits ++ zeros (whole - digits.length) ++ ".0"
    else
      String.ofList (digits.take whole) ++ "." ++ String.ofList (digits.drop whole)

/-- One digit, a point if more follow, and an exponent with its sign. -/
def scientific (layout : Layout) (digits : List Char) (exponent : Int) : String :=
  let lead := String.ofList (digits.take 1)
  let rest := digits.drop 1
  let point := if rest.isEmpty then "" else "."
  let sign := if exponent < 0 then "-" else layout.positiveSign
  lead ++ point ++ String.ofList rest ++ layout.exponentMark ++ sign ++ toString exponent.natAbs

def write (layout : Layout) (x : Binary64) : String :=
  let sign := if x.negative then "-" else ""
  if x.isZero then sign ++ "0.0"
  else
    let decimal := x.shortest
    let digits := (toString decimal.digits).toList
    let exponent : Int := decimal.exponent + digits.length - 1
    if layout.leastPlain ≤ exponent ∧ exponent ≤ layout.largestPlain then
      sign ++ plain digits exponent
    else sign ++ layout.scientific digits exponent

end Layout

end ChatSocket.Number
