import ChatSocket.Number.Binary64

/-!
# JSON values

Objects keep their members sorted by key.  The order is that of the code points
of the keys, which is also the order of their UTF-8 bytes.  A second member
under the same key replaces the first.
-/

set_option autoImplicit false

namespace ChatSocket

/-- Integers that fit 64 bits, signed or unsigned, keep their exact value;
every other number is a double. -/
inductive Json.Number where
  | integer (value : Int)
  | real (value : Number.Binary64)
  deriving DecidableEq, Repr, Inhabited

inductive Json where
  | null
  | bool (value : Bool)
  | number (value : Json.Number)
  | string (value : String)
  | array (items : List Json)
  | object (members : List (String × Json))
  deriving Repr, Inhabited

namespace Json

/-- Smallest integer kept exactly. -/
def minInteger : Int := -0x8000000000000000

/-- Members of an object, sorted by key. -/
abbrev Members := List (String × Json)

namespace Members

/-- Puts a value under a key, in order; a value already there is replaced. -/
def insert (key : String) (value : Json) : Members → Members
  | [] => [(key, value)]
  | (other, held) :: rest =>
      if key = other then (key, value) :: rest
      else if key < other then (key, value) :: (other, held) :: rest
      else (other, held) :: insert key value rest

def get? (key : String) : Members → Option Json
  | [] => none
  | (other, held) :: rest => if key = other then some held else get? key rest

theorem get?_insert_self (key : String) (value : Json) (members : Members) :
    get? key (insert key value members) = some value := by
  induction members with
  | nil => simp [insert, get?]
  | cons head rest ih =>
      obtain ⟨other, held⟩ := head
      by_cases same : key = other
      · simp [insert, get?, same]
      · by_cases before : key < other
        · simp [insert, get?, same, before]
        · simp [insert, get?, same, before, ih]

theorem get?_insert_of_ne (key other : String) (value : Json) (members : Members)
    (differs : other ≠ key) :
    get? other (insert key value members) = get? other members := by
  induction members with
  | nil => simp [insert, get?, differs]
  | cons head rest ih =>
      obtain ⟨found, held⟩ := head
      by_cases same : key = found
      · subst same
        simp [insert, get?, differs]
      · by_cases before : key < found
        · simp [insert, get?, same, before, differs]
        · by_cases hit : other = found
          · simp [insert, get?, same, before, hit]
          · simp [insert, get?, same, before, hit, ih]

end Members

/-- An object with the fields that are present, whatever order they come in. -/
def record (fields : List (String × Option Json)) : Json :=
  .object <| fields.foldl (fun members field =>
    match field.2 with
    | some value => Members.insert field.1 value members
    | none => members) []

def ofNat (value : Nat) : Json := .number (.integer value)

def ofInt (value : Int) : Json := .number (.integer value)

end Json

end ChatSocket
