import ChatSocket.Json.Fault

/-!
# Reading what a value stands for

A schema takes a JSON value and answers what it stands for, or the first
`Mismatch`.  A record is an object, whose members are looked at in the order of
their keys and whose unknown members are ignored, or an array of its fields in
the order in which they are declared.
-/

set_option autoImplicit false

namespace ChatSocket.Json.Schema

abbrev Result (α : Type) := Except Mismatch α

def any (value : Json) : Result Json := .ok value

def string : Json → Result String
  | .string value => .ok value
  | other => .error (.invalidType other.found "a string")

def bool : Json → Result Bool
  | .bool value => .ok value
  | other => .error (.invalidType other.found "a boolean")

/-- An integer of 64 bits with a sign. -/
def signed : Json → Result Int64
  | .number (.integer value) =>
      if (Int64.ofInt value).toInt = value then .ok (Int64.ofInt value)
      else .error (.invalidValue (.integer value) "i64")
  | other => .error (.invalidType other.found "i64")

/-- An integer of 64 bits without a sign. -/
def unsigned : Json → Result UInt64
  | .number (.integer value) =>
      if ((UInt64.ofNat value.toNat).toNat : Int) = value then .ok (UInt64.ofNat value.toNat)
      else .error (.invalidValue (.integer value) "u64")
  | other => .error (.invalidType other.found "u64")

/-- Null stands for absence. -/
def optional {α : Type} (schema : Json → Result α) : Json → Result (Option α)
  | .null => .ok none
  | value => some <$> schema value

/-- One of several names.  A name may also be the only key of an object that
holds null under it. -/
def variant {α : Type} (known : List (String × α)) : Json → Result α
  | .string name => find name
  | .object [(name, value)] => do
      let meant ← find name
      match value with
      | .null => return meant
      | other => .error (.invalidType other.found "unit")
  | .object _ => .error (.invalidValue .map "map with a single key")
  | other => .error (.invalidType other.found "string or map")
where
  find (name : String) : Result α :=
    match known.lookup name with
    | some meant => .ok meant
    | none => .error (.unknownVariant name (known.map Prod.fst))

/-! ## Records -/

/-- Name and number of fields of a record, as mismatches call it. -/
structure Shape where
  name : String
  size : Nat

def elementCount : Nat → String
  | 1 => "1 element"
  | count => toString count ++ " elements"

def Shape.expected (shape : Shape) : String := "struct " ++ shape.name

def Shape.expectedItems (shape : Shape) : String :=
  shape.expected ++ " with " ++ elementCount shape.size

/-- Where a record stands: as an argument of its own, or inside a value that was
taken apart by its tag.  Only the wording for surplus elements differs. -/
inductive Place where
  | argument
  | tagged
  deriving DecidableEq

def Place.surplus (place : Place) (length size : Nat) : Mismatch :=
  match place with
  | .argument => .invalidLength length "fewer elements in array"
  | .tagged => .invalidLength length (elementCount size ++ " in sequence")

/-- The field under a key, if it is there. -/
def field? {α : Type} (key : String) (schema : Json → Result α) (members : Members) :
    Result (Option α) :=
  match members.get? key with
  | some value => some <$> schema value
  | none => .ok none

/-- The element at an index, if the array is long enough. -/
def item? {α : Type} (index : Nat) (schema : Json → Result α) (items : List Json) :
    Result (Option α) :=
  match items[index]? with
  | some value => some <$> schema value
  | none => .ok none

/-- A field that must be there. -/
def needField {α : Type} (name : String) : Option α → Result α
  | some value => .ok value
  | none => .error (.missingField name)

/-- An element that must be there. -/
def item {α : Type} (shape : Shape) (index : Nat) (schema : Json → Result α)
    (items : List Json) : Result α := do
  match ← item? index schema items with
  | some value => return value
  | none => .error (.invalidLength index shape.expectedItems)

/-- A record from either of its forms. -/
def record {α : Type} (shape : Shape) (place : Place) (ofMembers : Members → Result α)
    (ofItems : List Json → Result α) : Json → Result α
  | .object members => ofMembers members
  | .array items => do
      let value ← ofItems items
      if items.length ≤ shape.size then return value
      else .error (place.surplus items.length shape.size)
  | other => .error (.invalidType other.found shape.expected)

end ChatSocket.Json.Schema
