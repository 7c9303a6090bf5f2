import RichChat.Json.Basic

/-!
# Decoding records

A record is read from an object, whose unknown members are ignored, or from an array that lists its
fields in their order. `Fields` is what is left of it. A field is required, or has a default that
takes its place when it is missing; a field that is there twice is an error.
-/

namespace RichChat

/-- Why a JSON value does not have the expected form. -/
inductive DecodeError
  /-- The text is no JSON. -/
  | malformed
  /-- A value is not of the expected kind, or out of its range. -/
  | unexpected
  | missing (field : String)
  | repeated (field : String)
  /-- An array has more items than the record has fields. -/
  | surplus
  deriving DecidableEq, Inhabited, Repr

abbrev Decoded := Except DecodeError

namespace Json

def toBool : Json → Decoded Bool
  | bool b => .ok b
  | _ => .error .unexpected

def toText : Json → Decoded String
  | str s => .ok s
  | _ => .error .unexpected

/-- A natural number below a bound. -/
def toNatBelow (bound : Nat) : Json → Decoded Nat
  | int (.ofNat n) => if n < bound then .ok n else .error .unexpected
  | _ => .error .unexpected

def toWord (j : Json) : Decoded UInt64 := (toNatBelow UInt64.size j).map UInt64.ofNat

def toHalf (j : Json) : Decoded UInt32 := (toNatBelow UInt32.size j).map UInt32.ofNat

def toByte (j : Json) : Decoded (BitVec 8) := (toNatBelow 256 j).map (BitVec.ofNat 8)

/-- An offset or a size, which has 64 bits. -/
def toSize (j : Json) : Decoded Nat := toNatBelow UInt64.size j

def toSignedHalf : Json → Decoded Int32
  | int n =>
    if Int32.minValue.toInt ≤ n ∧ n ≤ Int32.maxValue.toInt then .ok (Int32.ofInt n)
    else .error .unexpected
  | _ => .error .unexpected

def toListOf {α : Type} (decode : Json → Decoded α) : Json → Decoded (List α)
  | arr items => items.mapM decode
  | _ => .error .unexpected

/-- A value that may be `null`. -/
def toOption {α : Type} (decode : Json → Decoded α) : Json → Decoded (Option α)
  | null => .ok none
  | j => (decode j).map some

/-- The fields of a record that have not been read. -/
inductive Fields
  /-- Members of an object, which stay here when they are read. -/
  | named (members : List (String × Json))
  /-- Items of an array, of which the first belongs to the next field. -/
  | listed (items : List Json)

abbrev FieldReader := StateT Fields Decoded

/-- The value of the next field, if it is there. -/
def fieldValue? (name : String) : FieldReader (Option Json) := fun fields =>
  match fields with
  | .named members =>
    match members.filter fun m => m.1 == name with
    | [] => .ok (none, fields)
    | [m] => .ok (some m.2, fields)
    | _ => .error (.repeated name)
  | .listed [] => .ok (none, fields)
  | .listed (item :: items) => .ok (some item, .listed items)

def required {α : Type} (name : String) (decode : Json → Decoded α) : FieldReader α := do
  match ← fieldValue? name with
  | some j => decode j
  | none => throw (.missing name)

def withDefault {α : Type} (name : String) (decode : Json → Decoded α) (default : α) :
    FieldReader α := do
  match ← fieldValue? name with
  | some j => decode j
  | none => pure default

/-- A field that is none when it is missing or `null`. -/
def optional {α : Type} (name : String) (decode : Json → Decoded α) : FieldReader (Option α) :=
  withDefault name (toOption decode) none

/-- Reads a record from the members of an object. -/
def ofMembers {α : Type} (reader : FieldReader α) (members : List (String × Json)) : Decoded α :=
  (reader (.named members)).map (·.1)

/-- Reads a record from an object only. -/
def toObject {α : Type} (reader : FieldReader α) : Json → Decoded α
  | obj members => ofMembers reader members
  | _ => .error .unexpected

/-- Reads a record from an object or an array. -/
def toRecord {α : Type} (reader : FieldReader α) : Json → Decoded α
  | obj members => ofMembers reader members
  | arr items => do
    match ← reader (.listed items) with
    | (a, .listed (_ :: _)) => let _ := a; .error .surplus
    | (a, _) => .ok a
  | _ => .error .unexpected

/-- One of several names, alone or as the only member of an object whose value is `null`. -/
def toVariant {α : Type} (variants : List (String × α)) (j : Json) : Decoded α :=
  let named (name : String) : Decoded α := match variants.find? fun v => v.1 == name with
    | some v => .ok v.2
    | none => .error .unexpected
  match j with
  | str name => named name
  | obj [(name, null)] => named name
  | _ => .error .unexpected

end Json

end RichChat
