/-!
# JSON values

An object keeps its members in the order of the text, repeated names included. Integers are kept
apart from all other numbers, which no part of the chat's data has.
-/

namespace RichChat

inductive Json
  | null
  | bool (b : Bool)
  /-- A number written with digits only, or a minus sign and digits other than zero. -/
  | int (n : Int)
  /-- Any other number, as it was written. -/
  | real (text : String)
  | str (s : String)
  | arr (items : List Json)
  | obj (members : List (String × Json))
  deriving Inhabited, Repr

namespace Json

def ofOption {α : Type} (encode : α → Json) : Option α → Json
  | none => null
  | some a => encode a

def ofNat (n : Nat) : Json := int n

def ofWord (n : UInt64) : Json := int n.toNat

def ofHalf (n : UInt32) : Json := int n.toNat

/-- The first member of a name, if the value is an object. -/
def get? (name : String) : Json → Option Json
  | obj members => (members.find? fun m => m.1 == name).map (·.2)
  | _ => none

end Json

end RichChat
