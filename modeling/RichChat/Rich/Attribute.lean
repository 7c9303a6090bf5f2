/-!
# Text attributes

A set of attributes is eight bits, of which six have a meaning. The two others can come in from
outside and are kept, but `Attribute.known` drops them. The text of a set lists its names, then the
bits without a meaning in hexadecimal.
-/

namespace RichChat

/-- A set of text attributes. -/
structure Attribute where
  bits : BitVec 8
  deriving DecidableEq, Inhabited

namespace Attribute

def empty : Attribute := ⟨0⟩
def bold : Attribute := ⟨1⟩
def italic : Attribute := ⟨2⟩
def underline : Attribute := ⟨4⟩
def strikethrough : Attribute := ⟨8⟩
def spoiler : Attribute := ⟨16⟩
def monospace : Attribute := ⟨32⟩

/-- How many single attributes there are. -/
def count : Nat := 6

/-- Every single attribute with its name, in the order of the bits. -/
def named : List (String × Attribute) :=
  [("BOLD", bold), ("ITALIC", italic), ("UNDERLINE", underline),
    ("STRIKETHROUGH", strikethrough), ("SPOILER", spoiler), ("MONOSPACE", monospace)]

def union (a b : Attribute) : Attribute := ⟨a.bits ||| b.bits⟩

instance : Union Attribute := ⟨union⟩

/-- The single attribute with the bit `i`. -/
def single (i : Nat) : Attribute := ⟨BitVec.twoPow 8 i⟩

def isEmpty (a : Attribute) : Bool := a.bits == 0

/-- Whether every bit of `b` is in `a`. -/
def contains (a b : Attribute) : Bool := a.bits &&& b.bits == b.bits

/-- The bits that have a meaning. -/
def known (a : Attribute) : Attribute := ⟨a.bits &&& 0x3F⟩

/-- The bits that have no meaning. -/
def unknown (a : Attribute) : Attribute := ⟨a.bits &&& 0xC0⟩

def isKnown (a : Attribute) : Bool := a.unknown.isEmpty

/-- The bit of a set that has exactly one. -/
def index? (a : Attribute) : Option Nat :=
  match (List.range 8).filter fun i => a.bits.getLsbD i with
  | [i] => some i
  | _ => none

/-- The single attributes of a set, then its bits without a meaning as one more set. -/
def flags (a : Attribute) : List Attribute :=
  (named.map (·.2)).filter a.contains ++ if a.isKnown then [] else [a.unknown]

/-- The bits that a set is counted by. -/
def indices (a : Attribute) : List Nat := a.flags.filterMap index?

end Attribute

end RichChat
