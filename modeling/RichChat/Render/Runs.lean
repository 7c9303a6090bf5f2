import RichChat.Rich.Segment

/-!
# Runs of attributes

Attributes are entered and left in any order. The text is cut into runs in which the same attributes
are active, and every run with text and attributes becomes one segment, so that these segments do
not overlap. `counts` tells how often each attribute has been entered.

The counts have no bound, and an index without a count is passed over. Where counts of 32 bits in an
array fail, `Runs.run?` tells of calls and `Scene.renderNode?` of a tree.
-/

namespace RichChat

structure Runs where
  /-- Where the open run starts. -/
  start : Nat
  /-- How often each single attribute is open. -/
  counts : List Nat := List.replicate Attribute.count 0
  deriving Inhabited

namespace Runs

/-- The attributes that are open at least once. -/
def active (r : Runs) : Attribute :=
  (List.range Attribute.count).foldl
    (fun a i => if 0 < r.counts.getD i 0 then a ∪ Attribute.single i else a) .empty

/-- The open run up to an offset, if it has text and attributes. -/
def region (r : Runs) (attributes : Attribute) (offset : Nat) : Option Segment :=
  if r.start < offset && !attributes.isEmpty then some ⟨r.start, offset, .styled attributes⟩
  else none

/-- Changes the counts at an offset. A run ends there if other attributes are active afterwards. -/
def change (r : Runs) (offset : Nat) (counts : List Nat) : Option Segment × Runs :=
  let next := { r with counts }
  if next.active = r.active then (none, next)
  else (r.region r.active offset, { next with start := offset })

def enter (r : Runs) (a : Attribute) (offset : Nat) : Option Segment × Runs :=
  r.change offset (a.indices.foldl (fun counts i => counts.modify i (· + 1)) r.counts)

def exit (r : Runs) (a : Attribute) (offset : Nat) : Option Segment × Runs :=
  r.change offset (a.indices.foldl (fun counts i => counts.modify i (· - 1)) r.counts)

/-- Leaves all attributes. -/
def finish (r : Runs) (offset : Nat) : Option Segment × Runs :=
  r.change offset (List.replicate Attribute.count 0)

/-- Ends the open run and starts another one with the same attributes. -/
def split (r : Runs) (offset : Nat) : Option Segment × Runs :=
  (r.region r.active offset, { r with start := offset })

/-- Starts the open run later, so that the text before belongs to no run. -/
def reset (r : Runs) (offset : Nat) : Runs := { r with start := offset }

end Runs

end RichChat
