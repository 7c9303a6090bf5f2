import RichChat.Json.Basic

/-!
# TOML values

A table remembers how it came to be, since that decides what may still be added to it: a header
makes a table of its own, and implies the ones on the way to it; a dotted key makes tables that only
dotted keys may go on with; a table written in braces is closed. Tables under a double header are
listed.
-/

namespace RichChat.Toml

/-- How a table came to be. -/
inductive Form
  | header
  | implied
  | dotted
  | closed
  deriving DecidableEq, Inhabited

inductive Value
  | text (s : String)
  | integer (n : Int)
  /-- A number with a fraction or an exponent, an infinity, or no number. -/
  | float
  | boolean (b : Bool)
  /-- A date, a time of day, or both. -/
  | moment
  | array (items : List Value)
  | table (form : Form) (entries : List (String × Value))
  | tables (elements : List (List (String × Value)))
  deriving Inhabited

abbrev Entries := List (String × Value)

namespace Entries

def find? (key : String) (entries : Entries) : Option Value :=
  (List.find? (fun e => e.1 = key) entries).map (·.2)

/-- Another value for a key that is there. -/
def replace (key : String) (value : Value) (entries : Entries) : Entries :=
  entries.map fun e => if e.1 = key then (key, value) else e

/-- Goes down from a table along a path and changes what is there. Tables that are missing are made
on the way. Dotted keys do not go through tables with a header, and the path of a header goes
through the last one of listed tables. -/
def alter? (dotted : Bool) (change : Form → Entries → Option Entries) :
    List String → Form → Entries → Option Entries
  | [], form, entries => change form entries
  | key :: path, _, entries =>
    match entries.find? key with
    | none => do
      let form := if dotted then .dotted else .implied
      let inner ← alter? dotted change path form []
      return entries ++ [(key, .table form inner)]
    | some (.table form inner) =>
      if form = .closed ∨ (dotted ∧ form = .header) then none
      else do
        let inner ← alter? dotted change path form inner
        return entries.replace key (.table form inner)
    | some (.tables elements) => do
      let inner ← alter? dotted change path .header (← elements.getLast?)
      return entries.replace key (.tables (elements.dropLast ++ [inner]))
    | some _ => none

/-- Adds a key, given with its path, to a table of a form. -/
def add? (path : List String) (key : String) (value : Value) (form : Form) (entries : Entries) :
    Option Entries :=
  alter? true (fun reached inner =>
    if decide (reached = .dotted) == path.isEmpty then none
    else if (inner.find? key).isSome then none
    else some (inner ++ [(key, value)])) path form entries

/-- Opens the table of a header. It may have been implied by another one, and nothing else. -/
def openTable? (key : String) (entries : Entries) : Option Entries :=
  match entries.find? key with
  | none => some (entries ++ [(key, .table .header [])])
  | some (.table .implied inner) => some (entries.replace key (.table .header inner))
  | some _ => none

/-- Adds a table to those that are listed under a key. -/
def openElement? (key : String) (entries : Entries) : Option Entries :=
  match entries.find? key with
  | none => some (entries ++ [(key, .tables [[]])])
  | some (.tables elements) => some (entries.replace key (.tables (elements ++ [[]])))
  | some _ => none

end Entries

namespace Value

mutual

/-- The value as it looks in JSON. Floats and moments, which JSON has not, are no text, integer,
boolean or list there either. -/
def toJson : Value → Json
  | text s => .str s
  | integer n => .int n
  | float => .real "0.0"
  | boolean b => .bool b
  | moment => .null
  | array items => .arr (listToJson items)
  | table _ entries => .obj (entriesToJson entries)
  | tables elements => .arr (elementsToJson elements)

def listToJson : List Value → List Json
  | [] => []
  | v :: vs => v.toJson :: listToJson vs

def entriesToJson : List (String × Value) → List (String × Json)
  | [] => []
  | (key, v) :: es => (key, v.toJson) :: entriesToJson es

def elementsToJson : List (List (String × Value)) → List Json
  | [] => []
  | es :: rest => .obj (entriesToJson es) :: elementsToJson rest

end

end Value

end RichChat.Toml
