import RichChat.Text.Decimal
import RichChat.Time.Timestamp
import RichChat.Toml.Value

/-!
# Numbers and moments in TOML

Integers have 64 bits and may be written in four bases, with underscores between digits. Dates and
times have a fixed number of digits and have to exist.
-/

namespace RichChat.Toml

open RichChat.Text

/-- Digits with single underscores between them, and what comes after them. -/
def digits? (base : Nat) : List Char → Option (List Char × List Char)
  | [] => none
  | c :: cs =>
    if (digitValue? base c).isNone then none
    else match cs with
      | '_' :: rest =>
        match digits? base rest with
        | some (more, rest) => some (c :: more, rest)
        | none => some ([c], '_' :: rest)
      | cs =>
        match digits? base cs with
        | some (more, rest) => some (c :: more, rest)
        | none => some ([c], cs)

/-- Decimal digits of which the first is no zero in front of others. -/
def whole? : List Char → Option (List Char × List Char)
  | '0' :: cs => some (['0'], cs)
  | cs => digits? 10 cs

/-- A sign, if there is one, and what comes after it. -/
def sign : List Char → Bool × List Char
  | '-' :: cs => (true, cs)
  | '+' :: cs => (false, cs)
  | cs => (false, cs)

def inWord (n : Int) : Bool := Int64.minValue.toInt ≤ n && n ≤ Int64.maxValue.toInt

/-- An integer in a base other than ten, after the letter that names the base. -/
def based? (base : Nat) (cs : List Char) : Option (Value × List Char) := do
  let (digits, rest) ← digits? base cs
  let n ← readNat? base digits
  if inWord n then some (.integer n, rest) else none

def decimal? (cs : List Char) : Option (Value × List Char) := do
  let (negative, cs) := sign cs
  let (digits, rest) ← whole? cs
  let n : Int := ← readNat? 10 digits
  let n := if negative then -n else n
  if inWord n then some (.integer n, rest) else none

def integer? : List Char → Option (Value × List Char)
  | '0' :: 'x' :: cs => based? 16 cs
  | '0' :: 'o' :: cs => based? 8 cs
  | '0' :: 'b' :: cs => based? 2 cs
  | cs => decimal? cs

/-- An exponent, and what comes after it. -/
def exponent? : List Char → Option (Int × List Char)
  | 'e' :: cs | 'E' :: cs => do
    let (negative, cs) := sign cs
    let (digits, rest) ← digits? 10 cs
    let n : Int := ← readNat? 10 digits
    some (if negative then -n else n, rest)
  | _ => none

/-- The least integer that is rounded to no double. -/
def doubleBound : Nat := 1 <<< 1024 - 1 <<< 970

/-- Whether a decimal of these digits times a power of ten is too great for a double. The bound has
309 digits. -/
def tooGreat (digits : List Char) (exponent : Int) : Bool :=
  let digits := digits.dropWhile (· == '0')
  let places := digits.length + exponent
  if digits.isEmpty || places < 309 then false
  else if 309 < places then true
  else
    match readNat? 10 ((digits ++ List.replicate 309 '0').take 309) with
    | some n => doubleBound ≤ n
    | none => false

/-- What comes after a number that is no integer. One that is too great has to be negative. -/
def float? (cs : List Char) : Option (Value × List Char) := do
  let (negative, unsigned) := sign cs
  match unsigned with
  | 'i' :: 'n' :: 'f' :: rest | 'n' :: 'a' :: 'n' :: rest => some (.float, rest)
  | _ =>
    let (whole, rest) ← whole? unsigned
    let (part, exponent, rest) ← match rest with
      | '.' :: rest => do
        let (part, rest) ← digits? 10 rest
        let (exponent, rest) := (exponent? rest).getD (0, rest)
        some (part, exponent, rest)
      | rest => (exponent? rest).map ([], ·)
    if !negative && tooGreat (whole ++ part) (exponent - part.length) then none
    else some (.float, rest)

/-- A number of exactly so many digits in a range. -/
def field? (width lo hi : Nat) (cs : List Char) : Option (Nat × List Char) := do
  let digits := cs.take width
  if digits.length < width then none
  let n ← readNat? 10 digits
  if lo ≤ n ∧ n ≤ hi then some (n, cs.drop width) else none

def mark? (c : Char) : List Char → Option (List Char)
  | d :: cs => if c = d then some cs else none
  | [] => none

def date? (cs : List Char) : Option (List Char) := do
  let (year, cs) ← field? 4 0 9999 cs
  let (month, cs) ← field? 2 1 12 (← mark? '-' cs)
  let (_, cs) ← field? 2 1 (Timestamp.daysInMonth year month) (← mark? '-' cs)
  some cs

def time? (cs : List Char) : Option (List Char) := do
  let (_, cs) ← field? 2 0 23 cs
  let (_, cs) ← field? 2 0 59 (← mark? ':' cs)
  let (_, cs) ← field? 2 0 60 (← mark? ':' cs)
  match cs with
  | '.' :: rest =>
    let digits := rest.takeWhile Char.isDigit
    some (if digits.isEmpty then cs else rest.drop digits.length)
  | cs => some cs

def zone? : List Char → Option (List Char)
  | 'Z' :: cs | 'z' :: cs => some cs
  | '+' :: cs | '-' :: cs => do
    let (_, cs) ← field? 2 0 23 cs
    let (_, cs) ← field? 2 0 59 (← mark? ':' cs)
    some cs
  | _ => none

/-- The time of day after a date. -/
def timeAfterDate? : List Char → Option (List Char)
  | 'T' :: cs | 't' :: cs | ' ' :: cs => (time? cs).map fun rest => (zone? rest).getD rest
  | _ => none

/-- A date, a time of day or both. -/
def moment? (cs : List Char) : Option (Value × List Char) :=
  match date? cs with
  | some rest => some (.moment, (timeAfterDate? rest).getD rest)
  | none => (time? cs).map (.moment, ·)

/-- A number or a moment, and what comes after it. -/
def scalar? (cs : List Char) : Option (Value × List Char) :=
  (moment? cs).or ((float? cs).or (integer? cs))

end RichChat.Toml
