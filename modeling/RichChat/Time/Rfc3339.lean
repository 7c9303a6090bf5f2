import RichChat.Text.Blank
import RichChat.Text.Decimal
import RichChat.Time.Timestamp

/-!
# RFC 3339

Timestamps are written as RFC 3339 has them, with a fraction of three, six or nine digits when there
is one. Reading is lenient: blanks may stand between the parts, a space may replace the `T`, numbers
may have fewer digits, years may have a sign and then any number of digits, and the colon of the
zone may be left out.
-/

namespace RichChat.Timestamp

open RichChat.Text

/-- Reads one part of a timestamp from the characters that are left. -/
abbrev PartReader (α : Type) := StateT (List Char) Option α

namespace PartReader

def skipBlanks : PartReader Unit := fun cs => some ((), trimStart cs)

def literal (expected : Char) : PartReader Unit := fun cs =>
  match cs with
  | c :: r => if c = expected then some ((), r) else none
  | [] => none

/-- Blanks, then a number of one digit to `width`. -/
def number (width : Nat) : PartReader Nat := fun cs =>
  let cs := trimStart cs
  let digits := (cs.take width).takeWhile Char.isDigit
  (readNat? 10 digits).map fun n => (n, cs.drop digits.length)

/-- A number in a range. -/
def numberIn (lo hi : Nat) : PartReader Nat := do
  let n ← number 2
  if lo ≤ n ∧ n ≤ hi then pure n else failure

/-- A number of any length that a signed word holds. -/
def longNumber : PartReader Nat := fun cs =>
  let digits := cs.takeWhile Char.isDigit
  (readNat? 10 digits).bind fun n =>
    if n ≤ Int64.maxValue.toInt.toNat then some (n, cs.drop digits.length) else none

/-- A year: four digits at most, or a sign and any number of digits. -/
def year : PartReader Int := do
  skipBlanks
  match ← get with
  | '-' :: r => set r; return -(← longNumber)
  | '+' :: r => set r; return (← longNumber)
  | _ => return (← number 4)

/-- Nanoseconds: nine digits count, and any further ones are skipped. -/
def fraction : PartReader Nat := do
  match ← get with
  | '.' :: r =>
    let digits := (r.take 9).takeWhile Char.isDigit
    if digits.isEmpty then failure
    set ((r.drop digits.length).dropWhile Char.isDigit)
    readNat? 10 (digits ++ List.replicate (9 - digits.length) '0')
  | _ => return 0

def twoDigits : PartReader Nat := fun cs =>
  match cs with
  | a :: b :: r => (readNat? 10 [a, b]).map fun n => (n, r)
  | _ => none

/-- Seconds ahead of UTC. -/
def zone : PartReader Int := do
  match ← get with
  | 'Z' :: r => set r; return 0
  | 'z' :: r => set r; return 0
  | sign :: r =>
    if (r.length ≥ 2 : Bool) && (sign :: r.take 2).map Char.toUpper == ['U', 'T', 'C'] then
      set (r.drop 2)
      return 0
    else if sign = '+' || sign = '-' || sign = '\u2212' then
      set r
      let hours ← twoDigits
      modify fun cs => cs.dropWhile fun c => c == ':' || isBlank c
      let minutes ← twoDigits
      if minutes < 60 then
        let seconds : Int := hours * 3600 + minutes * 60
        return if sign = '+' then seconds else -seconds
      else failure
    else failure
  | [] => failure

/-- A date, a separator, a time of day and a zone. -/
def timestamp : PartReader (Timestamp × Int) := do
  let year ← year
  skipBlanks; literal '-'
  let month ← numberIn 1 12
  skipBlanks; literal '-'
  let day ← numberIn 1 31
  match ← get with
  | c :: r => if c = 'T' || c = 't' || c = ' ' then set r else failure
  | [] => failure
  let hour ← numberIn 0 23
  skipBlanks; literal ':'
  let minute ← numberIn 0 59
  skipBlanks; literal ':'
  let second ← numberIn 0 60
  let nanosecond ← fraction
  skipBlanks
  let offset ← zone
  let leap := second = 60
  return (⟨year, month, day, hour, minute, if leap then 59 else second,
    if leap then 1000000000 + nanosecond else nanosecond⟩, offset)

end PartReader

/-- The point in time that a text tells, if it is one that can be told. -/
def ofRfc3339? (text : String) : Option Timestamp :=
  match PartReader.timestamp text.toList with
  | some ((t, offset), rest) =>
    if (trimStart rest).isEmpty && inRange t.year && t.day ≤ daysInMonth t.year t.month
        && offset.natAbs < 86400 then
      t.ofLocal? offset
    else none
  | none => none

/-- A year of four digits, with a sign when it has more or is negative. -/
def yearDigits (year : Int) : List Char :=
  if 0 ≤ year ∧ year ≤ 9999 then padLeft '0' 4 year.toNat
  else (if year < 0 then '-' else '+') :: padLeft '0' 4 year.natAbs

/-- The second as it is told: 60 inside a leap second. -/
def toldSecond (t : Timestamp) : Nat :=
  if t.nanosecond < 1000000000 then t.second else t.second + 1

/-- The nanoseconds within the told second. -/
def toldNanosecond (t : Timestamp) : Nat := t.nanosecond % 1000000000

/-- The fraction of the second in as few groups of three digits as it needs. -/
def fractionDigits (nanosecond : Nat) : List Char :=
  if nanosecond = 0 then []
  else if nanosecond % 1000000 = 0 then '.' :: padLeft '0' 3 (nanosecond / 1000000)
  else if nanosecond % 1000 = 0 then '.' :: padLeft '0' 6 (nanosecond / 1000)
  else '.' :: padLeft '0' 9 nanosecond

def dateDigits (t : Timestamp) : List Char :=
  yearDigits t.year ++ '-' :: padLeft '0' 2 t.month ++ '-' :: padLeft '0' 2 t.day

def timeDigits (t : Timestamp) : List Char :=
  padLeft '0' 2 t.hour ++ ':' :: padLeft '0' 2 t.minute ++ ':' :: padLeft '0' 2 t.toldSecond

/-- Date and time with a fraction and a given name of the zone. -/
def rfc3339Chars (t : Timestamp) (zone : List Char) : List Char :=
  t.dateDigits ++ 'T' :: t.timeDigits ++ fractionDigits t.toldNanosecond ++ zone

/-- The timestamp as it is exchanged, with `Z` for the zone. -/
def toRfc3339 (t : Timestamp) : String := String.ofList (t.rfc3339Chars ['Z'])

end RichChat.Timestamp
