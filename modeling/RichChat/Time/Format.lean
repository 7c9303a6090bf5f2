import RichChat.Time.Rfc3339

/-!
# Time formats

A format is a text in which a percent sign and a letter stand for a part of the time. A hyphen, an
underscore or a zero between the two changes how a number is filled up. A format with a part that
does not exist is no format, and the time is written as an RFC 3339 timestamp instead.
-/

namespace RichChat.Timestamp

open RichChat.Text

/-- How a number is filled up to its width. -/
inductive Fill
  | nothing | zeros | spaces
  deriving DecidableEq

/-- A number of one or two digits. The tens of a greater one are a single character as well. -/
def twoDigits (fill : Fill) (n : Nat) : List Char :=
  let n := n % 256
  let tens := n / 10
  let ones := Char.ofNat (0x30 + n % 10)
  if tens = 0 ∧ fill = .nothing then [ones]
  else if tens = 0 ∧ fill = .spaces then [' ', ones]
  else [Char.ofNat (0x30 + tens), ones]

/-- A number with a least width, its sign included. -/
def wideDigits (fill : Fill) (width : Nat) (plus : Bool) (n : Int) : List Char :=
  let sign := if n < 0 then ['-'] else if plus then ['+'] else []
  let width := if plus then width + 1 else width
  let digits := (toString n.natAbs).toList
  let missing := width - sign.length - digits.length
  match fill with
  | .nothing => sign ++ digits
  | .zeros => sign ++ List.replicate missing '0' ++ digits
  | .spaces => List.replicate missing ' ' ++ sign ++ digits

/-- A year in at least four digits, with a sign unless it has exactly four. -/
def yearText (fill : Fill) (year : Int) : List Char :=
  wideDigits fill 4 (year < 0 || 9999 < year) year

/-- The number of a week of the year, the first one with seven days after `offset` being the first.
The offset is the day of the week, counted from the first day of weeks. -/
def weekOfYear (t : Timestamp) (offset : Nat) : Nat :=
  (dayOfYear t.year t.month t.day + 6 - offset) / 7

/-- How many weeks the ISO calendar has in a year. -/
def isoWeeks (year : Int) : Nat :=
  let first := ((daysOfCivil year 1 1 + 3) % 7).toNat
  if first = 3 ∨ (first = 2 ∧ isLeapYear year) then 53 else 52

/-- The year and the week of the ISO calendar, whose weeks belong to the year of their Thursday. -/
def isoWeek (t : Timestamp) : Int × Nat :=
  let week := (dayOfYear t.year t.month t.day + 9 - t.weekday) / 7
  if week = 0 then (t.year - 1, isoWeeks (t.year - 1))
  else if isoWeeks t.year < week then (t.year + 1, 1)
  else (t.year, week)

def hour12 (t : Timestamp) : Nat := if t.hour % 12 = 0 then 12 else t.hour % 12

def monthNames : List String :=
  ["January", "February", "March", "April", "May", "June", "July", "August", "September",
    "October", "November", "December"]

def weekdayNames : List String :=
  ["Monday", "Tuesday", "Wednesday", "Thursday", "Friday", "Saturday", "Sunday"]

def monthName (t : Timestamp) : List Char := (monthNames.getD (t.month - 1) "").toList

def weekdayName (t : Timestamp) : List Char := (weekdayNames.getD t.weekday "").toList

/-- A part that is a number, filled up as asked for or as is usual for it. -/
def numberPart? (t : Timestamp) (fill : Option Fill) : Char → Option (List Char)
  | 'Y' => some (yearText (fill.getD .zeros) t.year)
  | 'C' => some (twoDigits (fill.getD .zeros) ((t.year.fdiv 100) % 256).toNat)
  | 'y' => some (twoDigits (fill.getD .zeros) (t.year % 100).toNat)
  | 'G' => some (yearText (fill.getD .zeros) t.isoWeek.1)
  | 'g' => some (twoDigits (fill.getD .zeros) (t.isoWeek.1 % 100).toNat)
  | 'q' => some [digitChar ((t.month + 2) / 3)]
  | 'm' => some (twoDigits (fill.getD .zeros) t.month)
  | 'd' => some (twoDigits (fill.getD .zeros) t.day)
  | 'e' => some (twoDigits (fill.getD .spaces) t.day)
  | 'U' => some (twoDigits (fill.getD .zeros) (t.weekOfYear ((t.weekday + 1) % 7)))
  | 'W' => some (twoDigits (fill.getD .zeros) (t.weekOfYear t.weekday))
  | 'V' => some (twoDigits (fill.getD .zeros) t.isoWeek.2)
  | 'w' => some [digitChar ((t.weekday + 1) % 7)]
  | 'u' => some [digitChar (t.weekday + 1)]
  | 'j' => some (wideDigits (fill.getD .zeros) 3 false (dayOfYear t.year t.month t.day))
  | 'H' => some (twoDigits (fill.getD .zeros) t.hour)
  | 'k' => some (twoDigits (fill.getD .spaces) t.hour)
  | 'I' => some (twoDigits (fill.getD .zeros) t.hour12)
  | 'l' => some (twoDigits (fill.getD .spaces) t.hour12)
  | 'M' => some (twoDigits (fill.getD .zeros) t.minute)
  | 'S' => some (twoDigits (fill.getD .zeros) t.toldSecond)
  | 'f' => some (wideDigits (fill.getD .zeros) 9 false t.toldNanosecond)
  | 's' => some (wideDigits (fill.getD .nothing) 9 false t.unixSeconds)
  | _ => none

/-- A part that is a text. -/
def textPart? (t : Timestamp) : Char → Option (List Char)
  | 'A' => some t.weekdayName
  | 'a' => some (t.weekdayName.take 3)
  | 'B' => some t.monthName
  | 'b' | 'h' => some (t.monthName.take 3)
  | 'P' => some (if t.hour < 12 then ['a', 'm'] else ['p', 'm'])
  | 'p' => some (if t.hour < 12 then ['A', 'M'] else ['P', 'M'])
  | 'Z' => some ['U', 'T', 'C']
  | 'z' => some "+0000".toList
  | '+' => some (t.rfc3339Chars "+00:00".toList)
  | 'n' => some ['\n']
  | 't' => some ['\t']
  | '%' => some ['%']
  | _ => none

/-- The first digits of the fraction of the second. -/
def fractionPart (t : Timestamp) (places : Nat) : List Char :=
  (padLeft '0' 9 t.toldNanosecond).take places

/-- The part that a format starts with after its percent sign, and what comes after that. -/
def part? (t : Timestamp) : List Char → Option (List Char × List Char)
  | '-' :: c :: cs => (t.numberPart? (some .nothing) c).map (·, cs)
  | '_' :: c :: cs => (t.numberPart? (some .spaces) c).map (·, cs)
  | '0' :: c :: cs => (t.numberPart? (some .zeros) c).map (·, cs)
  | ':' :: ':' :: ':' :: 'z' :: cs => some ("+00".toList, cs)
  | ':' :: ':' :: 'z' :: cs => some ("+00:00:00".toList, cs)
  | ':' :: 'z' :: cs => some ("+00:00".toList, cs)
  | '.' :: '3' :: 'f' :: cs => some ('.' :: t.fractionPart 3, cs)
  | '.' :: '6' :: 'f' :: cs => some ('.' :: t.fractionPart 6, cs)
  | '.' :: '9' :: 'f' :: cs => some ('.' :: t.fractionPart 9, cs)
  | '.' :: 'f' :: cs => some (fractionDigits t.toldNanosecond, cs)
  | '3' :: 'f' :: cs => some (t.fractionPart 3, cs)
  | '6' :: 'f' :: cs => some (t.fractionPart 6, cs)
  | '9' :: 'f' :: cs => some (t.fractionPart 9, cs)
  | c :: cs => ((t.numberPart? none c).or (t.textPart? c)).map (·, cs)
  | [] => none

/-- Letters that stand for several parts. -/
def shorthand? : Char → Option String
  | 'D' | 'x' => some "%m/%d/%y"
  | 'F' => some "%Y-%m-%d"
  | 'R' => some "%H:%M"
  | 'T' | 'X' => some "%H:%M:%S"
  | 'c' => some "%a %b %e %H:%M:%S %Y"
  | 'r' => some "%I:%M:%S %p"
  | 'v' => some "%e-%b-%Y"
  | _ => none

/-- A format with its shorthands written out. -/
def writeOut : List Char → List Char
  | '%' :: c :: cs =>
    match shorthand? c with
    | some s => s.toList ++ writeOut cs
    | none => '%' :: c :: writeOut cs
  | c :: cs => c :: writeOut cs
  | [] => []

/-- A time in a format without shorthands, of which the first `skip` characters have been done. -/
def fillIn? (t : Timestamp) : Nat → List Char → Option (List Char)
  | _, [] => some []
  | skip + 1, _ :: cs => t.fillIn? skip cs
  | 0, c :: cs =>
    if c = '%' then
      match t.part? cs with
      | some (part, rest) => (t.fillIn? (cs.length - rest.length) cs).map (part ++ ·)
      | none => none
    else (t.fillIn? 0 cs).map (c :: ·)

/-- A time as a format says, or as a timestamp if the format is none. -/
def format (t : Timestamp) (format : String) : String :=
  match t.fillIn? 0 (writeOut format.toList) with
  | some cs => String.ofList cs
  | none => String.ofList (t.rfc3339Chars "+00:00".toList)

end RichChat.Timestamp
