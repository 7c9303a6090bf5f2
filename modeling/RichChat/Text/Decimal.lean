import RichChat.Text.Blank

/-!
# Numbers in text

Reading natural numbers in a base, and writing them in a fixed number of digits.
-/

namespace RichChat.Text

/-- The value of a digit of a base of at most 36, letters standing for the values from ten. -/
def digitValue? (base : Nat) (c : Char) : Option Nat :=
  let n := c.toNat
  let v :=
    if 0x30 ≤ n && n ≤ 0x39 then n - 0x30
    else if 0x61 ≤ n && n ≤ 0x7A then n - 0x61 + 10
    else if 0x41 ≤ n && n ≤ 0x5A then n - 0x41 + 10
    else base
  if v < base then some v else none

/-- The value of a text of digits, `acc` being the value of the digits before it. -/
def readDigits? (base : Nat) : List Char → Nat → Option Nat
  | [], acc => some acc
  | c :: cs, acc => (digitValue? base c).bind fun v => readDigits? base cs (acc * base + v)

/-- A natural number written with at least one digit and nothing else. -/
def readNat? (base : Nat) (cs : List Char) : Option Nat :=
  if cs.isEmpty then none else readDigits? base cs 0

/-- A number of 64 bits in decimal ASCII digits. -/
def readWord64? (cs : List Char) : Option UInt64 :=
  (readNat? 10 cs).bind fun n => if n < UInt64.size then some (.ofNat n) else none

def digitChar (v : Nat) : Char :=
  if v < 10 then Char.ofNat (0x30 + v) else Char.ofNat (0x61 + v - 10)

/-- The last `width` digits of `n` in a base. -/
def lastDigits (base : Nat) : Nat → Nat → List Char
  | 0, _ => []
  | width + 1, n => lastDigits base width (n / base) ++ [digitChar (n % base)]

/-- `n` in decimal, filled up on the left to a width. -/
def padLeft (fill : Char) (width : Nat) (n : Nat) : List Char :=
  let digits := (toString n).toList
  List.replicate (width - digits.length) fill ++ digits

/-- `n` in hexadecimal without leading zeros. -/
def hexDigits (n : Nat) : List Char := Nat.toDigits 16 n

end RichChat.Text
