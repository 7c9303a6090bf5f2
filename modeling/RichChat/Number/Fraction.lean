/-!
# Fractions and double precision

Scales and file sizes are non-negative fractions whose numerators are kept to 53 significant bits.
`Fraction.toDouble` is the nearest such fraction, a tie going to the even numerator, and
`divNearestEven` and `divNearestUp` are the two ways to an integer: a half goes to the even
neighbour, or up.
-/

namespace RichChat

/-- `n / d` to the nearest integer, a half to the even one. -/
def divNearestEven (n d : Nat) : Nat :=
  let q := n / d
  let r := n % d
  if 2 * r < d then q
  else if d < 2 * r then q + 1
  else if q % 2 = 0 then q
  else q + 1

/-- `n / d` to the nearest integer, a half upwards. -/
def divNearestUp (n d : Nat) : Nat :=
  (2 * n + d) / (2 * d)

/-- A non-negative fraction `num / den`. -/
structure Fraction where
  num : Nat
  den : Nat
  deriving DecidableEq, Repr

namespace Fraction

def ofNat (n : Nat) : Fraction := ⟨n, 1⟩

protected def mul (a b : Fraction) : Fraction := ⟨a.num * b.num, a.den * b.den⟩

instance : Mul Fraction := ⟨Fraction.mul⟩

/-- The smaller of two fractions. -/
protected def min (a b : Fraction) : Fraction :=
  if a.num * b.den ≤ b.num * a.den then a else b

instance : Min Fraction := ⟨Fraction.min⟩

/-- The nearest fraction with a numerator of 53 bits over or times a power of two. -/
def toDouble (a : Fraction) : Fraction :=
  if a.num = 0 then ⟨0, 1⟩ else
  let up := a.den.log2 + 53
  let down := a.num.log2
  let n := a.num <<< (up - down)
  let d := a.den <<< (down - up)
  if n < d <<< 53 then
    ⟨divNearestEven n d <<< (down - up), 1 <<< (up - down)⟩
  else
    ⟨(divNearestEven n (2 * d) * 2) <<< (down - up), 1 <<< (up - down)⟩

/-- The quotient of two integers in double precision. -/
def divide (n d : Nat) : Fraction := toDouble ⟨n, d⟩

/-- The product of a fraction and an integer in double precision. -/
def scale (a : Fraction) (n : Nat) : Fraction := toDouble (a * ofNat n)

/-- The nearest integer, a half upwards. -/
def round (a : Fraction) : Nat := divNearestUp a.num a.den

end Fraction

end RichChat
