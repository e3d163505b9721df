/-!
# Double-precision numbers

The finite numbers of the 64-bit binary format, held as a sign and a magnitude.  The magnitude is
the position of the absolute value among the non-negative finite numbers in increasing order, so
comparing positions compares values, and `position + 1` is the next number up.  All arithmetic is
exact arithmetic on natural numbers followed by one rounding.

* `parts` turns a position into `m` and `q` with value `m · 2 ^ (q - 1074)`.
* `rounded` is the position nearest to a quotient of naturals, ties to the even significand.
* `timesTen?` and `overTen` multiply and divide by a power of ten that is itself a double.
* `ofDecimal?` is the double that a significand and a power of ten are read as.
-/

namespace SignalRelay

/-- A finite double.  Every position below `Double.limit` is one. -/
structure Double where
  negative : Bool
  position : Nat
  deriving DecidableEq, Repr

namespace Double

/-- The first position past the finite doubles. -/
def limit : Nat := 2047 * Nat.pow 2 52

/-- The significand `m` and the exponent `q` of a position: the value is `m · 2 ^ q / 2 ^ 1074`. -/
def parts (position : Nat) : Nat × Nat :=
  let e := position / Nat.pow 2 52
  if e = 0 then (position, 0) else (Nat.pow 2 52 + position % Nat.pow 2 52, e - 1)

/-- The value of a position as a fraction with denominator `2 ^ 1074`. -/
def scaled (position : Nat) : Nat :=
  let (m, q) := parts position
  m * Nat.pow 2 q

/-- `num / den` rounded to the nearest natural number, a tie to the even one. -/
def nearestEven (num den : Nat) : Nat :=
  let low := num / den
  let rest := num % den
  if 2 * rest < den then low
  else if den < 2 * rest then low + 1
  else low + low % 2

/-- The position nearest to `num / den / 2 ^ 1074`, ties to even.  The result may lie at or past
`limit`, which means that the quotient is too large for a finite double. -/
def roundedScaled (num den : Nat) : Nat :=
  let bits := Nat.log2 (num / den)
  let q := bits - 52
  q * Nat.pow 2 52 + nearestEven num (den * Nat.pow 2 q)

def rounded (num den : Nat) : Nat :=
  roundedScaled (num * Nat.pow 2 1074) den

/-- The position of the double nearest to `10 ^ n`. -/
def tenPower (n : Nat) : Nat :=
  rounded (Nat.pow 10 n) 1

/-- The product with the double nearest to `10 ^ n`, or nothing if it is not finite. -/
def timesTen? (position n : Nat) : Option Nat :=
  let product := roundedScaled (scaled position * scaled (tenPower n)) (Nat.pow 2 1074)
  if product < limit then some product else none

def overTen (position n : Nat) : Nat :=
  roundedScaled (scaled position * Nat.pow 2 1074) (scaled (tenPower n))

/-- The quotient by `10 ^ n`, for any `n`, in steps of at most `10 ^ 308`, the largest power of ten
that is a double. -/
def overTenSteps (position n : Nat) : Nat :=
  if n ≤ 308 then overTen position n
  else if position = 0 then 0
  else overTenSteps (overTen position 308) (n - 308)
termination_by n

/-- The double read from `significand · 10 ^ exponent`, or nothing if it is too large.  The
significand is rounded first, then the product or quotient is. -/
def ofDecimal? (negative : Bool) (significand : Nat) (exponent : Int) : Option Double :=
  let start := rounded significand 1
  match exponent with
  | .ofNat n =>
    if n ≤ 308 then (timesTen? start n).map (Double.mk negative)
    else if start = 0 then some ⟨negative, 0⟩
    else none
  | .negSucc n => some ⟨negative, overTenSteps start (n + 1)⟩

end Double

end SignalRelay
