import SignalRelay.Decimal.Double

/-!
# Shortest decimal text of a double

The text of a double has as few digits as possible among those that read back as the same double,
and among texts of that length it is the nearest one, a tie going to the even last digit.

* `interval` bounds the reals that round to a double; the ends belong to it when the significand is
  even.
* `gridDigits?` looks at the two neighbours of the value among the multiples of a power of ten.
* `shortestDigits` takes the first grid, from coarse to fine, on which a neighbour rounds to the
  double.
* `Double.text` lays the digits out: positional from `10 ^ -5` up to below `10 ^ 16`, otherwise with
  an exponent that carries its sign.
-/

namespace SignalRelay

namespace Double

/-- The value of a position and the bounds of the reals that round to it, as fractions with
denominator `4 · 2 ^ 1074`: lower bound, value, upper bound, and whether the bounds belong to the
interval.  Below a power of two the doubles lie twice as close. -/
def interval (position : Nat) : Nat × Nat × Nat × Bool :=
  let (m, q) := parts position
  let below := if m = Nat.pow 2 52 ∧ 0 < q then 1 else 2
  ((4 * m - below) * Nat.pow 2 q, 4 * m * Nat.pow 2 q, (4 * m + 2) * Nat.pow 2 q, m % 2 = 0)

def intervalUnit : Nat := 4 * Nat.pow 2 1074

/-- The multiple of `10 ^ exponent` that is nearest to the double among its two neighbours of that
form, divided by `10 ^ exponent`, if it rounds to the double. -/
def gridDigits? (position : Nat) (exponent : Int) : Option Nat :=
  let (low, value, high, closed) := interval position
  -- With `up` and `down`, the multiple `c` is compared with `x` as `c * up` with `x * down`.
  let up := intervalUnit * (if 0 ≤ exponent then Nat.pow 10 exponent.toNat else 1)
  let down := if 0 ≤ exponent then 1 else Nat.pow 10 (-exponent).toNat
  let inside (c : Nat) : Bool :=
    if closed then low * down ≤ c * up && c * up ≤ high * down
    else low * down < c * up && c * up < high * down
  let floor := value * down / up
  let rest := 2 * (value * down % up)
  let upFirst := up < rest || (rest == up && floor % 2 == 1)
  let nearer := if upFirst then floor + 1 else floor
  let farther := if upFirst then floor else floor + 1
  if inside nearer then some nearer else if inside farther then some farther else none

def digitCount (n : Nat) : Nat := (Nat.toDigits 10 n).length

/-- The exponent of the leading decimal digit of a positive position's value. -/
def leadingExponent (position : Nat) : Int :=
  let value := scaled position
  if Nat.pow 2 1074 ≤ value then digitCount (value / Nat.pow 2 1074) - 1
  else
    -- A quotient of a power of ten large enough that the value's digits stand in front of the point.
    (digitCount (value * Nat.pow 10 400 / Nat.pow 2 1074) : Int) - 401

/-- Tries grids of `count`, `count + 1`, … digits, at most `fuel` of them. -/
def shortestFrom (position : Nat) (leading : Int) : Nat → Nat → Nat × Int
  | 0, _ => (0, 0)
  | fuel + 1, count =>
    let exponent := leading - count + 1
    match gridDigits? position exponent with
    | some digits => (digits, exponent)
    | none => shortestFrom position leading fuel (count + 1)

/-- The digits, as a number, and the power of ten of the last of them, for a positive position.
Seventeen digits always suffice. -/
def shortestDigits (position : Nat) : Nat × Int :=
  shortestFrom position (leadingExponent position) 17 1

def trimZeros (digits : List Char) (exponent : Int) : List Char × Int :=
  let zeros := (digits.reverse.takeWhile (· == '0')).length
  (digits.take (digits.length - zeros), exponent + zeros)

/-- Digits that end at `10 ^ exponent`, written with a point and at least one digit on each side of
it. -/
def positional (digits : List Char) (exponent : Int) : List Char :=
  if 0 ≤ exponent then digits ++ List.replicate exponent.toNat '0' ++ ['.', '0']
  else
    let places := (-exponent).toNat
    if places < digits.length then
      digits.take (digits.length - places) ++ '.' :: digits.drop (digits.length - places)
    else '0' :: '.' :: List.replicate (places - digits.length) '0' ++ digits

/-- Digits whose first one stands for `10 ^ leading`, written with a signed exponent and without a
trailing point. -/
def scientific (digits : List Char) (leading : Int) : List Char :=
  let mantissa := match digits with
    | [] => []
    | [d] => [d]
    | d :: rest => d :: '.' :: rest
  let sign := if 0 ≤ leading then '+' else '-'
  mantissa ++ 'e' :: sign :: Nat.toDigits 10 leading.natAbs

def chars (x : Double) : List Char :=
  let sign := if x.negative then ['-'] else []
  if x.position = 0 then sign ++ ['0', '.', '0']
  else
    let (number, last) := shortestDigits x.position
    let (digits, exponent) := trimZeros (Nat.toDigits 10 number) last
    let leading := exponent + digits.length - 1
    sign ++ if -5 ≤ leading ∧ leading < 16 then positional digits exponent else scientific digits leading

end Double

end SignalRelay
