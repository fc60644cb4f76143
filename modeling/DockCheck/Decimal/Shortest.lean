import DockCheck.Text

/-!
# Shortest decimals

A number that a document gives in decimal is kept as the nearest binary floating-point number of 53
significant bits, and shown by the fewest decimal digits that read back as that number, of those
the nearest to it.  `Binary.ofDecimal` and `Binary.digits` are these two steps.
-/

namespace DockCheck.Decimal

/-- The quotient of two natural numbers, rounded to the nearest and from the middle to the even
neighbour. -/
def roundedQuotient (numerator denominator : Nat) : Nat :=
  let quotient := numerator / denominator
  let twice := 2 * (numerator % denominator)
  if denominator < twice || (twice = denominator && quotient % 2 = 1) then quotient + 1
  else quotient

/-- A positive binary number `mantissa · 2 ^ exponent`, or zero, or a number beyond all of them. -/
inductive Binary where
  | zero
  | finite (mantissa : Nat) (exponent : Int)
  | infinite
  deriving DecidableEq, Repr

/-- A power with an integer exponent, as a quotient of natural numbers. -/
def power (base : Nat) (exponent : Int) : Nat × Nat :=
  (base.pow exponent.toNat, base.pow (-exponent).toNat)

namespace Binary

/-- The least exponent of a binary number. -/
def leastExponent : Int := -1074

/-- The largest exponent of a binary number. -/
def largestExponent : Int := 971

/-- The binary number nearest to `significand · 10 ^ exponent`. -/
def ofDecimal (significand : Nat) (exponent : Int) : Binary :=
  let size : Int := (Nat.toDigits 10 significand).length
  if significand = 0 || size + exponent < -400 then .zero
  else if 400 < size + exponent then .infinite
  else
    let (up, down) := power 10 exponent
    let numerator := significand * up
    let guess : Int := (numerator.log2 : Int) - (down.log2 : Int) - 53
    let quotientAt (q : Int) : Nat × Nat :=
      let (twoUp, twoDown) := power 2 q
      (numerator * twoDown, down * twoUp)
    let fits (q : Int) : Bool :=
      let (n, d) := quotientAt q
      n < Nat.pow 2 53 * d
    let q := max (if fits guess then guess else guess + 1) leastExponent
    let (n, d) := quotientAt q
    let mantissa := roundedQuotient n d
    let (mantissa, q) := if mantissa = Nat.pow 2 53 then (Nat.pow 2 52, q + 1) else (mantissa, q)
    if mantissa = 0 then .zero else if largestExponent < q then .infinite
    else .finite mantissa q

/-- The decimals with `n` digits next to a value, as the digits and the exponent of the last of
them: those within the interval of what rounds to the value, the nearer first.  The value is
`middle · unit`, the ends of the interval are `low · unit` and `high · unit`. -/
def candidate? (middle low high : Nat) (closed : Bool) (unit : Nat × Nat) (place : Int) :
    Option Nat :=
  let (tenUp, tenDown) := power 10 place
  let scaled (n : Nat) : Nat := n * unit.1 * tenDown
  let grid (c : Nat) : Nat := c * tenUp * unit.2
  let floor := scaled middle / (tenUp * unit.2)
  let inside (c : Nat) : Bool :=
    if closed then scaled low ≤ grid c && grid c ≤ scaled high
    else scaled low < grid c && grid c < scaled high
  let below := scaled middle - grid floor
  let above := grid (floor + 1) - scaled middle
  let first := if below < above || (below = above && floor % 2 = 0) then floor else floor + 1
  let second := if first = floor then floor + 1 else floor
  if 0 < first && inside first then some first
  else if 0 < second && inside second then some second
  else none

/-- The number of digits in front of the point of a value `middle · unit`; for a value less than
one tenth it is negative. -/
def digitsInFront (middle : Nat) (unit : Nat × Nat) : Int :=
  let numerator := middle * unit.1
  let denominator := unit.2
  let guess : Int :=
    (Nat.toDigits 10 numerator).length - ((Nat.toDigits 10 denominator).length : Int)
  let (up, down) := power 10 guess
  if denominator * up ≤ numerator * down then guess + 1 else guess

/-- The shortest digits of a binary number, and the number of digits in front of the point. -/
def digits (mantissa : Nat) (exponent : Int) : Text × Int :=
  let middle := 4 * mantissa
  let high := middle + 2
  let low := if mantissa = Nat.pow 2 52 && leastExponent < exponent then middle - 1 else middle - 2
  let unit := power 2 (exponent - 2)
  let front := digitsInFront middle unit
  let found := (List.range 17).findSome? fun (k : Nat) =>
    let place := front - ((k : Int) + 1)
    (candidate? middle low high (mantissa % 2 = 0) unit place).map fun c => (c, place)
  match found with
  | none => (['0'], 1)
  | some (c, place) =>
    let shownDigits := Text.ofNat c
    let front := (shownDigits.length : Int) + place
    let trimmed := (shownDigits.reverse.dropWhile (· == '0')).reverse
    (trimmed, front)

end Binary

/-- How a decimal is laid out: positionally where the number of digits in front of the point is
more than `-4` and at most `16`, and always with a digit on either side of the point; otherwise
with an exponent of two digits or more. -/
def layout (digits : Text) (front : Int) : Text :=
  if -4 < front && front ≤ 16 then
    if front ≤ 0 then "0." ++ List.replicate (-front).toNat '0' ++ digits
    else
      let whole := digits.take front.toNat
      let fraction := digits.drop front.toNat
      whole ++ List.replicate (front.toNat - whole.length) '0' ++ "."
        ++ (if fraction.isEmpty then ['0'] else fraction)
  else
    let exponent := front - 1
    let size := Text.ofNat exponent.natAbs
    digits.take 1 ++ (if digits.length = 1 then [] else '.' :: digits.drop 1)
      ++ (if exponent < 0 then "e-" else "e+")
      ++ (if size.length = 1 then '0' :: size else size)

/-- The shortest decimal text of the binary number nearest to a decimal. -/
def shortest (negative : Bool) (significand : Nat) (exponent : Int) : Text :=
  let sign : Text := if negative then "-" else ""
  sign ++ match Binary.ofDecimal significand exponent with
    | .zero => "0.0"
    | .infinite => "inf"
    | .finite mantissa q =>
      let (digits, front) := Binary.digits mantissa q
      layout digits front

end DockCheck.Decimal
