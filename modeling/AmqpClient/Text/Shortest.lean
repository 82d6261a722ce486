/-!
# Shortest decimal form of a binary64 number

The fewest decimal digits that read back as the same number, and of those the
digits nearest to it. The search runs on exact integers: a number is a
significand times a power of two, and a decimal reads back exactly when it lies
between the midpoints to the two neighbouring numbers.
-/

set_option autoImplicit false

namespace AmqpClient.Text

/-- A positive number in exact form: `numerator / denominator`, with the two
midpoints to its neighbours over the same denominator. -/
structure Interval where
  value : Nat
  low : Nat
  high : Nat
  denominator : Nat
  /-- Whether the midpoints themselves read back as the number. -/
  closed : Bool

def twoTo (exponent : Nat) : Nat :=
  1 <<< exponent

def tenTo (exponent : Nat) : Nat :=
  Nat.pow 10 exponent

def fractionSize : Nat :=
  twoTo 52

def signSize : Nat :=
  twoTo 63

/-- The exact form of a finite positive number given by its bits without the sign. -/
def Interval.ofBits (bits : Nat) : Interval :=
  let fraction := bits % fractionSize
  let biased := bits / fractionSize
  let significand := if biased = 0 then fraction else fractionSize + fraction
  let exponent : Int := (if biased = 0 then 1 else biased : Nat) - 1075
  let below := if fraction = 0 ∧ 1 < biased then 1 else 2
  let scale := exponent - 2
  let up := twoTo scale.toNat
  { value := 4 * significand * up
    low := (4 * significand - below) * up
    high := (4 * significand + 2) * up
    denominator := twoTo (-scale).toNat
    closed := significand % 2 = 0 }

def Interval.contains (interval : Interval) (digits : Nat) (exponent : Int) : Bool :=
  let scaled := digits * tenTo exponent.toNat * interval.denominator
  let shift := tenTo (-exponent).toNat
  let low := interval.low * shift
  let high := interval.high * shift
  if interval.closed then low ≤ scaled && scaled ≤ high else low < scaled && scaled < high

/-- The number of decimal digits before the point, or minus the number of zeros
after it. -/
def Interval.magnitude (interval : Interval) : Int :=
  if interval.denominator ≤ interval.value then
    (Nat.toDigits 10 (interval.value / interval.denominator)).length
  else
    let zeros := (List.range 400).find? fun shift =>
      interval.denominator ≤ interval.value * tenTo (shift + 1);
    Int.negOfNat (zeros.getD 400)

/-- The nearer of two neighbouring decimals that both read back; an exact half
goes to the even one. -/
def Interval.nearer (interval : Interval) (digits : Nat) (exponent : Int) : Nat :=
  let twice := (2 * digits + 1) * tenTo exponent.toNat * interval.denominator
  let value := 2 * interval.value * tenTo (-exponent).toNat
  if value < twice then digits
  else if twice < value then digits + 1
  else if digits % 2 = 0 then digits else digits + 1

/-- The decimal with `count` digits that reads back, if there is one. -/
def Interval.decimal? (interval : Interval) (count : Nat) : Option (Nat × Int) :=
  let exponent := interval.magnitude - count
  let digits :=
    interval.value * tenTo (-exponent).toNat / (interval.denominator * tenTo exponent.toNat)
  match interval.contains digits exponent, interval.contains (digits + 1) exponent with
  | true, true => some (interval.nearer digits exponent, exponent)
  | true, false => some (digits, exponent)
  | false, true => some (digits + 1, exponent)
  | false, false => none

/-- Digits without their trailing zeros, and the exponent that makes up for them. -/
def stripZeros : Nat → Nat → Int → Nat × Int
  | 0, digits, exponent => (digits, exponent)
  | fuel + 1, digits, exponent =>
    if digits % 10 = 0 ∧ digits ≠ 0 then stripZeros fuel (digits / 10) (exponent + 1)
    else (digits, exponent)

/-- The shortest decimal `digits · 10 ^ exponent` of a finite positive number. -/
def shortestDecimal (bits : Nat) : Nat × Int :=
  let interval := Interval.ofBits bits
  let found := (List.range 17).findSome? fun count => interval.decimal? (count + 1)
  let (digits, exponent) := found.getD (0, 0)
  stripZeros 20 digits exponent

/-- How a decimal is laid out: positional between two magnitudes, scientific
outside them. -/
structure DecimalLayout where
  /-- The greatest number of digits before the point in positional form. -/
  maxWhole : Int
  /-- The greatest number of zeros after the point in positional form. -/
  maxZeros : Int
  exponentMark : Char
  /-- Whether an exponent that is not negative has a plus sign. -/
  signsExponent : Bool

/-- Lays out a decimal. A whole number keeps one zero after its point. -/
def DecimalLayout.render (layout : DecimalLayout) (digits : Nat) (exponent : Int) : List Char :=
  let written := Nat.toDigits 10 digits
  let point : Int := written.length + exponent
  if 0 ≤ exponent ∧ point ≤ layout.maxWhole then
    written ++ List.replicate exponent.toNat '0' ++ ['.', '0']
  else if 0 < point ∧ point ≤ layout.maxWhole then
    written.take point.toNat ++ ['.'] ++ written.drop point.toNat
  else if -layout.maxZeros ≤ point ∧ point ≤ 0 then
    ['0', '.'] ++ List.replicate (-point).toNat '0' ++ written
  else
    let sign := if layout.signsExponent ∧ 0 ≤ point - 1 then ['+'] else []
    let power := sign ++ (toString (point - 1)).toList
    written.take 1 ++ (if written.length = 1 then [] else '.' :: written.drop 1) ++
      [layout.exponentMark] ++ power

def renderFloat (layout : DecimalLayout) (bits : UInt64) : String :=
  let magnitude := bits.toNat % signSize
  let sign := if bits.toNat / signSize = 1 then ['-'] else []
  let body :=
    if magnitude = 0 then ['0', '.', '0']
    else
      let (digits, exponent) := shortestDecimal magnitude
      layout.render digits exponent
  String.ofList (sign ++ body)

end AmqpClient.Text
