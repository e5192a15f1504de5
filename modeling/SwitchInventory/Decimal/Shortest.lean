namespace SwitchInventory.Decimal

def twoTo (n : Nat) : Nat := Nat.pow 2 n

def tenTo (n : Nat) : Nat := Nat.pow 10 n

/-- A positive decimal number: `digits` times ten to the power `exponent`. -/
structure Scaled where
  digits : Nat
  exponent : Int
  deriving DecidableEq, Repr

/-- A fraction compared with a decimal: whether `digits · 10 ^ exponent ≤ num / den`. -/
def Scaled.le (s : Scaled) (num den : Nat) : Bool :=
  s.digits * tenTo s.exponent.toNat * den ≤ num * tenTo (-s.exponent).toNat

/-- Whether a decimal lies strictly below a fraction. -/
def Scaled.lt (s : Scaled) (num den : Nat) : Bool :=
  s.digits * tenTo s.exponent.toNat * den < num * tenTo (-s.exponent).toNat

/-- The reals that round to one floating point number `value / den`: those from `low / den` to
`high / den`, the two ends among them when `closed`. -/
structure Rounding where
  low : Nat
  value : Nat
  high : Nat
  den : Nat
  closed : Bool

namespace Rounding

/-- The interval of the number `mantissa · 2 ^ (exponent - 1075)`. Below a power of two the numbers
lie twice as dense as above it. -/
def ofParts (mantissa exponent : Nat) : Rounding :=
  let unit := twoTo (exponent - 1077)
  let below := if mantissa = twoTo 52 ∧ 1 < exponent then 1 else 2
  { low := (4 * mantissa - below) * unit
    value := 4 * mantissa * unit
    high := (4 * mantissa + 2) * unit
    den := twoTo (1077 - exponent)
    closed := mantissa % 2 = 0 }

/-- Whether a decimal reads back as the number. -/
def holds (r : Rounding) (s : Scaled) : Bool :=
  if r.closed then !s.lt r.low r.den && s.le r.high r.den
  else !s.le r.low r.den && s.lt r.high r.den

/-- The place of the first digit: the number is below ten to this power, and not below a tenth of
that. No number has its first digit more than 400 places after the point. -/
def place (r : Rounding) : Int :=
  (Nat.toDigits 10 (r.value * tenTo 400 / r.den)).length - 400

/-- The largest decimal with `count` digits that is not above the number. -/
def floor (r : Rounding) (count : Nat) : Scaled :=
  let exponent := r.place - count
  { digits := r.value * tenTo (-exponent).toNat / (r.den * tenTo exponent.toNat), exponent }

/-- Whether the number is nearer to the decimal above `s` than to `s`, or as near to both and `s` is
odd. -/
def nearerAbove (r : Rounding) (s : Scaled) : Bool :=
  let middle : Scaled := ⟨2 * s.digits + 1, s.exponent⟩
  middle.lt (2 * r.value) r.den || (middle.le (2 * r.value) r.den && s.digits % 2 = 1)

/-- A decimal with `count` digits that reads back as the number, the nearest if there are two. -/
def decimal? (r : Rounding) (count : Nat) : Option Scaled :=
  let below := r.floor count
  let above : Scaled := ⟨below.digits + 1, below.exponent⟩
  if r.holds below then
    if r.holds above && r.nearerAbove below then some above else some below
  else if r.holds above then some above
  else none

/-- The shortest decimal that reads back as the number; seventeen digits are always enough. -/
def shortest (r : Rounding) : Scaled :=
  ((List.range 17).findSome? fun count => r.decimal? (count + 1)).getD (r.floor 17)

end Rounding

/-- The shortest decimal of a finite number without its sign, and none for zero. -/
def shortest? (x : Float) : Option Scaled :=
  let bits := x.toBits.toNat % twoTo 63
  let fraction := bits % twoTo 52
  let exponent := bits / twoTo 52
  if bits = 0 then none
  else if exponent = 0 then some (Rounding.ofParts fraction 1).shortest
  else some (Rounding.ofParts (twoTo 52 + fraction) exponent).shortest

/-- The digits of a decimal without zeros at their end, and the place of the first of them. -/
def Scaled.normal (s : Scaled) : List Char × Int :=
  let digits := Nat.toDigits 10 s.digits
  ((digits.reverse.dropWhile (· = '0')).reverse, digits.length + s.exponent)

/-- The text of a decimal by its digits and the place of the first: with a point for numbers from
a hundred-thousandth up to sixteen places before the point, else with an exponent and its sign. -/
def write (digits : List Char) (place : Int) : List Char :=
  let count : Int := digits.length
  if count ≤ place ∧ place ≤ 16 then
    digits ++ List.replicate (place - count).toNat '0' ++ ['.', '0']
  else if 0 < place ∧ place ≤ 16 then
    digits.take place.toNat ++ '.' :: digits.drop place.toNat
  else if -5 < place ∧ place ≤ 0 then
    ['0', '.'] ++ List.replicate (-place).toNat '0' ++ digits
  else
    let point := if digits.length = 1 then [] else ['.']
    let sign := if place ≤ 0 then '-' else '+'
    digits.take 1 ++ point ++ digits.drop 1 ++ 'e' :: sign :: Nat.toDigits 10 (place - 1).natAbs

/-- The text of a finite floating point number. -/
def text (x : Float) : String :=
  let sign := if x.toBits.toNat < twoTo 63 then [] else ['-']
  match shortest? x with
  | none => String.ofList (sign ++ ['0', '.', '0'])
  | some s => String.ofList (sign ++ write s.normal.1 s.normal.2)

end SwitchInventory.Decimal
