import SwitchInventory.Decimal.Shortest
import SwitchInventory.Json.Reader

namespace SwitchInventory.Json

open SwitchInventory.Decimal (twoTo)

/-- Appends digits to a significand while it stays below 2 ^ 64, and gives those left over. -/
def gather (significand : Nat) : List Char → Nat × List Char
  | [] => (significand, [])
  | d :: ds =>
    let next := significand * 10 + (d.toNat - 48)
    if next < twoTo 64 then gather next ds else (significand, d :: ds)

/-- A number times a power of ten, in at most `steps` factors of ten to the 308, or none where it is
too large. -/
def scale : Nat → Float → Int → Option Float
  | 0, x, _ => some x
  | steps + 1, x, exponent =>
    let power := Float.ofScientific 1 false exponent.natAbs
    if exponent.natAbs ≤ 308 then
      if 0 ≤ exponent then
        let y := x * power
        if y.isInf then none else some y
      else some (x / power)
    else if x == 0 then some x
    else if 0 ≤ exponent then none
    else scale steps (x / Float.ofScientific 1 false 308) (exponent + 308)

/-- The parts of a number: its digits before and after the point, where there is one, and its
exponent, where there is one. -/
structure Numeral where
  whole : List Char
  fraction? : Option (List Char)
  exponent? : Option (Bool × List Char)

namespace Numeral

def natOf (digits : List Char) : Nat := digits.foldl (fun n d => n * 10 + (d.toNat - 48)) 0

/-- The value of a number that is not an integer of 64 bits, or none where it is too large. -/
def real? (n : Numeral) (negative : Bool) : Option Float :=
  let (whole, wholeRest) := gather 0 n.whole
  let fraction := n.fraction?.getD []
  let (significand, fractionRest) := gather whole fraction
  let position : Int := wholeRest.length - (fraction.length - fractionRest.length)
  let magnitude :=
    match n.exponent? with
    | none => scale 4 significand.toUInt64.toFloat position
    | some (down, digits) =>
      let e := natOf digits
      if twoTo 31 ≤ e then if significand = 0 ∨ down then some 0 else none
      else scale 4 significand.toUInt64.toFloat (if down then position - e else position + e)
  magnitude.map fun x => if negative then -x else x

/-- What the number is reported as, or none where it is too large. -/
def found? (n : Numeral) (negative : Bool) : Option Found :=
  let whole := natOf n.whole
  let isInteger := n.fraction?.isNone && n.exponent?.isNone
  if isInteger && !negative && whole < twoTo 64 then some (.integer whole)
  else if isInteger && negative && whole ≤ twoTo 63 && whole != 0 then some (.integer (-whole))
  else (n.real? negative).map fun x => .real (Decimal.text x)

end Numeral

namespace Reader

def digits : Reader (List Char) := do
  let s ← get
  set (s.dropWhile Char.isDigit)
  return s.takeWhile Char.isDigit

/-- Takes digits, of which there must be one; at the end of the text the fault is `atEnd`. -/
def someDigits (atEnd : Fault) : Reader (List Char) := do
  match ← get with
  | [] => throw atEnd
  | c :: _ => if c.isDigit then digits else throw .malformed

/-- Takes the character that comes next if it is one of those given. -/
def oneOf? (choice : List Char) : Reader (Option Char) := do
  match ← get with
  | [] => return none
  | c :: rest =>
    if c ∈ choice then
      set rest
      return some c
    else return none

/-- Takes a number without its sign. No zero may stand before another digit. Where digits are
missing at the end of the text, the fault is `atEnd`. -/
def numeral (atEnd : Fault) : Reader Numeral := do
  let whole ← someDigits atEnd
  if whole.head? = some '0' ∧ whole.length ≠ 1 then throw .malformed
  let fraction? ← match ← oneOf? ['.'] with
    | some _ => some <$> someDigits atEnd
    | none => pure none
  let exponent? ← match ← oneOf? ['e', 'E'] with
    | some _ => do
      let sign ← oneOf? ['+', '-']
      pure (some (sign == some '-', ← someDigits atEnd))
    | none => pure none
  return ⟨whole, fraction?, exponent?⟩

def number : Reader Found := do
  let sign ← oneOf? ['-']
  match (← numeral .ended).found? sign.isSome with
  | some found => return found
  | none => throw .malformed

def skipNumber : Reader Unit := do
  let _ ← oneOf? ['-']
  discard (numeral .malformed)

end Reader

end SwitchInventory.Json
