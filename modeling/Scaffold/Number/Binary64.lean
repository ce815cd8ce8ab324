/-! Binary floating-point numbers of 64 bits, in exact integer arithmetic.

A finite number is a significand below 2^53 times a power of two. `ofDecimal` rounds a decimal to
the nearest such number, ties to the even significand; `positional` writes a number with the fewest
decimal digits that round to it, without an exponent. -/

set_option autoImplicit false

namespace Scaffold.Number

inductive Binary64 where
  | nan
  | infinite (negative : Bool)
  /-- `significand * 2 ^ exponent`, with a sign. -/
  | finite (negative : Bool) (significand : Nat) (exponent : Int)
deriving DecidableEq, Repr

namespace Binary64

def twoTo (exponent : Nat) : Nat := Nat.pow 2 exponent

def tenTo (exponent : Nat) : Nat := Nat.pow 10 exponent

def significandLimit : Nat := twoTo 53

def leastExponent : Int := -1074

def greatestExponent : Int := 971

/-- The quotient of two naturals rounded to the nearest natural, ties to even. -/
def nearest (numerator denominator : Nat) : Nat :=
  let quotient := numerator / denominator
  let twice := 2 * (numerator % denominator)
  if twice < denominator then quotient
  else if denominator < twice then quotient + 1
  else quotient + quotient % 2

def scaled (numerator denominator : Nat) (exponent : Int) : Nat × Nat :=
  if 0 ≤ exponent then (numerator, denominator * twoTo exponent.toNat)
  else (numerator * twoTo (-exponent).toNat, denominator)

def ofFraction (negative : Bool) (numerator denominator : Nat) : Binary64 :=
  let estimate : Int := (numerator.log2 : Int) - denominator.log2 - 53
  let (top, bottom) := scaled numerator denominator estimate
  let exact := if top / bottom < significandLimit then estimate else estimate + 1
  let exponent := max exact leastExponent
  let (top, bottom) := scaled numerator denominator exponent
  let significand := nearest top bottom
  let (significand, exponent) :=
    if significand = significandLimit then (twoTo 52, exponent + 1) else (significand, exponent)
  if greatestExponent < exponent then .infinite negative
  else .finite negative significand exponent

def ofDecimal (negative : Bool) (digits : Nat) (exponent : Int) : Binary64 :=
  let magnitude : Int := ((Nat.toDigits 10 digits).length : Int) + exponent
  if digits = 0 || magnitude < -330 then .finite negative 0 leastExponent
  else if 310 < magnitude then .infinite negative
  else if 0 ≤ exponent then ofFraction negative (digits * tenTo exponent.toNat) 1
  else ofFraction negative digits (tenTo (-exponent).toNat)

def scaledByTen (numerator denominator : Nat) (exponent : Int) : Nat × Nat :=
  if 0 ≤ exponent then (numerator * tenTo exponent.toNat, denominator)
  else (numerator, denominator * tenTo (-exponent).toNat)

def leadingPower (numerator denominator : Nat) : Int :=
  if denominator ≤ numerator then (Nat.toDigits 10 (numerator / denominator)).length - 1
  else
    -(((List.range 400).find? fun places => denominator ≤ numerator * tenTo places).getD 400 : Int)

/-- Whether a decimal `digits * 10 ^ power` rounds to `significand * 2 ^ exponent`. -/
def roundsTo (significand : Nat) (exponent : Int) (digits : Nat) (power : Int) : Bool :=
  match ofDecimal false digits power with
  | .finite _ other shift => other == significand && (shift == exponent || significand == 0)
  | _ => false

/-- The decimal of `count` digits that rounds to the number and lies nearest to it; of two equally
near ones the greater. -/
def decimalOfLength? (significand : Nat) (exponent : Int) (count : Nat) : Option (Nat × Int) :=
  let (numerator, denominator) := scaled significand 1 (-exponent)
  let power := leadingPower numerator denominator - (count - 1)
  let (top, bottom) := scaledByTen numerator denominator (-power)
  let below := top / bottom
  let remainder := top % bottom
  let belowFits := roundsTo significand exponent below power
  let aboveFits := roundsTo significand exponent (below + 1) power
  if belowFits && (!aboveFits || 2 * remainder < bottom) then some (below, power)
  else if aboveFits then
    if below + 1 = tenTo count then some (tenTo (count - 1), power + 1) else some (below + 1, power)
  else none

/-- The fewest digits, and the power of ten of the last of them, that round to a number. -/
def shortest (significand : Nat) (exponent : Int) : Nat × Int :=
  ((List.range 17).findSome? fun index =>
    decimalOfLength? significand exponent (index + 1)).getD (0, 0)

/-- The digits of `digits * 10 ^ power` with the decimal point in its place; a whole number has
no point. -/
def layOut (digits : Nat) (power : Int) : List Char :=
  let written := Nat.toDigits 10 digits
  if 0 ≤ power then written ++ List.replicate power.toNat '0'
  else
    let places := (-power).toNat
    let padded := List.replicate (places + 1 - written.length) '0' ++ written
    padded.take (padded.length - places) ++ '.' :: padded.drop (padded.length - places)

def positional : Binary64 → String
  | .nan => "NaN"
  | .infinite negative => if negative then "-inf" else "inf"
  | .finite negative significand exponent =>
      let magnitude :=
        if significand = 0 then ['0']
        else
          let (digits, power) := shortest significand exponent
          layOut digits power
      let pointed := if magnitude.contains '.' then magnitude else magnitude ++ ['.', '0']
      String.ofList (if negative then '-' :: pointed else pointed)

end Binary64

end Scaffold.Number
