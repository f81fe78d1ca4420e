/-!
# Binary and decimal numbers

Numbers of the form m · 2^q with a significand of 53 bits, in exact arithmetic:
rounding to them, and the shortest decimal that reads back as one.
-/

namespace ExpiringCache.Decimal

def precision : Nat := 53

/-- Rounds a natural number to 53 significant bits, a half to the even neighbour. -/
def roundBits (value : Nat) : Nat :=
  let surplus := (value.log2 + 1) - precision
  let unit := Nat.pow 2 surplus
  let floor := value / unit
  let rest := value % unit
  let up := unit < 2 * rest ∨ (2 * rest = unit ∧ floor % 2 = 1)
  (if up then floor + 1 else floor) * unit

/-- The least product that rounds to infinity. -/
def overflowBound : Nat := Nat.pow 2 1024 - Nat.pow 2 970

def maxPower : Nat := 308

/--
Whether an integer significand times a power of ten leaves the finite range,
both factors being rounded before they are multiplied.
-/
def overflows (significand : Nat) (power : Int) : Bool :=
  significand ≠ 0 ∧ 0 ≤ power ∧
    ((maxPower : Int) < power ∨
      overflowBound ≤ roundBits significand * roundBits (Nat.pow 10 power.toNat))

/-- A positive number m · 2^q, with the gap to its lower neighbour. -/
structure Binary where
  significand : Nat
  exponent : Int
  /-- The lower neighbour is only half as far away as the upper one. -/
  narrowBelow : Bool
  deriving DecidableEq, Repr

def Binary.ofBits (bits : Nat) : Binary :=
  let fraction : Nat := bits % Nat.pow 2 52
  let biased : Nat := bits / Nat.pow 2 52 % Nat.pow 2 11
  if biased = 0 then { significand := fraction, exponent := -1074, narrowBelow := false }
  else
    { significand := Nat.pow 2 52 + fraction
      exponent := (biased : Int) - 1075
      narrowBelow := fraction = 0 ∧ 1 < biased }

/-- The decimal `digits` · 10^`exponent`. -/
structure Digits where
  digits : Nat
  exponent : Int
  deriving DecidableEq, Repr

structure Ratio where
  num : Nat
  den : Nat
  deriving DecidableEq, Repr

namespace Ratio

def ofBinary (significand : Nat) (exponent : Int) : Ratio where
  num := significand * Nat.pow 2 exponent.toNat
  den := Nat.pow 2 (-exponent).toNat

def scale (ratio : Ratio) (power : Int) : Ratio where
  num := ratio.num * Nat.pow 10 (-power).toNat
  den := ratio.den * Nat.pow 10 power.toNat

/-- How many decimal digits a natural number has; zero has none. -/
def digitCount (value : Nat) : Nat :=
  if value = 0 then 0 else (Nat.toDigits 10 value).length

/-- The least power of ten above the fraction. -/
def magnitude (ratio : Ratio) : Int :=
  if ratio.den ≤ ratio.num then digitCount (ratio.num / ratio.den)
  else 1 - (digitCount ((ratio.den - 1) / ratio.num) : Int)

end Ratio

namespace Binary

def value (number : Binary) : Ratio :=
  .ofBinary (4 * number.significand) (number.exponent - 2)

/-- Half way to the lower neighbour. -/
def lower (number : Binary) : Ratio :=
  .ofBinary (4 * number.significand - if number.narrowBelow then 1 else 2) (number.exponent - 2)

def upper (number : Binary) : Ratio :=
  .ofBinary (4 * number.significand + 2) (number.exponent - 2)

/-- Whether a multiple of a power of ten reads back as the number; ends go to the even one. -/
def readsBack (number : Binary) (multiple : Nat) (power : Int) : Bool :=
  let low := number.lower.scale power
  let high := number.upper.scale power
  if number.significand % 2 = 0 then
    low.num ≤ multiple * low.den ∧ multiple * high.den ≤ high.num
  else low.num < multiple * low.den ∧ multiple * high.den < high.num

/-- The multiple of a power of ten nearest to the number among those that read back. -/
def nearest? (number : Binary) (power : Int) : Option Nat :=
  let exact := number.value.scale power
  let below := exact.num / exact.den
  let rest := exact.num % exact.den
  match number.readsBack below power, number.readsBack (below + 1) power with
  | false, false => none
  | true, false => some below
  | false, true => some (below + 1)
  | true, true =>
      if 2 * rest < exact.den ∨ (2 * rest = exact.den ∧ below % 2 = 0) then some below
      else some (below + 1)

def shortestFrom (number : Binary) (magnitude : Int) : Nat → Nat → Option Digits
  | _, 0 => none
  | count, tries + 1 =>
      match number.nearest? (magnitude - count) with
      | some digits => some { digits, exponent := magnitude - count }
      | none => shortestFrom number magnitude (count + 1) tries

/-- The shortest decimal that reads back as the number, and the nearest of those. -/
def shortest? (number : Binary) : Option Digits :=
  number.shortestFrom number.value.magnitude 1 17

end Binary

def Digits.trimmed (decimal : Digits) : List Char × Int :=
  let text := Nat.toDigits 10 decimal.digits
  let kept := (text.reverse.dropWhile (· = '0')).reverse
  (kept, decimal.exponent + (text.length - kept.length))

/--
Writes a decimal.  A value from 10^-5 up to 10^16 is written positionally, with
at least one digit on each side of the point, any other with an exponent.
-/
def Digits.render (decimal : Digits) : String :=
  let (digits, exponent) := decimal.trimmed
  let point : Int := digits.length + exponent
  let text : List Char :=
    if 0 ≤ exponent ∧ point ≤ 16 then
      digits ++ List.replicate exponent.toNat '0' ++ ['.', '0']
    else if 0 < point ∧ point ≤ 16 then
      digits.take point.toNat ++ '.' :: digits.drop point.toNat
    else if -5 < point ∧ point ≤ 0 then
      '0' :: '.' :: List.replicate (-point).toNat '0' ++ digits
    else
      let mantissa := digits.take 1 ++
        if digits.length = 1 then [] else '.' :: digits.drop 1
      mantissa ++ 'e' :: (toString (point - 1)).toList
  String.ofList text

def render (value : Float) : String :=
  let bits := value.toBits.toNat
  let shortest := if bits = 0 then none else (Binary.ofBits bits).shortest?
  match shortest with
  | some decimal => decimal.render
  | none => "0.0"

end ExpiringCache.Decimal
