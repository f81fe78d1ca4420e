import ExpiringCache.Decimal
import ExpiringCache.Json.Refusal
import ExpiringCache.Text.Utf8

/-!
# Numbers in JSON

The grammar of numbers, and what a number means where an integer is asked for.
-/

namespace ExpiringCache.Json

/-- A number as far as a reader of integers has to know it. -/
inductive Number where
  | natural (value : Nat)
  /-- The negative of a positive number of at most 2^63. -/
  | negative (magnitude : Nat)
  /-- A number that is not held as an integer. -/
  | real
  deriving DecidableEq, Repr

namespace Number

def digit? : Symbol → Option Nat
  | some char => if char.isDigit then some (char.toNat - '0'.toNat) else none
  | none => none

def digits (text : List Symbol) : List Nat :=
  (text.takeWhile fun symbol => (digit? symbol).isSome).filterMap digit?

def ofDigits (digits : List Nat) : Nat :=
  digits.foldl (fun value digit => value * 10 + digit) 0

structure Parts where
  isNegative : Bool
  whole : List Nat
  fraction : List Nat
  exponent : Int
  /-- Neither a point nor an exponent is written. -/
  isInteger : Bool
  /-- How many symbols the number takes. -/
  size : Nat
  deriving DecidableEq, Repr

/-- The refusal of a number that lacks a digit before the rest of the text. -/
def missingDigit : List Symbol → Refusal
  | [] => .ended
  | _ :: _ => .malformed

/-- Reads the exponent after its letter, with the number of symbols it takes. -/
def exponent (text : List Symbol) : Except Refusal (Int × Nat) :=
  let (sign, signSize, unsigned) : Int × Nat × List Symbol :=
    match text with
    | some '+' :: rest => (1, 1, rest)
    | some '-' :: rest => (-1, 1, rest)
    | _ => (1, 0, text)
  match digits unsigned with
  | [] => .error (missingDigit unsigned)
  | read => .ok (sign * (ofDigits read : Int), signSize + read.length)

def fraction (text : List Symbol) : Except Refusal (List Nat) :=
  match digits text with
  | [] => .error (missingDigit text)
  | read => .ok read

def parts (text : List Symbol) : Except Refusal Parts := do
  let (isNegative, unsigned) :=
    match text with
    | some '-' :: rest => (true, rest)
    | _ => (false, text)
  let whole := digits unsigned
  match whole with
  | [] => throw (missingDigit unsigned)
  | 0 :: _ :: _ => throw .malformed
  | _ => pure ()
  let afterWhole := unsigned.drop whole.length
  let (fraction, fractionSize, afterFraction) ←
    match afterWhole with
    | some '.' :: rest => do
        let read ← fraction rest
        pure (read, read.length + 1, rest.drop read.length)
    | _ => pure ([], 0, afterWhole)
  let (exponent, exponentSize) ←
    match afterFraction with
    | some 'e' :: rest | some 'E' :: rest => do
        let (power, size) ← exponent rest
        pure (power, size + 1)
    | _ => pure (0, 0)
  return {
    isNegative
    whole
    fraction
    exponent
    isInteger := fractionSize + exponentSize = 0
    size := (if isNegative then 1 else 0) + whole.length + fractionSize + exponentSize }

def maxSignificand : Nat := Nat.pow 2 64 - 1

/-- A significand under construction, with the power of ten it stands for. -/
structure Scaled where
  significand : Nat := 0
  power : Int := 0
  /-- A digit did not fit any more. -/
  full : Bool := false

namespace Scaled

def takes (scaled : Scaled) (digit : Nat) : Bool :=
  !scaled.full && scaled.significand * 10 + digit ≤ maxSignificand

/-- Adds a digit before the point; one that does not fit only raises the power. -/
def whole (scaled : Scaled) (digit : Nat) : Scaled :=
  if scaled.takes digit then
    { scaled with significand := scaled.significand * 10 + digit }
  else { scaled with power := scaled.power + 1, full := true }

/-- Adds a digit after the point; one that does not fit is dropped. -/
def fraction (scaled : Scaled) (digit : Nat) : Scaled :=
  if scaled.takes digit then
    { scaled with
      significand := scaled.significand * 10 + digit
      power := scaled.power - 1 }
  else { scaled with full := true }

end Scaled

namespace Parts

def scaledWhole (parts : Parts) : Scaled := parts.whole.foldl Scaled.whole {}

def scaled (parts : Parts) : Scaled :=
  let digits := parts.fraction.foldl Scaled.fraction { parts.scaledWhole with full := false }
  { digits with power := digits.power + parts.exponent }

/-- The meaning of a number; a magnitude outside the finite range is refused. -/
def value (parts : Parts) : Except Refusal Number :=
  let whole := parts.scaledWhole
  if parts.isInteger ∧ !whole.full then
    if !parts.isNegative then .ok (.natural whole.significand)
    else if 0 < whole.significand ∧ whole.significand ≤ Nat.pow 2 63 then
      .ok (.negative whole.significand)
    else .ok .real
  else if Decimal.overflows parts.scaled.significand parts.scaled.power then .error .malformed
  else .ok .real

end Parts

/-- Reads the number at the front of a text where a value of known type is asked for. -/
def read (text : List Symbol) : Except Refusal Number := do
  (← parts text).value

/--
The size of the number at the front of a text where any value will do: its
magnitude is not looked at, and one cut short is malformed.
-/
def size (text : List Symbol) : Except Refusal Nat :=
  match parts text with
  | .ok parts => .ok parts.size
  | .error _ => .error .malformed

end Number

end ExpiringCache.Json
