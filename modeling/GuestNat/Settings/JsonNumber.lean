import GuestNat.Settings.DocumentFault

/-!
# Numbers in a settings document

A number is never a setting, but a message shows the one that was found, so it is read.

- Digits are taken into a 64-bit significand while they fit. Digits of the whole part that no longer
  fit count into the exponent instead, and those behind the point are dropped.
- A whole number that fits its 64-bit type stays an integer. The others, and `-0`, become binary
  numbers: the significand is rounded, then multiplied or divided by a power of ten and rounded
  again, dividing in laps of `10 ^ 308` where the exponent is lower than that.
- A number beyond the greatest binary one is malformed.
-/

namespace GuestNat.JsonNumber

open Decimal (isDigit digitValue Double)

/-- The greatest significand. -/
def maxSignificand : Nat := Nat.pow 2 64 - 1

/-- The greatest magnitude of a negative integer. -/
def maxNegative : Nat := Nat.pow 2 63

/-- The greatest exponent that can be written. -/
def maxExponent : Nat := Nat.pow 2 31 - 1

/-- The greatest power of ten that is a binary number. -/
def maxPower : Nat := 308

/-- Takes digits into a significand while they fit, and counts those that it took. -/
def accumulate (significand : Nat) : List Char → Nat × Nat
  | [] => (significand, 0)
  | d :: ds =>
    let next := significand * 10 + digitValue d
    if next ≤ maxSignificand then
      let (significand, taken) := accumulate next ds
      (significand, taken + 1)
    else (significand, 0)

/-- Divides by a power of ten, in laps. -/
def shrink (x : Double) (rest : Nat) : (laps : Nat) → Option Double
  | 0 => do x.div (← Double.ofNat (Nat.pow 10 rest))
  | laps + 1 =>
    if x.mantissa = 0 then some x
    else do shrink (← x.div (← Double.ofNat (Nat.pow 10 maxPower))) rest laps

/-- The binary number for `significand * 10 ^ exponent`, if it is in range. -/
def scale (significand : Nat) (exponent : Int) : Option Double := do
  let x ← Double.ofNat significand
  if exponent < 0 then
    let laps := (exponent.natAbs - 1) / maxPower
    shrink x (exponent.natAbs - laps * maxPower) laps
  else if significand = 0 then some x
  else if maxPower < exponent.natAbs then none
  else x.mul (← Double.ofNat (Nat.pow 10 exponent.natAbs))

/-- The real number of a sign, a significand and an exponent. -/
def real (isNegative : Bool) (significand : Nat) (exponent : Int) :
    Except DocumentFault WrongValue :=
  match scale significand exponent with
  | some x => .ok (.real isNegative x)
  | none => .error .malformed

/-- A number that ends behind its whole part. -/
def integer (isNegative : Bool) (significand : Nat) : Except DocumentFault WrongValue :=
  if !isNegative then .ok (.natural significand)
  else if 1 ≤ significand ∧ significand ≤ maxNegative then .ok (.negative significand)
  else real true significand 0

/-- The exponent behind an `e`, with its sign; what precedes it gave a significand and an exponent
of its own. -/
def exponentPart (isNegative : Bool) (significand : Nat) (before : Int) (cs : List Char) :
    Except DocumentFault WrongValue :=
  let (sign, cs) : Int × List Char :=
    match cs with
    | '+' :: cs => (1, cs)
    | '-' :: cs => (-1, cs)
    | cs => (1, cs)
  match cs with
  | [] => .error .truncated
  | c :: _ =>
    if !isDigit c then .error .malformed
    else
      let written := Decimal.value (cs.takeWhile isDigit)
      if maxExponent < written then
        if significand = 0 ∨ sign = -1 then .ok (.real isNegative Double.zero)
        else .error .malformed
      else real isNegative significand (before + sign * written)

/-- What may follow the digits: an exponent, or the end of the number. -/
def afterDigits (isNegative : Bool) (significand : Nat) (exponent : Int) :
    List Char → Except DocumentFault WrongValue
  | 'e' :: cs | 'E' :: cs => exponentPart isNegative significand exponent cs
  | _ => real isNegative significand exponent

/-- The digits behind a point. -/
def fractionPart (isNegative : Bool) (significand : Nat) (exponent : Int) (cs : List Char) :
    Except DocumentFault WrongValue :=
  match cs.takeWhile isDigit with
  | [] => .error (if cs.isEmpty then .truncated else .malformed)
  | ds =>
    let (significand, taken) := accumulate significand ds
    afterDigits isNegative significand (exponent - taken) (cs.dropWhile isDigit)

/-- A number without its sign. -/
def magnitude (isNegative : Bool) (cs : List Char) : Except DocumentFault WrongValue :=
  match cs.takeWhile isDigit with
  | [] => .error (if cs.isEmpty then .truncated else .malformed)
  | '0' :: _ :: _ => .error .malformed
  | ds =>
    let (significand, taken) := accumulate 0 ds
    let left := ds.length - taken
    match cs.dropWhile isDigit with
    | '.' :: rest => fractionPart isNegative significand left rest
    | rest@('e' :: _) | rest@('E' :: _) => afterDigits isNegative significand left rest
    | _ => if left = 0 then integer isNegative significand else real isNegative significand left

/-- The number that a text starts with. -/
def parse : List Char → Except DocumentFault WrongValue
  | '-' :: cs => magnitude true cs
  | cs => magnitude false cs

end GuestNat.JsonNumber
