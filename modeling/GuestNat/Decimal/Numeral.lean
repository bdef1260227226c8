/-!
# Decimal numerals

ASCII digits and the number that a row of them stands for.
-/

namespace GuestNat.Decimal

/-- The ten ASCII digits. -/
def isDigit (c : Char) : Bool := '0' ≤ c && c ≤ '9'

/-- The number that an ASCII digit stands for. -/
def digitValue (c : Char) : Nat := c.toNat - '0'.toNat

/-- The number that a row of digits stands for. -/
def value (digits : List Char) : Nat :=
  digits.foldl (fun total c => total * 10 + digitValue c) 0

/-- The digits of a number, without leading zeros. -/
def digits (n : Nat) : List Char := Nat.toDigits 10 n

/-- The digits of a number as a text. -/
def text (n : Nat) : String := .ofList (digits n)

/-! ## Real numbers -/

/-- Whether a text is an exponent with its mark, or nothing. -/
def isExponent : List Char → Bool
  | [] => true
  | e :: cs =>
    let cs := if cs.head? = some '+' ∨ cs.head? = some '-' then cs.tail else cs
    (e = 'e' || e = 'E') && !cs.isEmpty && cs.all isDigit

/-- Whether a text is a real number without a sign: digits before or behind a point or both, then an
exponent; or a word for infinity or for no number, in any case of letters. -/
def isReal (cs : List Char) : Bool :=
  let whole := cs.takeWhile isDigit
  let rest := cs.dropWhile isDigit
  let behind := if rest.head? = some '.' then rest.tail else []
  let fraction := behind.takeWhile isDigit
  let rest := if rest.head? = some '.' then behind.dropWhile isDigit else rest
  (!(whole ++ fraction).isEmpty && isExponent rest) ||
    ["inf", "infinity", "nan"].contains (String.ofList cs).toLower

end GuestNat.Decimal
