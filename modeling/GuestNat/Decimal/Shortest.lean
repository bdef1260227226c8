import GuestNat.Decimal.Numeral
import GuestNat.Decimal.Double

/-!
# Shortest decimal text of a binary number

A binary number is written with the fewest digits that round back to it; among those the nearest
to it is taken, and of two equally near ones the even one.

The search looks at decimal grids of one digit, two digits and so on. On each grid only the two
neighbours of the number can be nearest, so if the grid has a point that rounds back, one of these
two does.
-/

namespace GuestNat.Decimal

/-- The decimal number `digits * 10 ^ exponent`. -/
structure Scaled where
  digits : Nat
  exponent : Int
deriving DecidableEq, Repr

/-- The numbers that round to a given one, over a common denominator: `low / den` to `high / den`
around `num / den`, both ends included or both left out. -/
structure Interval where
  low : Nat
  num : Nat
  high : Nat
  den : Nat
  closed : Bool

/-- The numbers that round to `x`. Below a power of two the gap is half as wide. -/
def Double.interval (x : Double) : Interval :=
  let scale := Nat.pow 2 x.exponent.toNat
  let below := if x.mantissa = Nat.pow 2 52 ∧ Double.minExponent < x.exponent then 1 else 2
  { low := (4 * x.mantissa - below) * scale
    num := 4 * x.mantissa * scale
    high := (4 * x.mantissa + 2) * scale
    den := 4 * Nat.pow 2 (-x.exponent).toNat
    closed := x.mantissa % 2 == 0 }

/-- Whether `digits * 10 ^ exponent` lies in the interval. -/
def Interval.holds (i : Interval) (d : Scaled) : Bool :=
  let n := d.digits * Nat.pow 10 d.exponent.toNat * i.den
  let unit := Nat.pow 10 (-d.exponent).toNat
  let low := i.low * unit
  let high := i.high * unit
  if i.closed then low ≤ n && n ≤ high else low < n && n < high

/-- The greatest `e` with `10 ^ e ≤ num / den`, for positive numbers. -/
def decimalLog (num den : Nat) : Int :=
  let guess : Int := ((digits num).length : Int) - (digits den).length
  if den * Nat.pow 10 guess.toNat ≤ num * Nat.pow 10 (-guess).toNat then guess else guess - 1

/-- The point of the grid of `10 ^ exponent` that stands for the interval, if one lies in it. -/
def Interval.gridPoint (i : Interval) (exponent : Int) : Option Scaled :=
  let n := i.num * Nat.pow 10 (-exponent).toNat
  let d := i.den * Nat.pow 10 exponent.toNat
  let below : Scaled := ⟨n / d, exponent⟩
  let above : Scaled := ⟨n / d + 1, exponent⟩
  match i.holds below, i.holds above with
  | true, true =>
    some (if 2 * (n % d) < d then below
      else if d < 2 * (n % d) then above
      else if below.digits % 2 = 0 then below else above)
  | true, false => some below
  | false, true => some above
  | false, false => none

/-- The first grid point from the grid of `10 ^ exponent` on, each grid ten times finer than the one
before; after `tries` grids the point below the number on the next one. -/
def Interval.search (i : Interval) (exponent : Int) : (tries : Nat) → Scaled
  | 0 => ⟨i.num * Nat.pow 10 (-exponent).toNat / (i.den * Nat.pow 10 exponent.toNat), exponent⟩
  | tries + 1 =>
    match i.gridPoint exponent with
    | some d => d
    | none => i.search (exponent - 1) tries

/-- The shortest decimal number that rounds to a positive binary one. Seventeen digits always
suffice. -/
def Double.shortest (x : Double) : Scaled :=
  let i := x.interval
  i.search (decimalLog i.num i.den) 17

/-! ## Layout -/

/-- Which powers of ten are written positionally: those of the leading digit from `least` to
`greatest`. -/
structure Layout where
  least : Int
  greatest : Int

/-- The digits without the zeros at the end. -/
def dropTrailingZeros (ds : List Char) : List Char :=
  (ds.reverse.dropWhile (· == '0')).reverse

/-- A magnitude as text: positional with at least one digit behind the point, or with one digit
before the point and an exponent that shows its sign. -/
def Layout.magnitude (layout : Layout) (x : Double) : String :=
  if x.mantissa = 0 then "0.0"
  else
    let d := x.shortest
    let all := digits d.digits
    let top : Int := d.exponent + all.length - 1
    let ds := dropTrailingZeros all
    if layout.least ≤ top ∧ top ≤ layout.greatest then
      if top < 0 then
        .ofList ("0.".toList ++ List.replicate (-top - 1).toNat '0' ++ ds)
      else
        let whole := ds.take (top.toNat + 1)
        let part := ds.drop (top.toNat + 1)
        .ofList (whole ++ List.replicate (top.toNat + 1 - whole.length) '0' ++ ['.'] ++
          if part.isEmpty then ['0'] else part)
    else
      let tail := ds.drop 1
      .ofList (ds.take 1 ++ (if tail.isEmpty then [] else '.' :: tail) ++ ['e'] ++
        (if top < 0 then ['-'] else ['+']) ++ digits top.natAbs)

/-- A number as text; zero keeps its sign. -/
def Layout.number (layout : Layout) (negative : Bool) (x : Double) : String :=
  (if negative then "-" else "") ++ layout.magnitude x

end GuestNat.Decimal
