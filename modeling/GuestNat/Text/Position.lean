import GuestNat.Decimal.Numeral

/-!
# Positions at the end of a message

A message about a place in a text ends with the place, as in `missing comma at line 3 column 5`.
`withoutPosition` gives the message alone.
-/

namespace GuestNat.Text

/-- Lines and columns are counted in 64 bits. -/
def maxPlace : Nat := Nat.pow 2 64 - 1

/-- What follows a number, in a text that is read from its end. -/
def behindNumber (reversed : List Char) : Option (List Char) :=
  let ds := reversed.takeWhile Decimal.isDigit
  if ds.isEmpty ∨ maxPlace < Decimal.value ds.reverse then none
  else some (reversed.dropWhile Decimal.isDigit)

/-- What follows a word, in a text that is read from its end. -/
def behindWord (word : String) (reversed : List Char) : Option (List Char) :=
  word.toList.reverse.isPrefixOf? reversed

/-- What stands before the position that a text ends with, if it ends with one. -/
def beforePosition (cs : List Char) : Option (List Char) := do
  let rest ← behindNumber cs.reverse
  let rest ← behindWord " column " rest
  let rest ← behindNumber rest
  let rest ← behindWord " at line " rest
  return rest.reverse

/-- A message without the position that it ends with. -/
def withoutPosition (message : String) : String :=
  match beforePosition message.toList with
  | some cs => .ofList cs
  | none => message

end GuestNat.Text
