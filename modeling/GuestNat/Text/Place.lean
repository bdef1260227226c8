/-!
# Places in a text

A place is counted in octets of UTF-8, so not every number is the place of a character: one that
lies inside a character is none, and nothing can be cut there.
-/

namespace GuestNat.Text

/-- The text before a place and the text behind it. -/
def splitAtPlace (place : Nat) : List Char → Option (List Char × List Char)
  | [] => if place = 0 then some ([], []) else none
  | c :: cs =>
    if place = 0 then some ([], c :: cs)
    else if c.utf8Size ≤ place then
      (splitAtPlace (place - c.utf8Size) cs).map fun (before, behind) => (c :: before, behind)
    else none

/-- The text from a place on. -/
def cutFrom (s : List Char) (start : Nat) : Option (List Char) :=
  (splitAtPlace start s).map (·.2)

/-- The text between two places. -/
def cut (s : List Char) (start stop : Nat) : Option (List Char) := do
  let behind ← cutFrom s start
  return (← splitAtPlace (stop - start) behind).1

/-- The first of some characters: its place, itself and the text behind it. The text that is
searched starts at `place`. -/
def findFirst (wanted : List Char) (place : Nat) : List Char → Option (Nat × Char × List Char)
  | [] => none
  | c :: cs => if c ∈ wanted then some (place, c, cs) else findFirst wanted (place + c.utf8Size) cs

end GuestNat.Text
