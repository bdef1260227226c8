/-!
# Finding and splitting

Searching a text for another one, and cutting a text at a separator.
-/

namespace GuestNat.Text

/-- Whether one text occurs in another, as a run of neighbouring characters. -/
def occursInChars (needle : List Char) : List Char → Bool
  | [] => needle.isEmpty
  | c :: cs => needle.isPrefixOf (c :: cs) || occursInChars needle cs

/-- Whether `needle` occurs in `s`. -/
def occursIn (needle s : String) : Bool := occursInChars needle.toList s.toList

/-- An occurrence is an infix. -/
theorem occursInChars_iff {needle s : List Char} :
    occursInChars needle s = true ↔ needle <:+: s := by
  induction s with
  | nil => simp [occursInChars]
  | cons c cs ih => simp [occursInChars, ih, List.infix_cons_iff]

/-- The text before the first separator and the text after it, if there is a separator. -/
def splitOnce (separator : Char) : List Char → Option (List Char × List Char)
  | [] => none
  | c :: cs =>
    if c = separator then some ([], cs)
    else (splitOnce separator cs).map fun (before, after) => (c :: before, after)

/-- Puts a character in front of the first field. -/
def extendField (c : Char) : List (List Char) → List (List Char)
  | [] => [[c]]
  | f :: fs => (c :: f) :: fs

/-- The stretches between separators; `n` separators give `n + 1` fields. -/
def fields (separator : Char) : List Char → List (List Char)
  | [] => [[]]
  | c :: cs =>
    if c = separator then [] :: fields separator cs
    else extendField c (fields separator cs)

end GuestNat.Text
