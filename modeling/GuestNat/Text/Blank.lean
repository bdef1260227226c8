/-!
# Blank characters, trimming and words

Which characters count as blank is the Unicode property `White_Space`. Two readings of a text rest
on it:

- `trim` drops the blanks at both ends;
- `words` splits at runs of blanks, so no word is empty and none holds a blank.
-/

namespace GuestNat.Text

/-- The characters with the property `White_Space`. -/
def isBlank (c : Char) : Bool :=
  let n := c.toNat
  (0x09 ≤ n && n ≤ 0x0D) || n == 0x20 || n == 0x85 || n == 0xA0 || n == 0x1680 ||
    (0x2000 ≤ n && n ≤ 0x200A) || n == 0x2028 || n == 0x2029 || n == 0x202F || n == 0x205F ||
    n == 0x3000

/-! ## Trimming -/

/-- A text without the blanks it starts and ends with. -/
def trimChars (s : List Char) : List Char :=
  ((s.dropWhile isBlank).reverse.dropWhile isBlank).reverse

/-- A text without the blanks it starts and ends with. -/
def trim (s : String) : String := .ofList (trimChars s.toList)

/-! ## Words -/

/-- Whether a text starts inside a word. -/
def startsWord : List Char → Bool
  | [] => false
  | c :: _ => !isBlank c

/-- Puts a character in front of the first word. -/
def extendFirst (c : Char) : List (List Char) → List (List Char)
  | [] => [[c]]
  | w :: ws => (c :: w) :: ws

/-- The longest runs without blanks, from left to right. -/
def wordChars : List Char → List (List Char)
  | [] => []
  | c :: cs =>
    if isBlank c then wordChars cs
    else if startsWord cs then extendFirst c (wordChars cs)
    else [c] :: wordChars cs

/-- The longest runs without blanks, from left to right. -/
def words (s : String) : List String := (wordChars s.toList).map String.ofList

/-- Words with one space between neighbours. -/
def joinWords (ws : List String) : String := " ".intercalate ws

end GuestNat.Text
