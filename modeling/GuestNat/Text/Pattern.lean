import GuestNat.Decimal.Numeral

/-!
# Patterns

Which texts are regular expressions: repetitions `*`, `+` and `?`, alternatives, groups, classes
between brackets and escapes. Nothing is matched here.

No escape needs a table of characters, so there is none for digits, blanks, words or their ends. A
count between braces is never complete, since a closing brace ends the pattern itself. Left out:
groups with a name or with flags.
-/

namespace GuestNat.Text.Pattern

/-! ## Escapes -/

/-- The number that a hexadecimal digit stands for. -/
def hexValue? (c : Char) : Option Nat :=
  if Decimal.isDigit c then some (Decimal.digitValue c)
  else if 'a' ≤ c ∧ c ≤ 'f' then some (c.toNat - 'a'.toNat + 10)
  else if 'A' ≤ c ∧ c ≤ 'F' then some (c.toNat - 'A'.toNat + 10)
  else none

/-- The character of a code point. -/
def charOf? (n : Nat) : Option Char := if h : n.isValidChar then some (.ofNatAux n h) else none

/-- The character that a number of hexadecimal digits names, and the text behind them. -/
def hexEscape? (count : Nat) (cs : List Char) : Option (Char × List Char) := do
  let digits ← (cs.take count).mapM hexValue?
  if digits.length < count then none
  else return (← charOf? (digits.foldl (fun total d => total * 16 + d) 0), cs.drop count)

/-- What an escape stands for. -/
inductive Escape
  | character (c : Char)
  /-- An end of the text. -/
  | anchor

/-- Whether a backslash makes a character stand for itself. -/
def isEscapable (c : Char) : Bool :=
  c.toNat < 0x80 && !c.isAlphanum && c != '<' && c != '>'

/-- Reads what follows a backslash. -/
def escape? : List Char → Option (Escape × List Char)
  | [] => none
  | c :: cs =>
    let character (n : Nat) : Option (Escape × List Char) := some (.character (.ofNat n), cs)
    let named (count : Nat) : Option (Escape × List Char) :=
      (hexEscape? count cs).map fun (c, cs) => (.character c, cs)
    match c with
    | 'a' => character 0x07
    | 'f' => character 0x0C
    | 't' => character 0x09
    | 'n' => character 0x0A
    | 'r' => character 0x0D
    | 'v' => character 0x0B
    | 'A' | 'z' => some (.anchor, cs)
    | 'x' => named 2
    | 'u' => named 4
    | 'U' => named 8
    | c => if isEscapable c then some (.character c, cs) else none

/-! ## Classes -/

/-- The names of classes between `[:` and `:]`. -/
def classNames : List String :=
  ["alnum", "alpha", "ascii", "blank", "cntrl", "digit", "graph", "lower", "print", "punct",
    "space", "upper", "word", "xdigit"]

/-- Reads a named class behind its opening bracket. -/
def namedClass? : List Char → Option (List Char)
  | ':' :: cs =>
    let cs := if cs.head? = some '^' then cs.tail else cs
    match cs.dropWhile (· ≠ ':') with
    | ':' :: ']' :: rest =>
      if classNames.contains (.ofList (cs.takeWhile (· ≠ ':'))) then some rest else none
    | _ => none
  | _ => none

/-- Skips what has a meaning of its own right behind the opening bracket of a class: a circumflex,
then dashes or, where there is none, a closing bracket. -/
def openClass (cs : List Char) : List Char :=
  let cs := if cs.head? = some '^' then cs.tail else cs
  match cs with
  | '-' :: cs => cs.dropWhile (· = '-')
  | ']' :: cs => cs
  | cs => cs

/-- Reads one character of a class. -/
def classChar? : List Char → Option (Char × List Char)
  | [] => none
  | '\\' :: cs =>
    match escape? cs with
    | some (.character c, cs) => some (c, cs)
    | _ => none
  | c :: cs => some (c, cs)

/-- Reads a character of a class, or a range whose ends are in order. -/
def classItem? (cs : List Char) : Option (List Char) := do
  let (low, cs) ← classChar? cs
  match cs with
  | '-' :: ']' :: _ | '-' :: '-' :: _ => return cs
  | '-' :: rest =>
    let (high, rest) ← classChar? rest
    if low ≤ high then return rest else none
  | _ => return cs

/-- Reads a class to the bracket that closes it. `depth` counts the classes around the current one;
`fuel` bounds the number of parts. -/
def readClass : (fuel depth : Nat) → List Char → Option (List Char)
  | 0, _, _ => none
  | fuel + 1, depth, cs =>
    match cs with
    | [] => none
    | '[' :: cs =>
      match namedClass? cs with
      | some rest => readClass fuel depth rest
      | none => readClass fuel (depth + 1) (openClass cs)
    | ']' :: cs => if depth = 0 then some cs else readClass fuel (depth - 1) cs
    | '&' :: '&' :: cs | '-' :: '-' :: cs | '~' :: '~' :: cs => readClass fuel depth cs
    | cs => do readClass fuel depth (← classItem? cs)

/-- The text behind a class, without its opening bracket. -/
def class? (cs : List Char) : Option (List Char) := readClass (cs.length + 1) 0 (openClass cs)

/-! ## Patterns -/

/-- Reads a pattern to its end. `depth` counts the open groups, `repeatable` says whether something
stands before that a repetition can be about, and `fuel` bounds the number of parts. -/
def read : (fuel depth : Nat) → (repeatable : Bool) → List Char → Bool
  | 0, _, _, _ => false
  | fuel + 1, depth, repeatable, cs =>
    match cs with
    | [] => depth = 0
    | '(' :: '?' :: ':' :: cs => read fuel (depth + 1) false cs
    | '(' :: '?' :: _ => false
    | '(' :: cs => read fuel (depth + 1) false cs
    | ')' :: cs => depth ≠ 0 && read fuel (depth - 1) true cs
    | '|' :: cs => read fuel depth false cs
    | '{' :: _ => false
    | '[' :: cs => (class? cs).any (read fuel depth true)
    | '\\' :: cs => (escape? cs).any fun (_, cs) => read fuel depth true cs
    | c :: cs =>
      if c = '*' ∨ c = '+' ∨ c = '?' then
        repeatable && read fuel depth true (if cs.head? = some '?' then cs.tail else cs)
      else read fuel depth true cs

end Pattern

/-- Whether a text is a pattern. -/
def isPattern (cs : List Char) : Bool := Pattern.read (cs.length + 1) 0 false cs

end GuestNat.Text
