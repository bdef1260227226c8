import GuestNat.Settings.DocumentFault

/-!
# Strings in a settings document

The text behind an opening quotation mark, up to the closing one, read one character at a time.

- Control characters have to be escaped.
- `\u` is followed by four hexadecimal digits. They are looked at together, as soon as four octets
  have been seen.
- Two escaped surrogates, the leading one first, stand for one character. A surrogate alone stands
  for none.
-/

namespace GuestNat.JsonString

/-- Where the reader stands inside a string. -/
inductive State
  /-- Between characters. -/
  | plain
  /-- Behind a backslash. -/
  | escape
  /-- Among the digits behind `\u`, after those in `seen`; `leading` is the leading surrogate
  that the escape has to complete. -/
  | unit (leading : Option Nat) (seen : List Char)
  /-- Behind a leading surrogate, which has to be completed. -/
  | halfway (leading : Nat)
  /-- Behind a leading surrogate and a backslash. -/
  | halfwayEscape (leading : Nat)
deriving DecidableEq, Repr

/-- The value of a hexadecimal digit. -/
def hexDigit? (c : Char) : Option Nat :=
  if '0' ≤ c ∧ c ≤ '9' then some (c.toNat - '0'.toNat)
  else if 'a' ≤ c ∧ c ≤ 'f' then some (c.toNat - 'a'.toNat + 10)
  else if 'A' ≤ c ∧ c ≤ 'F' then some (c.toNat - 'A'.toNat + 10)
  else none

/-- The value of four hexadecimal digits. -/
def hexUnit? : List Char → Option Nat
  | [a, b, c, d] => do
    return ((← hexDigit? a) * 16 + (← hexDigit? b)) * 256 + (← hexDigit? c) * 16 + (← hexDigit? d)
  | _ => none

def isLeading (unit : Nat) : Bool := 0xD800 ≤ unit && unit ≤ 0xDBFF

def isTrailing (unit : Nat) : Bool := 0xDC00 ≤ unit && unit ≤ 0xDFFF

/-- The character of two surrogates. -/
def pair (leading trailing : Nat) : Char :=
  .ofNat (0x10000 + (leading - 0xD800) * 0x400 + (trailing - 0xDC00))

/-- The character that one letter behind a backslash stands for. -/
def escaped? : Char → Option Char
  | '"' => some '"'
  | '\\' => some '\\'
  | '/' => some '/'
  | 'b' => some '\x08'
  | 'f' => some '\x0C'
  | 'n' => some '\n'
  | 'r' => some '\r'
  | 't' => some '\t'
  | _ => none

/-- The size of characters in octets. -/
def size (cs : List Char) : Nat := (String.ofList cs).utf8ByteSize

/-- What a completed escape gives: a character or a surrogate that waits for its other half. -/
def completeUnit (leading : Option Nat) (unit : Nat) : Option (List Char × State) :=
  match leading with
  | some high => if isTrailing unit then some ([pair high unit], .plain) else none
  | none =>
    if isTrailing unit then none
    else if isLeading unit then some ([], .halfway unit)
    else some ([.ofNat unit], .plain)

/-- One character of a string: the characters that it completes and the state behind it. A closing
quotation mark is not for this function; `none` is for a character that cannot stand there. -/
def step : State → Char → Option (List Char × State)
  | .plain, c =>
    if c = '\\' then some ([], .escape)
    else if c.toNat < 0x20 then none
    else some ([c], .plain)
  | .escape, c =>
    if c = 'u' then some ([], .unit none []) else (escaped? c).map fun c => ([c], .plain)
  | .unit leading seen, c =>
    let seen := seen ++ [c]
    if size seen < 4 then some ([], .unit leading seen)
    else (hexUnit? seen).bind (completeUnit leading)
  | .halfway leading, c => if c = '\\' then some ([], .halfwayEscape leading) else none
  | .halfwayEscape leading, c => if c = 'u' then some ([], .unit (some leading) []) else none

/-- The characters up to the closing quotation mark, and what follows it. -/
def body : State → List Char → Except DocumentFault (List Char × List Char)
  | _, [] => .error .truncated
  | state, c :: cs =>
    if state = .plain ∧ c = '"' then .ok ([], cs)
    else
      match step state c with
      | none => .error .malformed
      | some (out, state) => (body state cs).map fun (chars, rest) => (out ++ chars, rest)

end GuestNat.JsonString
