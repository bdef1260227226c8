/-!
# UTF-8

Reading octets as text, one octet at a time. A stretch of octets that begins a character and cannot
be completed counts as one broken character, and so does an octet that begins none:

- `decode?` refuses a text with a broken character;
- `decodeLossy` puts U+FFFD for each of them.
-/

namespace GuestNat

/-- A sequence of octets, such as the content of a file. -/
abbrev Bytes := List UInt8

namespace Text.Utf8

/-- The octets of a text of ASCII characters. -/
def ofAscii (s : String) : Bytes := s.toList.map fun c => .ofNat c.toNat

/-- Where the reader stands: between characters, or inside one with `owed + 1` octets still to
come, the next of them from `low` to `high`, after the octets that gave `bits`. -/
inductive State
  | between
  | inside (bits owed low high : Nat)
deriving DecidableEq, Repr

/-- What the first octet of a character leads to; `none` is for an octet that begins no
character. -/
def first (b : Nat) : Option (Char ⊕ State) :=
  if b ≤ 0x7F then some (.inl (Char.ofNat b))
  else if 0xC2 ≤ b ∧ b ≤ 0xDF then some (.inr (.inside (b - 0xC0) 0 0x80 0xBF))
  else if b = 0xE0 then some (.inr (.inside 0 1 0xA0 0xBF))
  else if b = 0xED then some (.inr (.inside 0xD 1 0x80 0x9F))
  else if 0xE1 ≤ b ∧ b ≤ 0xEF then some (.inr (.inside (b - 0xE0) 1 0x80 0xBF))
  else if b = 0xF0 then some (.inr (.inside 0 2 0x90 0xBF))
  else if 0xF1 ≤ b ∧ b ≤ 0xF3 then some (.inr (.inside (b - 0xF0) 2 0x80 0xBF))
  else if b = 0xF4 then some (.inr (.inside 4 2 0x80 0x8F))
  else none

/-- The characters that octet `b` completes from `between`, a broken one being `none`, and the
state after it. -/
def begin (b : Nat) : List (Option Char) × State :=
  match first b with
  | none => ([none], .between)
  | some (.inl c) => ([some c], .between)
  | some (.inr state) => ([], state)

/-- One octet from any state. An octet that cannot continue the character begun ends it as broken
and is then read as a first octet. -/
def step : State → Nat → List (Option Char) × State
  | .between, b => begin b
  | .inside bits owed low high, b =>
    if low ≤ b ∧ b ≤ high then
      let bits := bits * 64 + (b - 0x80)
      match owed with
      | 0 => ([some (Char.ofNat bits)], .between)
      | owed + 1 => ([], .inside bits owed 0x80 0xBF)
    else
      let (chars, state) := begin b
      (none :: chars, state)

/-- The characters of a sequence of octets, a broken one being `none`. -/
def characters : State → Bytes → List (Option Char)
  | .between, [] => []
  | .inside .., [] => [none]
  | state, b :: bs =>
    let (chars, state) := step state b.toNat
    chars ++ characters state bs

/-- The text of a sequence of octets that has no broken character. -/
def decode? (bytes : Bytes) : Option String :=
  ((characters .between bytes).mapM id).map String.ofList

/-- The text of a sequence of octets, with U+FFFD for each broken character. -/
def decodeLossy (bytes : Bytes) : String :=
  .ofList ((characters .between bytes).map (·.getD '\uFFFD'))

end Text.Utf8

end GuestNat
