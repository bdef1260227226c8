import GuestNat.Decimal.Numeral

/-!
# JSON as it is written

The grammar of JSON, as a relation between a value and the texts that it is written as.

* `Json`: the values;
* `Json.Spelled`: the ways to write the characters of a string. A character stands for itself or is
  escaped, one beyond U+FFFF by its two surrogates; a surrogate alone is the escape of none;
* `Json.Number`: the numerals;
* `Json.Written`, `Json.Element`, `Json.Member`: the ways to write a value, a value with blanks
  around it, and a member of an object;
* `Json.Reordered`: values that differ in the order of their members.

The relation says nothing about what reads a text, and a value has many texts.
-/

namespace GuestNat

/-- The values. Members are listed in the order in which they are written, and names may be
repeated. -/
inductive Json
  | null
  | boolean (value : Bool)
  | number (numeral : List Char)
  | string (text : String)
  | array (elements : List Json)
  | object (members : List (String × Json))

namespace Json

/-- The characters that may stand between the parts of a document, any number of them. -/
def Blank (cs : List Char) : Prop := ∀ c ∈ cs, c ∈ [' ', '\t', '\n', '\r']

instance (cs : List Char) : Decidable (Blank cs) :=
  List.decidableBAll (· ∈ [' ', '\t', '\n', '\r']) cs

/-! ## Strings -/

/-- A hexadecimal digit, small or capital, and its value. -/
def HexDigit (c : Char) (n : Nat) : Prop :=
  n < 16 ∧ (c = n.digitChar ∨ c = n.digitChar.toUpper)

instance (c : Char) (n : Nat) : Decidable (HexDigit c n) :=
  inferInstanceAs (Decidable (n < 16 ∧ (c = n.digitChar ∨ c = n.digitChar.toUpper)))

/-- Four hexadecimal digits and their value. -/
inductive HexUnit : List Char → Nat → Prop
  | four {a b c d : Char} {w x y z : Nat} (ha : HexDigit a w) (hb : HexDigit b x)
      (hc : HexDigit c y) (hd : HexDigit d z) :
      HexUnit [a, b, c, d] (((w * 16 + x) * 16 + y) * 16 + z)

/-- The letters behind a backslash and the characters that they stand for. -/
def escapes : List (Char × Char) :=
  [('"', '"'), ('\\', '\\'), ('/', '/'), ('b', '\x08'), ('f', '\x0C'), ('n', '\n'), ('r', '\r'),
    ('t', '\t')]

/-- The first of the two surrogates of a character. -/
def leadingSurrogate (c : Char) : Nat := 0xD800 + (c.toNat - 0x10000) / 0x400

/-- The second of the two surrogates of a character. -/
def trailingSurrogate (c : Char) : Nat := 0xDC00 + (c.toNat - 0x10000) % 0x400

/-- Characters of a string and a way to write them between the quotation marks. -/
inductive Spelled : List Char → List Char → Prop
  | nil : Spelled [] []
  | plain {c : Char} {cs written : List Char} (hquote : c ≠ '"') (hbackslash : c ≠ '\\')
      (hcontrol : 0x20 ≤ c.toNat) (hrest : Spelled cs written) : Spelled (c :: cs) (c :: written)
  | letter {l c : Char} {cs written : List Char} (hescape : (l, c) ∈ escapes)
      (hrest : Spelled cs written) : Spelled (c :: cs) ('\\' :: l :: written)
  | unit {c : Char} {cs ds written : List Char} (hunit : HexUnit ds c.toNat)
      (hrest : Spelled cs written) : Spelled (c :: cs) ('\\' :: 'u' :: ds ++ written)
  | surrogates {c : Char} {cs high low written : List Char} (hbeyond : 0x10000 ≤ c.toNat)
      (hhigh : HexUnit high (leadingSurrogate c)) (hlow : HexUnit low (trailingSurrogate c))
      (hrest : Spelled cs written) :
      Spelled (c :: cs) ('\\' :: 'u' :: high ++ '\\' :: 'u' :: low ++ written)

/-- Characters that need no escape can be written as they are. -/
theorem spelled_self {cs : List Char}
    (h : cs.all fun c => c ≠ '"' ∧ c ≠ '\\' ∧ 0x20 ≤ c.toNat) : Spelled cs cs := by
  induction cs with
  | nil => exact .nil
  | cons c cs ih =>
      rw [List.all_cons, Bool.and_eq_true, decide_eq_true_eq] at h
      obtain ⟨⟨hquote, hbackslash, hcontrol⟩, hrest⟩ := h
      exact .plain hquote hbackslash hcontrol (ih hrest)

/-! ## Numbers -/

/-- One or more decimal digits. -/
def Digits (ds : List Char) : Prop := ds ≠ [] ∧ ∀ d ∈ ds, Decimal.isDigit d

/-- A numeral: the whole part has no leading zero, the other parts may be missing. -/
inductive Number : List Char → Prop
  | parts {sign whole fraction exponent : List Char} (hsign : sign ∈ [[], ['-']])
      (hwhole : Digits whole) (hzero : whole.head? = some '0' → whole = ['0'])
      (hfraction : fraction = [] ∨ ∃ ds, fraction = '.' :: ds ∧ Digits ds)
      (hexponent : exponent = [] ∨ ∃ e ∈ ['e', 'E'], ∃ sign ∈ [[], ['+'], ['-']], ∃ ds,
        exponent = e :: sign ++ ds ∧ Digits ds) :
      Number (sign ++ whole ++ fraction ++ exponent)

/-! ## Values -/

/-- One or more items with commas between them. -/
inductive Separated {α : Type} (Item : α → List Char → Prop) : List α → List Char → Prop
  | one {item : α} {written : List Char} (hitem : Item item written) :
      Separated Item [item] written
  | more {item : α} {items : List α} {written rest : List Char} (hitem : Item item written)
      (hrest : Separated Item items rest) : Separated Item (item :: items) (written ++ ',' :: rest)

mutual

/-- A value and a way to write it. -/
inductive Written : Json → List Char → Prop
  | null : Written .null "null".toList
  | false : Written (.boolean false) "false".toList
  | true : Written (.boolean true) "true".toList
  | number {numeral : List Char} (h : Number numeral) : Written (.number numeral) numeral
  | string {text : String} {written : List Char} (h : Spelled text.toList written) :
      Written (.string text) ('"' :: written ++ ['"'])
  | emptyArray {blank : List Char} (h : Blank blank) : Written (.array []) ('[' :: blank ++ [']'])
  | array {elements : List Json} {written : List Char} (h : Separated Element elements written) :
      Written (.array elements) ('[' :: written ++ [']'])
  | emptyObject {blank : List Char} (h : Blank blank) :
      Written (.object []) ('{' :: blank ++ ['}'])
  | object {members : List (String × Json)} {written : List Char}
      (h : Separated Member members written) : Written (.object members) ('{' :: written ++ ['}'])

/-- A value and a way to write it with blanks around it. -/
inductive Element : Json → List Char → Prop
  | blanks {value : Json} {before written after : List Char} (hbefore : Blank before)
      (hvalue : Written value written) (hafter : Blank after) :
      Element value (before ++ written ++ after)

/-- A member of an object and a way to write it, with blanks around both its parts. -/
inductive Member : String × Json → List Char → Prop
  | named {name : String} {value : Json} {before written between rest : List Char}
      (hbefore : Blank before) (hname : Spelled name.toList written) (hbetween : Blank between)
      (hvalue : Element value rest) :
      Member (name, value) (before ++ '"' :: written ++ '"' :: between ++ ':' :: rest)

end

/-- A text is a document of a value. -/
def Document (value : Json) (text : String) : Prop := Element value text.toList

theorem Element.document {value : Json} {written : List Char} {text : String}
    (h : Element value written) (htext : written = text.toList) : Document value text := by
  unfold Document
  rw [← htext]
  exact h

/-- The same value, the members of an object in any order. -/
inductive Reordered : Json → Json → Prop
  | same (value : Json) : Reordered value value
  | members {first second : List (String × Json)} (h : first.Perm second) :
      Reordered (.object first) (.object second)

end Json

end GuestNat
