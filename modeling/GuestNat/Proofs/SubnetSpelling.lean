import GuestNat.Proofs.SubnetReading
import Mathlib.Data.List.Induction

/-!
# How subnets are written

The texts that are read as subnets, as a relation between a text and what it says: the address as it
is written, host bits included, and the prefix length.

* `Address.SpelledOctet`, `Address.Spelled`, `Subnet.Spelled`: the ways to write an octet, an
  address and a subnet;
* `Decimal.digits_value`: digits without leading zeros are those of the number that they stand for;
* `Text.intercalate_fields`, `Text.of_splitOnce`, `Text.exists_blanks`: joining undoes cutting, and
  what is trimmed away is blank;
* `Subnet.address?_eq_some_iff`, `Subnet.parse_eq_ok_iff`: the texts that are read, and what each is
  read as.

An address has many spellings, since its octets may have leading zeros; a prefix length has one.
-/

namespace GuestNat

/-- The ways to write an octet: one to three digits for a number below 256. -/
structure Address.SpelledOctet (ds : List Char) (n : Nat) : Prop where
  digits : ∀ c ∈ ds, Decimal.isDigit c = true
  length : 1 ≤ ds.length ∧ ds.length ≤ 3
  value : Decimal.value ds = n
  small : n < 256

/-- The ways to write an address: its octets with points between them. -/
inductive Address.Spelled : List Char → Address → Prop
  | points {a b c d : List Char} {w x y z : Nat} (ha : SpelledOctet a w) (hb : SpelledOctet b x)
      (hc : SpelledOctet c y) (hd : SpelledOctet d z) :
      Spelled (a ++ '.' :: b ++ '.' :: c ++ '.' :: d) (ofOctets w x y z)

/-- The ways to write a subnet: an address, a slash and the digits of the prefix length, with blanks
around them. -/
inductive Subnet.Spelled : String → Address → Fin 33 → Prop
  | slash {s : String} (before after : List Char) {cs : List Char} {address : Address}
      {length : Fin 33} (hbefore : ∀ c ∈ before, Text.isBlank c = true)
      (hafter : ∀ c ∈ after, Text.isBlank c = true)
      (haddress : Address.Spelled cs address)
      (hs : s.toList = before ++ (cs ++ '/' :: Decimal.digits length) ++ after) :
      Spelled s address length

/-! ## Digits -/

namespace Decimal

theorem digitValue_lt {c : Char} (h : isDigit c = true) : digitValue c < 10 := by
  obtain ⟨hlower, hupper⟩ := toNat_of_isDigit h
  have hzero : '0'.toNat = 48 := rfl
  unfold digitValue
  omega

/-- A digit is the one of its value. -/
theorem digits_digitValue {c : Char} (h : isDigit c = true) : digits (digitValue c) = [c] := by
  have hchar : (digitValue c).digitChar = c := by
    obtain ⟨hlower, -⟩ := toNat_of_isDigit h
    have hzero : '0'.toNat = 48 := rfl
    refine Char.toNat_inj.mp ?_
    rw [Nat.toNat_digitChar_of_lt_ten (digitValue_lt h)]
    unfold digitValue
    omega
  unfold digits
  rw [Nat.toDigits_of_lt_base (digitValue_lt h), hchar]

theorem value_concat (ds : List Char) (c : Char) :
    value (ds ++ [c]) = 10 * value ds + digitValue c := by
  unfold value
  rw [List.foldl_append, Nat.mul_comm]
  rfl

/-- Digits without leading zeros are those of the number that they stand for, by induction on the
digits from the last one. -/
theorem digits_value {ds : List Char} (hne : ds ≠ []) (hdigits : ∀ c ∈ ds, isDigit c = true)
    (hhead : ds = ['0'] ∨ ds.head? ≠ some '0') : digits (value ds) = ds := by
  induction ds using List.reverseRecOn with
  | nil => exact absurd rfl hne
  | append_singleton ds c ih =>
      have hc : isDigit c = true := hdigits c (List.mem_append_right ds List.mem_cons_self)
      have hlast := digits_digitValue hc
      rw [value_concat]
      by_cases hds : ds = []
      · -- a single digit may be zero
        subst hds
        simpa [value] using hlast
      · -- the digits before the last one have no leading zero either, so they stand for a number
        -- that is not zero, and writing it leaves none of them out
        have hhead' : ds.head? ≠ some '0' := by
          rcases hhead with hzero | hhead
          · -- two characters are not one
            have hlength := congrArg List.length hzero
            have hpos := List.length_pos_iff.mpr hds
            rw [List.length_append, List.length_singleton, List.length_singleton] at hlength
            omega
          · rwa [List.head?_append_of_ne_nil _ hds] at hhead
        have hfront := ih hds (fun c hc => hdigits c (List.mem_append_left _ hc)) (.inr hhead')
        have hpos : 0 < value ds := by
          refine Nat.pos_of_ne_zero ?_
          intro hzero
          rw [hzero] at hfront
          exact hhead' (hfront ▸ rfl)
        unfold digits at hfront hlast ⊢
        rw [← Nat.toDigits_append_toDigits (by decide) hpos (digitValue_lt hc), hfront, hlast]

end Decimal

/-! ## Joining undoes cutting -/

namespace Text

variable {separator : Char} {cs front rest : List Char}

/-- The fields of a text, with the separator between them, are the text. -/
theorem intercalate_fields (separator : Char) (cs : List Char) :
    [separator].intercalate (fields separator cs) = cs := by
  induction cs with
  | nil => rfl
  | cons c cs ih =>
      have hne : fields separator cs ≠ [] := fields_ne_nil cs
      obtain ⟨first, others, hfields⟩ := List.exists_cons_of_ne_nil hne
      rw [hfields] at ih
      unfold fields
      -- the separator opens an empty field, any other character goes to the first one
      split
      · subst separator
        rw [hfields, List.intercalate_cons_cons, ih]
        rfl
      · rw [hfields, extendField]
        cases others <;> simp_all

/-- A text is what stands before its first separator, the separator, and what stands behind. -/
theorem of_splitOnce (h : splitOnce separator cs = some (front, rest)) :
    cs = front ++ separator :: rest := by
  induction cs generalizing front with
  | nil => cases h
  | cons c cs ih =>
      unfold splitOnce at h
      split at h
      · obtain ⟨rfl, rfl⟩ := Prod.mk.inj (Option.some.inj h)
        subst separator
        rfl
      · obtain ⟨⟨before, after⟩, hsplit, hcut⟩ := Option.map_eq_some_iff.mp h
        obtain ⟨rfl, rfl⟩ := Prod.mk.inj hcut
        rw [ih hsplit]
        rfl

/-- What is trimmed away is blank. -/
theorem exists_blanks (cs : List Char) : ∃ before after : List Char,
    (∀ c ∈ before, isBlank c = true) ∧ (∀ c ∈ after, isBlank c = true) ∧
      cs = before ++ trimChars cs ++ after := by
  let behind := cs.dropWhile isBlank
  refine ⟨cs.takeWhile isBlank, (behind.reverse.takeWhile isBlank).reverse, ?_, ?_, ?_⟩
  · exact fun c hc => List.all_eq_true.mp List.all_takeWhile c hc
  · exact fun c hc => List.all_eq_true.mp List.all_takeWhile c (List.mem_reverse.mp hc)
  · have hend : trimChars cs ++ (behind.reverse.takeWhile isBlank).reverse = behind := by
      unfold trimChars
      rw [← List.reverse_append, List.takeWhile_append_dropWhile, List.reverse_reverse]
    rw [List.append_assoc, hend, List.takeWhile_append_dropWhile]

end Text

/-! ## The characters of a spelling -/

namespace Address

/-- A point is no part of an octet. -/
theorem SpelledOctet.point_not_mem {ds : List Char} {n : Nat} (h : SpelledOctet ds n) :
    '.' ∉ ds := by
  intro hpoint
  cases h.digits '.' hpoint

/-- A spelled address holds digits and points. -/
theorem Spelled.point_or_digit {cs : List Char} {address : Address} (h : Spelled cs address)
    {c : Char} (hc : c ∈ cs) : c = '.' ∨ Decimal.isDigit c = true := by
  obtain @⟨_, _, _, _, _, _, _, _, hw, hx, hy, hz⟩ := h
  simp only [List.mem_append, List.mem_cons] at hc
  rcases hc with ((hc | hpoint | hc) | hpoint | hc) | hpoint | hc
  · exact Or.inr (hw.digits c hc)
  · exact Or.inl hpoint
  · exact Or.inr (hx.digits c hc)
  · exact Or.inl hpoint
  · exact Or.inr (hy.digits c hc)
  · exact Or.inl hpoint
  · exact Or.inr (hz.digits c hc)

theorem Spelled.slash_not_mem {cs : List Char} {address : Address} (h : Spelled cs address) :
    '/' ∉ cs := by
  intro hmem
  rcases h.point_or_digit hmem with hpoint | hdigit
  · cases hpoint
  · cases hdigit

/-- With a prefix length behind it, it holds no blank. -/
theorem Spelled.no_blank {cs : List Char} {address : Address} (h : Spelled cs address)
    (length : Nat) : ∀ c ∈ cs ++ '/' :: Decimal.digits length, Text.isBlank c = false := by
  intro c hc
  rcases List.mem_append.mp hc with hfront | hlength
  · rcases h.point_or_digit hfront with rfl | hdigit
    · rfl
    · exact Decimal.not_blank_of_isDigit hdigit
  · rcases List.mem_cons.mp hlength with rfl | hdigit
    · rfl
    · exact Decimal.not_blank_of_isDigit (Decimal.isDigit_of_mem_digits hdigit)

end Address

/-! ## Reading -/

namespace Subnet

theorem octet?_eq_some_iff {ds : List Char} {n : Nat} :
    octet? ds = some n ↔ Address.SpelledOctet ds n := by
  unfold octet?
  constructor
  · intro h
    split at h
    · next hoctet =>
        obtain ⟨hpos, hlength, hdigits, hsmall⟩ := hoctet
        obtain rfl := Option.some.inj h
        exact ⟨List.all_eq_true.mp hdigits, ⟨hpos, hlength⟩, rfl, hsmall⟩
    · cases h
  · rintro ⟨hdigits, ⟨hpos, hlength⟩, rfl, hsmall⟩
    exact if_pos ⟨hpos, hlength, List.all_eq_true.mpr hdigits, hsmall⟩

instance (ds : List Char) (n : Nat) : Decidable (Address.SpelledOctet ds n) :=
  decidable_of_iff (octet? ds = some n) octet?_eq_some_iff

/-- Four fields with points between them. -/
theorem intercalate_four (a b c d : List Char) :
    ['.'].intercalate [a, b, c, d] = a ++ '.' :: b ++ '.' :: c ++ '.' :: d := by
  simp

/-- An address is read from its spellings and from nothing else. -/
theorem address?_eq_some_iff {cs : List Char} {address : Address} :
    address? cs = some address ↔ Address.Spelled cs address := by
  unfold address?
  constructor
  · intro h
    split at h
    · next a b c d hfields =>
        have hcs := Text.intercalate_fields '.' cs
        rw [hfields, intercalate_four] at hcs
        -- all four fields are octets, or nothing is read
        simp only [Option.bind_eq_bind, Option.bind_eq_some_iff, octet?_eq_some_iff] at h
        obtain ⟨w, ha, x, hb, y, hc, z, hd, haddress⟩ := h
        obtain rfl := Option.some.inj haddress
        rw [← hcs]
        exact .points ha hb hc hd
    · cases h
  · rintro (@⟨a, b, c, d, w, x, y, z, ha, hb, hc, hd⟩)
    -- octets hold no point, so cutting finds the four of them
    have hfields : Text.fields '.' (a ++ '.' :: b ++ '.' :: c ++ '.' :: d) = [a, b, c, d] := by
      rw [← intercalate_four]
      refine Text.fields_intercalate a [b, c, d] ?_
      simp [ha.point_not_mem, hb.point_not_mem, hc.point_not_mem, hd.point_not_mem]
    rw [hfields]
    simp [octet?_eq_some_iff.mpr ha, octet?_eq_some_iff.mpr hb, octet?_eq_some_iff.mpr hc,
      octet?_eq_some_iff.mpr hd]

/-- The digits of a prefix length are those of its number. -/
theorem digits_of_canonical {ds : List Char} (h : isCanonicalLength ds = true) :
    Decimal.digits (Decimal.value ds) = ds := by
  unfold isCanonicalLength at h
  simp only [Bool.and_eq_true, Bool.or_eq_true, Bool.not_eq_true', List.isEmpty_eq_false_iff,
    List.all_eq_true, beq_iff_eq, bne_iff_ne] at h
  exact Decimal.digits_value h.1.1 h.1.2 h.2

/-- A text without blanks around it is read if it spells a subnet. -/
theorem parseTrimmed_eq_ok_iff {s : String} {subnet : Subnet} :
    parseTrimmed s = .ok subnet ↔ ∃ cs address, ∃ length : Fin 33,
      s.toList = cs ++ '/' :: Decimal.digits length ∧ Address.Spelled cs address ∧
        subnet = masked ⟨address, length⟩ := by
  unfold parseTrimmed
  constructor
  · intro h
    split at h
    · cases h
    · next front ds hsplit =>
        split at h
        · next hcanonical =>
            split at h
            · cases h
            · next address haddress =>
                split at h
                · next hlt =>
                    refine ⟨front, address, ⟨Decimal.value ds, hlt⟩, ?_,
                      address?_eq_some_iff.mp haddress, (Except.ok.inj h).symm⟩
                    rw [Text.of_splitOnce hsplit, digits_of_canonical hcanonical]
                · cases h
        · cases h
  · rintro ⟨cs, address, length, hs, haddress, rfl⟩
    rw [hs, Text.splitOnce_append haddress.slash_not_mem]
    simp only [isCanonicalLength_digits length.isLt, address?_eq_some_iff.mpr haddress,
      Decimal.value_digits, if_true, length.isLt, dif_pos]

/-- A text is read as a subnet exactly if it spells one, and then as that one without its host
bits. -/
theorem parse_eq_ok_iff {s : String} {subnet : Subnet} :
    parse s = .ok subnet ↔ ∃ address length, Spelled s address length ∧
      subnet = masked ⟨address, length⟩ := by
  unfold parse
  rw [parseTrimmed_eq_ok_iff]
  constructor
  · rintro ⟨cs, address, length, hs, haddress, hsubnet⟩
    -- what trimming takes away are the blanks around the spelling
    obtain ⟨before, after, hbefore, hafter, htext⟩ := Text.exists_blanks s.toList
    have htrimmed : Text.trimChars s.toList = cs ++ '/' :: Decimal.digits length := by
      simpa [Text.trim] using hs
    rw [htrimmed] at htext
    exact ⟨address, length, .slash before after hbefore hafter haddress htext, hsubnet⟩
  · rintro ⟨address, length, hspelled, hsubnet⟩
    cases hspelled with
    | slash before after hbefore hafter haddress hs =>
        refine ⟨_, address, length, ?_, haddress, hsubnet⟩
        have hne : ∀ cs ds : List Char, cs ++ '/' :: ds ≠ [] := by simp
        unfold Text.trim
        rw [String.toList_ofList, hs, List.append_assoc,
          Text.trimChars_append hbefore hafter (hne _ _) (haddress.no_blank length)]

end Subnet

end GuestNat
