import GuestNat.Network.Subnet

/-!
# Subnets read back

The text of a subnet says which subnet it is: reading it gives the subnet back, so different subnets
are written differently.

* `Decimal.value_digits`: the digits of a number stand for it;
* `Text.fields_append`, `Text.fields_intercalate`, `Text.splitOnce_append`: cutting undoes joining;
* `Address.address?_text`: the text of an address is read back;
* `Subnet.text_injective`: different subnets have different texts.
-/

namespace GuestNat

namespace Decimal

theorem value_eq_of_digit_chars (ds : List Char) : value ds = Nat.ofDigitChars 10 ds 0 := by
  unfold value Nat.ofDigitChars digitValue
  congr
  funext total c
  rw [Nat.mul_comm]

/-- The digits of a number stand for it. -/
theorem value_digits (n : Nat) : value (digits n) = n := by
  rw [value_eq_of_digit_chars]
  exact Nat.ofDigitChars_toDigits (by decide) (by decide)

theorem toNat_of_isDigit {c : Char} (h : isDigit c = true) : 48 ≤ c.toNat ∧ c.toNat ≤ 57 := by
  simpa [isDigit, Char.le_def, UInt32.le_iff_toNat_le] using h

theorem isDigit_of_mem_digits {n : Nat} {c : Char} (h : c ∈ digits n) : isDigit c = true := by
  have hdigit : c.isDigit = true := Nat.isDigit_of_mem_toDigits (by decide) (by decide) h
  simpa [isDigit, Char.isDigit, Char.le_def] using hdigit

theorem digits_injective {m n : Nat} (h : digits m = digits n) : m = n := by
  rw [← value_digits m, h, value_digits]

end Decimal

/-! ## Cutting -/

namespace Text

variable {separator : Char} {field rest : List Char}

/-- A text is cut at its first separator. -/
theorem splitOnce_append (h : separator ∉ field) :
    splitOnce separator (field ++ separator :: rest) = some (field, rest) := by
  induction field with
  | nil => simp [splitOnce]
  | cons c field ih =>
      have hne : c ≠ separator := fun heq => h (heq ▸ List.mem_cons_self)
      have hrest : separator ∉ field := fun hmem => h (List.mem_cons_of_mem c hmem)
      simp [splitOnce, hne, ih hrest]

theorem fields_ne_nil (text : List Char) : fields separator text ≠ [] := by
  cases text with
  | nil => exact List.cons_ne_nil _ _
  | cons c text =>
      unfold fields
      split
      · exact List.cons_ne_nil _ _
      · cases fields separator text <;> exact List.cons_ne_nil _ _

theorem fields_of_not_mem (h : separator ∉ field) : fields separator field = [field] := by
  induction field with
  | nil => rfl
  | cons c field ih =>
      have hne : c ≠ separator := fun heq => h (heq ▸ List.mem_cons_self)
      have hrest : separator ∉ field := fun hmem => h (List.mem_cons_of_mem c hmem)
      simp [fields, hne, ih hrest, extendField]

/-- A separator ends the fields in front of it, by induction on the text in front. -/
theorem fields_append (front : List Char) :
    fields separator (front ++ separator :: rest) =
      fields separator front ++ fields separator rest := by
  induction front with
  | nil => simp [fields]
  | cons c front ih =>
      by_cases heq : c = separator
      · simp [fields, heq, ih]
      · -- there is a field to extend
        have hne : fields separator front ≠ [] := fields_ne_nil front
        obtain ⟨first, others, hfront⟩ := List.exists_cons_of_ne_nil hne
        simp [fields, heq, ih, hfront, extendField]

/-- What stands in a joined text stands in a field or in what joins them. -/
theorem mem_intercalate {joint : List Char} {fields : List (List Char)} {c : Char}
    (h : c ∈ joint.intercalate fields) : c ∈ joint ∨ ∃ field ∈ fields, c ∈ field := by
  induction fields with
  | nil => exact absurd h List.not_mem_nil
  | cons first others ih =>
      -- the joint stands between two fields only
      cases others with
      | nil =>
          rw [List.intercalate_singleton] at h
          exact Or.inr ⟨first, List.mem_cons_self, h⟩
      | cons second others =>
          rw [List.intercalate_cons_cons] at h
          rcases List.mem_append.mp h with hfirst | hothers
          · rcases List.mem_append.mp hfirst with hfirst | hjoint
            · exact Or.inr ⟨first, List.mem_cons_self, hfirst⟩
            · exact Or.inl hjoint
          · rcases ih hothers with hjoint | ⟨field, hfield, hc⟩
            · exact Or.inl hjoint
            · exact Or.inr ⟨field, List.mem_cons_of_mem first hfield, hc⟩

/-- Fields that are joined with separators are found again, by induction on the fields. -/
theorem fields_intercalate (first : List Char) (others : List (List Char))
    (h : ∀ field ∈ first :: others, separator ∉ field) :
    fields separator ([separator].intercalate (first :: others)) = first :: others := by
  induction others generalizing first with
  | nil => simpa using fields_of_not_mem (h first List.mem_cons_self)
  | cons second others ih =>
      have hjoined : [separator].intercalate (first :: second :: others) =
          first ++ separator :: [separator].intercalate (second :: others) := by
        simp
      rw [hjoined, fields_append, fields_of_not_mem (h first List.mem_cons_self),
        ih second fun field hfield => h field (List.mem_cons_of_mem first hfield)]
      rfl

end Text

/-! ## Addresses -/

namespace Address

variable (address : Address)

theorem ofOctets_octets : ∃ a b c d, address.octets = [a, b, c, d] ∧
    (a < 256 ∧ b < 256 ∧ c < 256 ∧ d < 256) ∧ ofOctets a b c d = address := by
  refine ⟨_, _, _, _, rfl, ?_, ?_⟩
  · have hlt : address.toNat < 2 ^ 32 := address.isLt
    omega
  · unfold ofOctets
    apply BitVec.eq_of_toNat_eq
    rw [BitVec.toNat_ofNat]
    have hlt : address.toNat < 2 ^ 32 := address.isLt
    omega

theorem toList_text :
    address.text.toList = ['.'].intercalate (address.octets.map Decimal.digits) := by
  unfold text
  rw [String.toList_intercalate, List.map_map]
  congr 1
  refine List.map_congr_left ?_
  intro n _
  exact String.toList_ofList

/-- The text of an address holds digits and points. -/
theorem mem_text {c : Char} (h : c ∈ address.text.toList) : c = '.' ∨ Decimal.isDigit c = true := by
  rw [toList_text] at h
  rcases Text.mem_intercalate h with hpoint | ⟨field, hfield, hdigit⟩
  · exact Or.inl (List.mem_singleton.mp hpoint)
  · obtain ⟨n, -, rfl⟩ := List.mem_map.mp hfield
    exact Or.inr (Decimal.isDigit_of_mem_digits hdigit)

end Address

/-- An octet is read back from its digits. -/
theorem Subnet.octet?_digits {n : Nat} (h : n < 256) :
    Subnet.octet? (Decimal.digits n) = some n := by
  have hpos : 0 < (Decimal.digits n).length := Nat.length_toDigits_pos
  have hlength : (Decimal.digits n).length ≤ 3 :=
    (Nat.length_toDigits_le_iff (by decide) (by decide)).mpr (by omega)
  have hdigits : (Decimal.digits n).all Decimal.isDigit = true :=
    List.all_eq_true.mpr fun c hc => Decimal.isDigit_of_mem_digits hc
  unfold Subnet.octet?
  rw [Decimal.value_digits, if_pos ⟨hpos, hlength, hdigits, h⟩]

/-- The text of an address is read back. -/
theorem Subnet.address?_text (address : Address) :
    Subnet.address? address.text.toList = some address := by
  obtain ⟨a, b, c, d, hoctets, ⟨ha, hb, hc, hd⟩, haddress⟩ := address.ofOctets_octets
  -- a decimal number has no point, so splitting at the points gives the octets back
  have hnone : ∀ field ∈ address.octets.map Decimal.digits, '.' ∉ field := by
    intro field hfield hpoint
    obtain ⟨n, -, rfl⟩ := List.mem_map.mp hfield
    cases Decimal.isDigit_of_mem_digits hpoint
  rw [hoctets] at hnone
  have hfields : Text.fields '.' address.text.toList =
      [Decimal.digits a, Decimal.digits b, Decimal.digits c, Decimal.digits d] := by
    rw [address.toList_text, hoctets]
    exact Text.fields_intercalate _ _ hnone
  unfold Subnet.address?
  rw [hfields]
  simp [Subnet.octet?_digits, ha, hb, hc, hd, haddress]

/-! ## Subnets -/

namespace Subnet

variable (subnet : Subnet)

theorem toList_text :
    subnet.text.toList = subnet.address.text.toList ++ '/' :: Decimal.digits subnet.length := by
  unfold text Decimal.text
  simp

/-- The text of a subnet is cut at its slash. -/
theorem splitOnce_text : Text.splitOnce '/' subnet.text.toList =
    some (subnet.address.text.toList, Decimal.digits subnet.length) := by
  rw [toList_text]
  refine Text.splitOnce_append ?_
  intro hslash
  rcases subnet.address.mem_text hslash with hpoint | hdigit
  · cases hpoint
  · cases hdigit

/-- Different subnets have different texts. -/
theorem text_injective {first second : Subnet} (h : first.text = second.text) : first = second := by
  have hsplit := first.splitOnce_text
  rw [h, second.splitOnce_text] at hsplit
  obtain ⟨haddress, hlength⟩ := Prod.mk.inj (Option.some.inj hsplit)
  have haddress' : some second.address = some first.address := by
    rw [← address?_text, ← address?_text, haddress]
  have hlength' : second.length = first.length := Fin.ext (Decimal.digits_injective hlength)
  cases first
  cases second
  simp_all

end Subnet

end GuestNat
