import GuestNat.Proofs.SubnetSpelling
import GuestNat.Setup.SetupError

/-!
# Subnets as blocks of addresses

A subnet is a block: all addresses from the one without host bits to the one with all of them. These
are the addresses that agree with the subnet's own in the bits of the prefix.

* `Subnet.first`, `Subnet.last`, `Subnet.Contains`: the block;
* `Subnet.contains_iff`: it is a matter of the leading bits alone;
* `Subnet.NetworkOf`: the subnet that an address with a prefix length stands for;
* `Subnet.isCanonicalLength_iff`: the texts that pass for a prefix length, in range or not;
* `Subnet.RefusedFor`: the reasons to refuse a text;
* `subnets_are_read_as_spelled`: every text is read as the network that it spells, or refused.
-/

namespace GuestNat

/-- The addresses agree in so many leading bits. -/
def Address.AgreeIn (length : Nat) (a b : Address) : Prop :=
  ∀ i < length, a.getMsbD i = b.getMsbD i

namespace Subnet

/-! ## Blocks -/

/-- The first address of the block. -/
def first (subnet : Subnet) : Address := subnet.address &&& mask subnet.length

/-- The last address of the block. -/
def last (subnet : Subnet) : Address := subnet.address ||| ~~~mask subnet.length

/-- The address lies in the block. -/
def Contains (subnet : Subnet) (address : Address) : Prop :=
  subnet.first ≤ address ∧ address ≤ subnet.last

variable {subnet : Subnet} {a b : Address} {length : Fin 33} {s : String}

theorem getLsbD_mask (length i : Nat) :
    (mask length).getLsbD i = (decide (32 - length ≤ i) && decide (i < 32)) := by
  unfold mask
  simp only [BitVec.getLsbD_shiftLeft, BitVec.getLsbD_allOnes]
  grind

/-- Masking keeps the leading bits and clears the others. -/
theorem getLsbD_masked (subnet : Subnet) (i : Nat) : subnet.masked.address.getLsbD i =
    (decide (32 - subnet.length ≤ i) && subnet.address.getLsbD i) := by
  change (subnet.address &&& mask subnet.length).getLsbD i = _
  rw [BitVec.getLsbD_and, getLsbD_mask]
  by_cases hi : i < 32
  · simp [hi, Bool.and_comm]
  · simp [BitVec.getLsbD_of_ge _ i (Nat.le_of_not_lt hi)]

/-- A block has the same ends whether host bits are set or not. -/
theorem first_masked (subnet : Subnet) : subnet.masked.first = subnet.first :=
  congrArg Subnet.address (masked_masked subnet)

theorem last_masked (subnet : Subnet) : subnet.masked.last = subnet.last := by
  refine BitVec.eq_of_getLsbD_eq ?_
  intro i hi
  change (subnet.masked.address ||| ~~~mask subnet.length).getLsbD i =
    (subnet.address ||| ~~~mask subnet.length).getLsbD i
  simp only [BitVec.getLsbD_or, BitVec.getLsbD_not, getLsbD_masked, getLsbD_mask]
  by_cases hkept : 32 - subnet.length.val ≤ i <;> simp [hi, hkept]

/-- Agreement in leading bits, with the bits counted from the last one. -/
theorem agree_in_iff : a.AgreeIn length b ↔
    ∀ i < 32, 32 - length.val ≤ i → a.getLsbD i = b.getLsbD i := by
  constructor
  · intro h i hi hkept
    have hbit := h (31 - i) (by omega)
    have hback : 32 - 1 - (31 - i) = i := by omega
    simpa [BitVec.getMsbD_eq_getLsbD, hback, show 31 - i < 32 by omega] using hbit
  · intro h i hi
    have hlt : i < 32 := Nat.lt_of_lt_of_le hi (Nat.le_of_lt_succ length.isLt)
    rw [BitVec.getMsbD_eq_getLsbD, BitVec.getMsbD_eq_getLsbD,
      h (32 - 1 - i) (by omega) (by omega)]

/-- Agreement leaves the same address once host bits are cleared, and once they are set. -/
theorem ends_of_agree_in (h : a.AgreeIn length b) :
    a &&& mask length = b &&& mask length ∧ a ||| ~~~mask length = b ||| ~~~mask length := by
  rw [agree_in_iff] at h
  constructor <;> refine BitVec.eq_of_getLsbD_eq fun i hi => ?_ <;>
    simp only [BitVec.getLsbD_and, BitVec.getLsbD_or, BitVec.getLsbD_not, getLsbD_mask]
  · by_cases hkept : 32 - length.val ≤ i
    · rw [h i hi hkept]
    · simp [hkept]
  · by_cases hkept : 32 - length.val ≤ i
    · rw [h i hi hkept]
    · simp [hi, hkept]

/-- With the host bits shifted out, both ends are the address of the subnet. -/
theorem ends_ushiftRight (subnet : Subnet) :
    subnet.first >>> (32 - subnet.length.val) = subnet.address >>> (32 - subnet.length.val) ∧
      subnet.last >>> (32 - subnet.length.val) = subnet.address >>> (32 - subnet.length.val) := by
  unfold first last
  constructor <;> refine BitVec.eq_of_getLsbD_eq fun i hi => ?_ <;>
    simp only [BitVec.getLsbD_ushiftRight, BitVec.getLsbD_and, BitVec.getLsbD_or,
      BitVec.getLsbD_not, getLsbD_mask]
  · by_cases hlt : 32 - subnet.length.val + i < 32
    · simp [hlt]
    · simp [BitVec.getLsbD_of_ge subnet.address _ (Nat.le_of_not_lt hlt)]
  · by_cases hlt : 32 - subnet.length.val + i < 32 <;> simp [hlt]

/-- The block of a subnet holds the addresses that agree with it in the prefix. Shifting keeps the
order, so between the two ends there is nothing but what both of them are shifted to. -/
theorem contains_iff : subnet.Contains a ↔ a.AgreeIn subnet.length subnet.address := by
  constructor
  · rintro ⟨hfirst, hlast⟩
    obtain ⟨hlow, hhigh⟩ := subnet.ends_ushiftRight
    -- shifting is monotone and the ends of the block agree in the bits kept, so `a` does too
    have hshifted : a >>> (32 - subnet.length.val) =
        subnet.address >>> (32 - subnet.length.val) := by
      refine BitVec.eq_of_toNat_eq (Nat.le_antisymm ?_ ?_)
      · rw [← hhigh]
        simp only [BitVec.toNat_ushiftRight, Nat.shiftRight_eq_div_pow]
        exact Nat.div_le_div_right (BitVec.le_def.mp hlast)
      · rw [← hlow]
        simp only [BitVec.toNat_ushiftRight, Nat.shiftRight_eq_div_pow]
        exact Nat.div_le_div_right (BitVec.le_def.mp hfirst)
    rw [agree_in_iff]
    intro i hi hkept
    have hbit := congrArg (·.getLsbD (i - (32 - subnet.length.val))) hshifted
    simpa [BitVec.getLsbD_ushiftRight, Nat.add_sub_cancel' hkept] using hbit
  · -- the address lies between itself with the lower bits cleared and with all of them set
    intro h
    obtain ⟨hfirst, hlast⟩ := ends_of_agree_in h
    constructor
    · unfold first
      rw [← hfirst]
      exact BitVec.le_def.mpr (by rw [BitVec.toNat_and]; exact Nat.and_le_left)
    · unfold last
      rw [← hlast]
      exact BitVec.le_def.mpr (by rw [BitVec.toNat_or]; exact Nat.left_le_or)

/-- What it means that a subnet is the network of an address with a prefix length. -/
structure NetworkOf (subnet : Subnet) (address : Address) (length : Fin 33) : Prop where
  same_length : subnet.length = length
  /-- The bits of the prefix are those of the address, and all behind them are cleared. -/
  bits : ∀ i, subnet.address.getMsbD i = (decide (i < length.val) && address.getMsbD i)
  /-- The block holds exactly the addresses that agree with the address in the prefix. -/
  contains : ∀ other, subnet.Contains other ↔ other.AgreeIn length address
  /-- These are all addresses where there is no prefix, -/
  all : length = 0 → ∀ other, subnet.Contains other
  /-- and the address alone where the prefix is all of it. -/
  one : length = 32 → ∀ other, subnet.Contains other ↔ other = address

/-- Clearing the host bits gives the network. -/
theorem networkOf_masked (address : Address) (length : Fin 33) :
    (masked ⟨address, length⟩).NetworkOf address length := by
  have hcontains : ∀ other, (masked ⟨address, length⟩).Contains other ↔
      other.AgreeIn length address := by
    intro other
    unfold Contains
    rw [first_masked, last_masked]
    exact contains_iff
  constructor
  · rfl
  · intro i
    rw [BitVec.getMsbD_eq_getLsbD, BitVec.getMsbD_eq_getLsbD, getLsbD_masked]
    by_cases hi : i < 32
    · have hkept : 32 - length.val ≤ 32 - 1 - i ↔ i < length.val := by
        have := length.isLt
        omega
      simp only [hi, hkept, decide_true, Bool.true_and]
    · simp [hi]
  · exact hcontains
  · rintro rfl other
    exact (hcontains other).mpr fun i hi => absurd hi (Nat.not_lt_zero i)
  · rintro rfl other
    rw [hcontains, agree_in_iff]
    constructor
    · exact fun h => BitVec.eq_of_getLsbD_eq fun i hi => h i hi (Nat.zero_le i)
    · rintro rfl i _ _
      rfl

end Subnet

/-! ## Texts that are refused -/

/-- Only zero is written with a zero in front. -/
theorem Decimal.head_digits {n : Nat} (h : 0 < n) : (digits n).head? ≠ some '0' := by
  -- the induction drops the last digit, down to a number of one digit
  induction n using Nat.strongRecOn with
  | ind n ih =>
      by_cases hn : n < 10
      · have hall : ∀ n < 10, 0 < n → (digits n).head? ≠ some '0' := by decide
        exact hall n hn h
      · -- the first digit is that of the number without its last one
        have hfront : digits n = digits (n / 10) ++ digits (n % 10) := by
          unfold digits
          rw [Nat.toDigits_append_toDigits (by decide) (by omega) (Nat.mod_lt n (by decide)),
            Nat.div_add_mod]
        have hne : digits (n / 10) ≠ [] := Nat.toDigits_ne_nil
        rw [hfront, List.head?_append_of_ne_nil _ hne]
        exact ih (n / 10) (by omega) (by omega)

namespace Text

variable {separator : Char} {cs front rest : List Char}

/-- A text is cut where its first separator stands. -/
theorem splitOnce_eq_some_iff : splitOnce separator cs = some (front, rest) ↔
    cs = front ++ separator :: rest ∧ separator ∉ front := by
  constructor
  · intro h
    have hmem : separator ∈ cs := by
      rw [of_splitOnce h]
      exact List.mem_append_right front List.mem_cons_self
    obtain ⟨before, after, hcs, hbefore⟩ := List.eq_append_cons_of_mem hmem
    have hcut := h
    rw [hcs, splitOnce_append hbefore] at hcut
    obtain ⟨rfl, rfl⟩ := Prod.mk.inj (Option.some.inj hcut)
    exact ⟨hcs, hbefore⟩
  · rintro ⟨rfl, hfront⟩
    exact splitOnce_append hfront

/-- Where there is no separator, a text is not cut. -/
theorem splitOnce_eq_none_iff : splitOnce separator cs = none ↔ separator ∉ cs := by
  rw [Option.eq_none_iff_forall_ne_some]
  constructor
  · intro h hmem
    obtain ⟨front, rest, hcs, hfront⟩ := List.eq_append_cons_of_mem hmem
    exact h (front, rest) (splitOnce_eq_some_iff.mpr ⟨hcs, hfront⟩)
  · rintro h ⟨front, rest⟩ hsplit
    refine h ?_
    rw [(splitOnce_eq_some_iff.mp hsplit).1]
    exact List.mem_append_right front List.mem_cons_self

end Text

namespace Subnet

variable {s : String}

/-- What passes for a prefix length is a number in its usual spelling, in range or not. -/
theorem isCanonicalLength_iff {ds : List Char} :
    isCanonicalLength ds = true ↔ ∃ n, ds = Decimal.digits n := by
  constructor
  · exact fun h => ⟨Decimal.value ds, (digits_of_canonical h).symm⟩
  · rintro ⟨n, rfl⟩
    have hne : Decimal.digits n ≠ [] := Nat.toDigits_ne_nil
    have hall : ∀ c ∈ Decimal.digits n, Decimal.isDigit c = true := fun _ =>
      Decimal.isDigit_of_mem_digits
    rcases Nat.eq_zero_or_pos n with rfl | hpos
    · rfl
    · simp [isCanonicalLength, hne, List.all_eq_true.mpr hall, Decimal.head_digits hpos]

/-- The reasons to refuse a text, of which the first one that applies is named. Each is about the
text without the blanks around it. -/
inductive RefusedFor (s : String) : SubnetFault → Prop
  | noSlash (hslash : '/' ∉ (Text.trim s).toList) : RefusedFor s (.noSlash (Text.trim s))
  | badLength {front rest : List Char} (hs : (Text.trim s).toList = front ++ '/' :: rest)
      (hfront : '/' ∉ front) (hlength : ∀ n, rest ≠ Decimal.digits n) :
      RefusedFor s (.badLength (Text.trim s))
  | badAddress {front : List Char} {n : Nat}
      (hs : (Text.trim s).toList = front ++ '/' :: Decimal.digits n) (hfront : '/' ∉ front)
      (haddress : 32 < n ∨ ∀ address, ¬Address.Spelled front address) :
      RefusedFor s (.badAddress (Text.trim s))

/-- A text is refused for one of these reasons, and never without one. -/
theorem parse_eq_error_iff {fault : SubnetFault} :
    parse s = .error fault ↔ RefusedFor s fault := by
  unfold parse parseTrimmed
  constructor
  · -- each way through the reader that ends in an error gives its own cause
    intro h
    split at h
    · next hsplit =>
        obtain rfl := Except.error.inj h
        exact .noSlash (Text.splitOnce_eq_none_iff.mp hsplit)
    · next front rest hsplit =>
        obtain ⟨hs, hfront⟩ := Text.splitOnce_eq_some_iff.mp hsplit
        split at h
        · next hcanonical =>
            obtain ⟨n, rfl⟩ := isCanonicalLength_iff.mp hcanonical
            split at h
            · next haddress =>
                obtain rfl := Except.error.inj h
                refine .badAddress hs hfront (.inr fun address hspelled => ?_)
                rw [address?_eq_some_iff.mpr hspelled] at haddress
                cases haddress
            · split at h
              · cases h
              · next hlt =>
                  obtain rfl := Except.error.inj h
                  rw [Decimal.value_digits] at hlt
                  exact .badAddress hs hfront (.inl (Nat.lt_of_not_le fun hle =>
                    hlt (Nat.lt_succ_of_le hle)))
        · next hcanonical =>
            obtain rfl := Except.error.inj h
            exact .badLength hs hfront fun n hn => hcanonical (isCanonicalLength_iff.mpr ⟨n, hn⟩)
  · intro h
    cases h with
    | noSlash hslash => rw [Text.splitOnce_eq_none_iff.mpr hslash]
    | badLength hs hfront hlength =>
        have hcanonical : ¬isCanonicalLength _ = true := fun hcanonical =>
          let ⟨n, hn⟩ := isCanonicalLength_iff.mp hcanonical
          hlength n hn
        rw [hs, Text.splitOnce_append hfront]
        exact if_neg hcanonical
    | @badAddress front n hs hfront haddress =>
        rw [hs, Text.splitOnce_append hfront]
        simp only [isCanonicalLength_iff.mpr ⟨n, rfl⟩, if_true, Decimal.value_digits]
        cases hread : address? front with
        | none => rfl
        | some address =>
            have hspelled := address?_eq_some_iff.mp hread
            -- the address is looked at before the length's size, and both give the same cause
            rcases haddress with hlarge | hnone
            · exact dif_neg (Nat.not_lt_of_le hlarge)
            · exact absurd hspelled (hnone address)

/-- Without the blanks around it, a spelling is the address, a slash and the prefix length. -/
theorem Spelled.trimmed {address : Address} {length : Fin 33} (h : Spelled s address length) :
    ∃ cs, Address.Spelled cs address ∧
      Text.splitOnce '/' (Text.trimChars s.toList) = some (cs, Decimal.digits length) := by
  cases h with
  | slash before after hbefore hafter haddress hs =>
      have hne : ∀ cs ds : List Char, cs ++ '/' :: ds ≠ [] := by simp
      refine ⟨_, haddress, ?_⟩
      rw [hs, List.append_assoc,
        Text.trimChars_append hbefore hafter (hne _ _) (haddress.no_blank length),
        Text.splitOnce_append haddress.slash_not_mem]

/-- A text spells one address with one prefix length at most. -/
theorem Spelled.unique {address other : Address} {length otherLength : Fin 33}
    (h : Spelled s address length) (h' : Spelled s other otherLength) :
    address = other ∧ length = otherLength := by
  obtain ⟨cs, haddress, hsplit⟩ := h.trimmed
  obtain ⟨cs', hother, hsplit'⟩ := h'.trimmed
  obtain ⟨rfl, hdigits⟩ := Prod.mk.inj (Option.some.inj (hsplit.symm.trans hsplit'))
  rw [← address?_eq_some_iff] at haddress hother
  exact ⟨Option.some.inj (haddress.symm.trans hother), Fin.ext (Decimal.digits_injective hdigits)⟩

end Subnet

/-! ## The law -/

/-- How a text is read as a subnet. -/
structure ReadAsSpelled (s : String) : Prop where
  /-- It is accepted exactly if it spells an address with a prefix length, -/
  accepted_iff : (∃ subnet, Subnet.parse s = .ok subnet) ↔
    ∃ address length, Subnet.Spelled s address length
  /-- of which it spells one only, -/
  unambiguous : ∀ address length other otherLength, Subnet.Spelled s address length →
    Subnet.Spelled s other otherLength → other = address ∧ otherLength = length
  /-- and then as the network of that address. -/
  network : ∀ address length, Subnet.Spelled s address length →
    ∃ subnet, Subnet.parse s = .ok subnet ∧ subnet.NetworkOf address length
  /-- Otherwise the error is one of the configuration, -/
  refused : (¬∃ address length, Subnet.Spelled s address length) →
    ∃ fault, Subnet.parse s = .error fault ∧ (SetupError.config (.subnet fault)).kind = .config
  /-- and names the reason. -/
  reason : ∀ fault, Subnet.parse s = .error fault ↔ Subnet.RefusedFor s fault

/-- **Subnets are read as they are spelled**, and nothing else is read. -/
theorem subnets_are_read_as_spelled (s : String) : ReadAsSpelled s where
  accepted_iff := by
    constructor
    · rintro ⟨subnet, h⟩
      obtain ⟨address, length, hspelled, -⟩ := Subnet.parse_eq_ok_iff.mp h
      exact ⟨address, length, hspelled⟩
    · rintro ⟨address, length, hspelled⟩
      exact ⟨_, Subnet.parse_eq_ok_iff.mpr ⟨address, length, hspelled, rfl⟩⟩
  unambiguous := fun _ _ _ _ h h' => h'.unique h
  network := by
    intro address length hspelled
    exact ⟨_, Subnet.parse_eq_ok_iff.mpr ⟨address, length, hspelled, rfl⟩,
      Subnet.networkOf_masked address length⟩
  refused := by
    intro hnone
    cases hparse : Subnet.parse s with
    | ok subnet =>
        obtain ⟨address, length, hspelled, -⟩ := Subnet.parse_eq_ok_iff.mp hparse
        exact absurd ⟨address, length, hspelled⟩ hnone
    | error fault => exact ⟨fault, rfl, rfl⟩
  reason := fun _ => Subnet.parse_eq_error_iff

/-- Host bits are cleared, and neither zeros in front of an octet nor blanks around the text matter;
a zero in front of the prefix length does. -/
theorem subnets_are_read_as_spelled_with_host_bits :
    Subnet.Spelled " 192.000.2.7/25\u3000" (.ofOctets 192 0 2 7) 25 ∧
    (∃ subnet, Subnet.parse " 192.000.2.7/25\u3000" = .ok subnet ∧
      subnet.NetworkOf (.ofOctets 192 0 2 7) 25) ∧
    Subnet.RefusedFor "192.0.2.7/025" (.badLength "192.0.2.7/025") := by
  have haddress : Address.Spelled "192.000.2.7".toList (.ofOctets 192 0 2 7) :=
    @Address.Spelled.points ['1', '9', '2'] ['0', '0', '0'] ['2'] ['7'] 192 0 2 7
      (by decide) (by decide) (by decide) (by decide)
  have hspelled : Subnet.Spelled " 192.000.2.7/25\u3000" (.ofOctets 192 0 2 7) 25 :=
    .slash [' '] ['\u3000'] (List.forall_mem_singleton.mpr rfl) (List.forall_mem_singleton.mpr rfl)
      haddress (by decide)
  exact ⟨hspelled, (subnets_are_read_as_spelled _).network _ _ hspelled,
    ((subnets_are_read_as_spelled _).reason _).mp (by decide)⟩

end GuestNat
