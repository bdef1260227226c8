import GuestNat.Proofs.Words

/-!
# Reading subnets

What reading a text as a subnet gives has no host bit set, and the text of a subnet is read as the
subnet without its host bits.

* `Text.trimChars_append`, `Text.trim_of_isWord`: blanks around a text are trimmed away, and a word
  has none;
* `Subnet.masked_of_parse`: a subnet that was read is masked;
* `Subnet.parse_text`: reading undoes writing, host bits apart.
-/

namespace GuestNat

/-- Blanks in front of a text that starts without one are dropped. -/
theorem Text.dropWhile_blanks {blanks cs : List Char} (hblanks : ∀ c ∈ blanks, isBlank c = true)
    (hne : cs ≠ []) (hcs : ∀ c ∈ cs, isBlank c = false) (more : List Char) :
    (blanks ++ (cs ++ more)).dropWhile isBlank = cs ++ more := by
  obtain ⟨c, rest, rfl⟩ := List.exists_cons_of_ne_nil hne
  have hc : isBlank c = false := hcs c List.mem_cons_self
  rw [List.dropWhile_append_of_pos hblanks, List.cons_append, List.dropWhile_cons, hc,
    if_neg Bool.false_ne_true]

/-- Blanks around a text without blanks are trimmed away. -/
theorem Text.trimChars_append {before cs after : List Char}
    (hbefore : ∀ c ∈ before, isBlank c = true) (hafter : ∀ c ∈ after, isBlank c = true)
    (hne : cs ≠ []) (hcs : ∀ c ∈ cs, isBlank c = false) :
    trimChars (before ++ (cs ++ after)) = cs := by
  have hafter' : ∀ c ∈ after.reverse, isBlank c = true :=
    fun c hc => hafter c (List.mem_reverse.mp hc)
  have hcs' : ∀ c ∈ cs.reverse, isBlank c = false := fun c hc => hcs c (List.mem_reverse.mp hc)
  have hback := dropWhile_blanks hafter' (List.reverse_ne_nil_iff.mpr hne) hcs' []
  rw [List.append_nil] at hback
  unfold trimChars
  rw [dropWhile_blanks hbefore hne hcs, List.reverse_append, hback, List.reverse_reverse]

/-- A word has no blanks to trim. -/
theorem Text.trim_of_isWord {w : String} (h : IsWord w) : trim w = w := by
  have htrimmed : trimChars ([] ++ (w.toList ++ [])) = w.toList :=
    trimChars_append (List.forall_mem_nil _) (List.forall_mem_nil _) h.ne_nil h.no_blank
  rw [List.nil_append, List.append_nil] at htrimmed
  unfold trim
  rw [htrimmed, String.ofList_toList]

namespace Subnet

variable {subnet : Subnet} {s : String}

/-- Host bits are cleared once and for all. -/
theorem masked_masked (subnet : Subnet) : subnet.masked.masked = subnet.masked := by
  unfold masked
  simp only [BitVec.and_assoc, BitVec.and_self]

/-- A subnet that was read has no host bits. -/
theorem masked_of_parse (h : parse s = .ok subnet) : subnet.Masked := by
  unfold parse parseTrimmed at h
  split at h
  · cases h
  · split at h
    · split at h
      · cases h
      · split at h
        · cases h
          exact masked_masked _
        · cases h
    · cases h

theorem isCanonicalLength_digits {n : Nat} (h : n < 33) :
    isCanonicalLength (Decimal.digits n) = true := by
  have hall : ∀ n < 33, isCanonicalLength (Decimal.digits n) = true := by decide
  exact hall n h

/-- The text of a subnet is read as the subnet without its host bits. -/
theorem parse_text (subnet : Subnet) : parse subnet.text = .ok subnet.masked := by
  unfold parse parseTrimmed
  rw [Text.trim_of_isWord subnet.isWord_text, splitOnce_text]
  simp only [isCanonicalLength_digits subnet.length.isLt, address?_text, Decimal.value_digits,
    if_true, subnet.length.isLt, dif_pos]

/-- The text of a subnet without host bits is read back. -/
theorem Masked.parse_text (h : subnet.Masked) : parse subnet.text = .ok subnet := by
  rw [Subnet.parse_text, h]

end Subnet

end GuestNat
