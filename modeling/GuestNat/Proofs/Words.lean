import GuestNat.Proofs.Independence
import GuestNat.Proofs.SubnetText

/-!
# Words and rules

A rule is shown as words with spaces between them. Splitting the text gives the words back, so the
text of a rule says which rule it is, as long as no part of it is empty or holds a blank. The rules
of a proper configuration are of this kind.

* `Text.words_joinWords`: splitting undoes joining;
* `Rule.Plain`: all parts of the rule are words;
* `Rule.Plain.words_text`, `Rule.Plain.text_injective`: the words of the text of a rule;
* `NatConfig.forall_words`: the words that the rules of a configuration consist of;
* `NatConfig.plain_rules`: the rules of a proper configuration are plain.
-/

namespace GuestNat

namespace Text

/-- A word is not empty and holds no blank. -/
structure IsWord (w : String) : Prop where
  ne_nil : w.toList ≠ []
  no_blank : ∀ c ∈ w.toList, isBlank c = false

instance (w : String) : Decidable (IsWord w) :=
  decidable_of_iff (w.toList ≠ [] ∧ w.toList.all (!isBlank ·)) <| by
    simp only [List.all_eq_true, Bool.not_eq_true']
    exact ⟨fun h => ⟨h.1, h.2⟩, fun h => ⟨h.ne_nil, h.no_blank⟩⟩

/-- A word stands for itself up to the next blank. -/
theorem wordChars_append {w rest : List Char} (hne : w ≠ []) (h : ∀ c ∈ w, isBlank c = false)
    (hrest : startsWord rest = false) : wordChars (w ++ rest) = w :: wordChars rest := by
  induction w with
  | nil => exact absurd rfl hne
  | cons c w ih =>
      have hc : isBlank c = false := h c List.mem_cons_self
      -- whether a character ends its word depends on the next one
      cases w with
      | nil => simp [wordChars, hc, hrest]
      | cons d w =>
          have hd : isBlank d = false := h d (List.mem_cons_of_mem c List.mem_cons_self)
          have hw := ih (List.cons_ne_nil d w) fun e he => h e (List.mem_cons_of_mem c he)
          rw [List.cons_append, wordChars, hw]
          simp [hc, hd, startsWord, extendFirst]

/-- Splitting undoes joining with spaces, by induction on the words. -/
theorem wordChars_intercalate {ws : List (List Char)} (hne : ∀ w ∈ ws, w ≠ [])
    (h : ∀ w ∈ ws, ∀ c ∈ w, isBlank c = false) : wordChars ([' '].intercalate ws) = ws := by
  induction ws with
  | nil => rfl
  | cons w ws ih =>
      have hw := hne w List.mem_cons_self
      have hblank := h w List.mem_cons_self
      -- behind the last word there is no blank
      cases ws with
      | nil =>
          have hword : wordChars (w ++ []) = w :: wordChars [] := wordChars_append hw hblank rfl
          simpa [wordChars] using hword
      | cons next ws =>
          have hrest := ih (fun v hv => hne v (List.mem_cons_of_mem w hv))
            fun v hv => h v (List.mem_cons_of_mem w hv)
          rw [List.intercalate_cons_cons, List.append_assoc, wordChars_append hw hblank rfl]
          congr 1

/-- Splitting undoes joining. -/
theorem words_joinWords {ws : List String} (h : ∀ w ∈ ws, IsWord w) :
    words (joinWords ws) = ws := by
  unfold words joinWords
  rw [String.toList_intercalate]
  have hchars : wordChars (" ".toList.intercalate (ws.map String.toList)) =
      ws.map String.toList := by
    refine wordChars_intercalate ?_ ?_
    · intro w hw
      obtain ⟨v, hv, rfl⟩ := List.mem_map.mp hw
      exact (h v hv).ne_nil
    · intro w hw
      obtain ⟨v, hv, rfl⟩ := List.mem_map.mp hw
      exact (h v hv).no_blank
  rw [hchars, List.map_map]
  simp

/-- A word in front of other ones. -/
theorem joinWords_cons {w : String} {ws : List String} (h : ws ≠ []) :
    joinWords (w :: ws) = w ++ " " ++ joinWords ws := by
  cases ws with
  | nil => exact absurd rfl h
  | cons next ws =>
      rw [← String.toList_inj]
      simp [joinWords, String.toList_intercalate]

end Text

/-! ## Rules -/

theorem Table.isWord_name (table : Table) : Text.IsWord table.name := by
  cases table <;> decide

/-- Tables have different names. -/
theorem Table.name_injective {table other : Table} (h : table.name = other.name) :
    table = other := by
  cases table <;> cases other <;> simp_all [name]

/-- All parts of the rule are words. -/
structure Rule.Plain (rule : Rule) : Prop where
  chain : Text.IsWord rule.chain
  has_args : rule.args ≠ []
  args : ∀ arg ∈ rule.args, Text.IsWord arg

instance (rule : Rule) : Decidable rule.Plain :=
  decidable_of_iff (Text.IsWord rule.chain ∧ rule.args ≠ [] ∧ ∀ arg ∈ rule.args, Text.IsWord arg)
    ⟨fun h => ⟨h.1, h.2.1, h.2.2⟩, fun h => ⟨h.chain, h.has_args, h.args⟩⟩

section Rules

variable {rule other : Rule}

/-- The text of a rule splits into its parts. -/
theorem Rule.Plain.words_text (h : rule.Plain) :
    Text.words rule.text = "-t" :: rule.table.name :: rule.chain :: rule.args := by
  have hjoined : rule.text =
      Text.joinWords ("-t" :: rule.table.name :: rule.chain :: rule.args) := by
    rw [Text.joinWords_cons (by simp), Text.joinWords_cons (by simp),
      Text.joinWords_cons h.has_args]
    unfold Rule.text
    simp only [String.append_assoc]
    rfl
  rw [hjoined]
  refine Text.words_joinWords ?_
  simp only [List.forall_mem_cons]
  exact ⟨by decide, rule.table.isWord_name, h.chain, h.args⟩

/-- Plain rules with the same text are the same. -/
theorem Rule.Plain.text_injective (h : rule.Plain) (h' : other.Plain)
    (htext : rule.text = other.text) : rule = other := by
  have hwords := congrArg Text.words htext
  rw [h.words_text, h'.words_text] at hwords
  obtain ⟨htable, hchain, hargs⟩ : rule.table.name = other.table.name ∧
      rule.chain = other.chain ∧ rule.args = other.args := by
    simpa using hwords
  cases rule
  cases other
  rw [Rule.mk.injEq]
  exact ⟨Table.name_injective htable, hchain, hargs⟩

end Rules

/-! ## Configurations -/

/-- The names that interfaces can have. -/
theorem InterfaceName.check_eq_ok_iff {name : String} :
    InterfaceName.check name = .ok () ↔ name.toList ≠ [] ∧ name.utf8ByteSize ≤ maxSize ∧
      (name ≠ "." ∧ name ≠ "..") ∧ ∀ c ∈ name.toList, isForbidden c = false := by
  unfold InterfaceName.check
  -- the four refusals, in the order of the check
  split
  · simp_all
  split
  · rename_i hlong
    constructor
    · intro h
      cases h
    · rintro ⟨-, hsize, -⟩
      exact absurd hlong (Nat.not_lt.mpr hsize)
  split
  · rename_i hreserved
    constructor
    · intro h
      cases h
    · rintro ⟨-, -, ⟨hhere, habove⟩, -⟩
      rcases hreserved with heq | heq
      · exact absurd heq hhere
      · exact absurd heq habove
  split
  · simp_all
  · simp_all

/-- An interface name is a word. -/
theorem InterfaceName.isWord {name : String} (h : InterfaceName.check name = .ok ()) :
    Text.IsWord name := by
  obtain ⟨hne, -, -, hallowed⟩ := InterfaceName.check_eq_ok_iff.mp h
  refine ⟨hne, ?_⟩
  intro c hc
  have hnot := hallowed c hc
  simp only [InterfaceName.isForbidden, Bool.or_eq_false_iff] at hnot
  exact hnot.2

/-- A proper configuration has proper interface names. -/
theorem NatConfig.check_names {config : NatConfig} (h : config.check = .ok ()) :
    ∀ name ∈ [config.tap, config.uplink], InterfaceName.check name = .ok () := by
  unfold NatConfig.check at h
  cases htap : InterfaceName.check config.tap with
  | error fault =>
      rw [htap] at h
      cases h
  | ok _ =>
      cases huplink : InterfaceName.check config.uplink with
      | error fault =>
          rw [htap, huplink] at h
          cases h
      | ok _ => exact List.forall_mem_cons.mpr ⟨htap, List.forall_mem_singleton.mpr huplink⟩

/-- The text of a subnet holds digits, points and a slash. -/
theorem Subnet.mem_text (subnet : Subnet) {c : Char} (h : c ∈ subnet.text.toList) :
    c = '.' ∨ c = '/' ∨ Decimal.isDigit c = true := by
  rw [toList_text] at h
  rcases List.mem_append.mp h with haddress | hlength
  · rcases subnet.address.mem_text haddress with hpoint | hdigit
    · exact Or.inl hpoint
    · exact Or.inr (Or.inr hdigit)
  · rcases List.mem_cons.mp hlength with hslash | hdigit
    · exact Or.inr (Or.inl hslash)
    · exact Or.inr (Or.inr (Decimal.isDigit_of_mem_digits hdigit))

theorem Decimal.not_blank_of_isDigit {c : Char} (h : isDigit c = true) :
    Text.isBlank c = false := by
  obtain ⟨hlow, hhigh⟩ := toNat_of_isDigit h
  simp [Text.isBlank]
  omega

theorem Subnet.isWord_text (subnet : Subnet) : Text.IsWord subnet.text where
  ne_nil := by
    rw [toList_text]
    simp
  no_blank := by
    intro c hc
    rcases subnet.mem_text hc with rfl | rfl | hdigit
    · rfl
    · rfl
    · exact Decimal.not_blank_of_isDigit hdigit

/-- The words that rules are written with, besides names and subnets. -/
def Rule.keywords : List String :=
  ["FORWARD", "POSTROUTING", "-i", "-o", "-s", "-j", "ACCEPT", "MASQUERADE"]

/-- What holds of these words, of the names and of the subnet holds of all words of the rules. -/
theorem NatConfig.forall_words {config : NatConfig} {P : String → Prop}
    (hkeywords : ∀ word ∈ Rule.keywords, P word)
    (hnames : ∀ name ∈ [config.tap, config.uplink], P name) (hsubnet : P config.subnet.text) :
    ∀ rule ∈ config.rules, P rule.chain ∧ ∀ arg ∈ rule.args, P arg := by
  have htap : P config.tap := hnames _ (by simp)
  have huplink : P config.uplink := hnames _ (by simp)
  -- the words of the rules are keywords, the two names and the subnet
  have hnone : ∀ arg ∈ ([] : List String), P arg := fun _ h => absurd h List.not_mem_nil
  simp only [Rule.keywords, List.forall_mem_cons] at hkeywords
  obtain ⟨hforward, hpostrouting, hin, hout, hfrom, hjump, haccept, hmasquerade, -⟩ := hkeywords
  simp only [config.rules_eq, Rule.acceptTo, Rule.acceptFrom, Rule.masquerade, List.forall_mem_cons]
  exact ⟨⟨hforward, hout, htap, hjump, haccept, hnone⟩,
    ⟨hforward, hin, htap, hjump, haccept, hnone⟩,
    ⟨hpostrouting, hfrom, hsubnet, hout, huplink, hjump, hmasquerade, hnone⟩,
    fun _ h => absurd h List.not_mem_nil⟩

theorem NatConfig.rules_have_args {config : NatConfig} :
    ∀ rule ∈ config.rules, rule.args ≠ [] := by
  simp [config.rules_eq, Rule.acceptTo, Rule.acceptFrom, Rule.masquerade]

/-- The rules of a proper configuration are plain. -/
theorem NatConfig.plain_rules {config : NatConfig} (h : config.check = .ok ()) :
    ∀ rule ∈ config.rules, rule.Plain := by
  have hwords : ∀ rule ∈ config.rules, Text.IsWord rule.chain ∧
      ∀ arg ∈ rule.args, Text.IsWord arg :=
    config.forall_words (by decide)
      (fun name hname => InterfaceName.isWord (config.check_names h name hname))
      config.subnet.isWord_text
  intro rule hrule
  exact ⟨(hwords rule hrule).1, NatConfig.rules_have_args rule hrule, (hwords rule hrule).2⟩

end GuestNat
