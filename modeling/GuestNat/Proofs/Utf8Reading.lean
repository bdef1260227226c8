import GuestNat.Text.Utf8

/-!
# Octets and the text they spell

Reading octets as text accepts exactly the octets that a text is written in, and gives that text
back.

* `Utf8.octets`: the octets of a text, character by character as the standard encodes them;
* `characters_encode`: the octets of a character are read as that character;
* `Pending`: what has been read so far of a character, given the state of the reader; whichever
  octets the state still takes complete it to the octets of one character;
* `decode?_eq_some_iff`: reading undoes writing, and accepts nothing else.
-/

namespace GuestNat.Text

theorem toNat_ofNat {n : Nat} (h : n.isValidChar) : (Char.ofNat n).toNat = n := by
  unfold Char.ofNat
  rw [dif_pos h]
  rfl

namespace Utf8

/-- The octets of a text. -/
def octets (text : String) : Bytes := text.toList.flatMap String.utf8EncodeChar

/-- An octet that continues a character. -/
def IsTail (b : UInt8) : Prop := 0x80 ≤ b.toNat ∧ b.toNat ≤ 0xBF

/-- The number that continuing octets add up to behind the bits before them. -/
def tailValue (bits : Nat) (bytes : Bytes) : Nat :=
  bytes.foldl (fun bits b => bits * 64 + (b.toNat - 0x80)) bits

@[simp] theorem tailValue_nil (bits : Nat) : tailValue bits [] = bits := rfl

@[simp] theorem tailValue_cons (bits : Nat) (b : UInt8) (bytes : Bytes) :
    tailValue bits (b :: bytes) = tailValue (bits * 64 + (b.toNat - 0x80)) bytes := by
  unfold tailValue
  rw [List.foldl_cons]

/-! ## One step of the reader -/

section Steps

variable {bits owed low high : Nat} {b : UInt8} {rest : Bytes}

theorem characters_last (hlow : low ≤ b.toNat) (hhigh : b.toNat ≤ high) :
    characters (.inside bits 0 low high) (b :: rest) =
      some (Char.ofNat (bits * 64 + (b.toNat - 0x80))) :: characters .between rest := by
  simp [characters, step, hlow, hhigh]

theorem characters_continued (hlow : low ≤ b.toNat) (hhigh : b.toNat ≤ high) :
    characters (.inside bits (owed + 1) low high) (b :: rest) =
      characters (.inside (bits * 64 + (b.toNat - 0x80)) owed 0x80 0xBF) rest := by
  simp [characters, step, hlow, hhigh]

theorem characters_broken (h : ¬(low ≤ b.toNat ∧ b.toNat ≤ high)) :
    ∃ others, characters (.inside bits owed low high) (b :: rest) = none :: others := by
  exact ⟨_, by simp only [characters, step, if_neg h, List.cons_append]; rfl⟩

theorem characters_first {state : State} (hfirst : first b.toNat = some (.inr state)) :
    characters .between (b :: rest) = characters state rest := by
  simp [characters, step, begin, hfirst]

theorem characters_single {c : Char} (hfirst : first b.toNat = some (.inl c)) :
    characters .between (b :: rest) = some c :: characters .between rest := by
  simp [characters, step, begin, hfirst]

theorem characters_none (hfirst : first b.toNat = none) :
    characters .between (b :: rest) = none :: characters .between rest := by
  simp [characters, step, begin, hfirst]

end Steps

/-! ## The octets of a character -/

section Encoding

variable {c : Char}

theorem toNat_octet {m n : Nat} (hlt : n < 256) (h : n = m) : (UInt8.ofNat n).toNat = m := by
  rw [UInt8.toNat_ofNat']
  omega

theorem encode_one (h : c.toNat ≤ 0x7F) :
    ∃ a : UInt8, String.utf8EncodeChar c = [a] ∧ a.toNat = c.toNat := by
  have hcode : c.val.toNat = c.toNat := rfl
  refine ⟨UInt8.ofNat c.toNat, ?_, toNat_octet (by omega) rfl⟩
  simp only [String.utf8EncodeChar, hcode, if_pos h]

theorem encode_two (h : 0x7F < c.toNat) (h' : c.toNat ≤ 0x7FF) :
    ∃ a b : UInt8, String.utf8EncodeChar c = [a, b] ∧
      a.toNat = 0xC0 + c.toNat / 64 ∧ b.toNat = 0x80 + c.toNat % 64 := by
  have hcode : c.val.toNat = c.toNat := rfl
  refine ⟨UInt8.ofNat (c.toNat / 64 % 32 + 192), UInt8.ofNat (c.toNat % 64 + 128), ?_, ?_, ?_⟩
  · simp only [String.utf8EncodeChar, hcode, if_neg (Nat.not_le.mpr h), if_pos h']
  · exact toNat_octet (by omega) (by omega)
  · exact toNat_octet (by omega) (by omega)

theorem encode_three (h : 0x7FF < c.toNat) (h' : c.toNat ≤ 0xFFFF) :
    ∃ a b d : UInt8, String.utf8EncodeChar c = [a, b, d] ∧ a.toNat = 0xE0 + c.toNat / 4096 ∧
      b.toNat = 0x80 + c.toNat / 64 % 64 ∧ d.toNat = 0x80 + c.toNat % 64 := by
  have hcode : c.val.toNat = c.toNat := rfl
  refine ⟨UInt8.ofNat (c.toNat / 4096 % 16 + 224), UInt8.ofNat (c.toNat / 64 % 64 + 128),
    UInt8.ofNat (c.toNat % 64 + 128), ?_, ?_, ?_, ?_⟩
  · have hsmall : ¬c.toNat ≤ 0x7F := by omega
    simp only [String.utf8EncodeChar, hcode, if_neg hsmall, if_neg (Nat.not_le.mpr h), if_pos h']
  · exact toNat_octet (by omega) (by omega)
  · exact toNat_octet (by omega) (by omega)
  · exact toNat_octet (by omega) (by omega)

theorem encode_four (h : 0xFFFF < c.toNat) :
    ∃ a b d e : UInt8, String.utf8EncodeChar c = [a, b, d, e] ∧
      a.toNat = 0xF0 + c.toNat / 262144 ∧ b.toNat = 0x80 + c.toNat / 4096 % 64 ∧
      d.toNat = 0x80 + c.toNat / 64 % 64 ∧ e.toNat = 0x80 + c.toNat % 64 := by
  have hcode : c.val.toNat = c.toNat := rfl
  have hvalid : c.toNat < 0xD800 ∨ 0xDFFF < c.toNat ∧ c.toNat < 0x110000 := c.valid
  refine ⟨UInt8.ofNat (c.toNat / 262144 % 8 + 240), UInt8.ofNat (c.toNat / 4096 % 64 + 128),
    UInt8.ofNat (c.toNat / 64 % 64 + 128), UInt8.ofNat (c.toNat % 64 + 128), ?_, ?_, ?_, ?_, ?_⟩
  · have hone : ¬c.toNat ≤ 0x7F := by omega
    have htwo : ¬c.toNat ≤ 0x7FF := by omega
    simp only [String.utf8EncodeChar, hcode, if_neg hone, if_neg htwo, if_neg (Nat.not_le.mpr h)]
  · exact toNat_octet (by omega) (by omega)
  · exact toNat_octet (by omega) (by omega)
  · exact toNat_octet (by omega) (by omega)
  · exact toNat_octet (by omega) (by omega)

end Encoding

/-! ## First octets -/

section First

variable {n : Nat}

theorem first_of_two (hlow : 0xC2 ≤ n) (hhigh : n ≤ 0xDF) :
    first n = some (.inr (.inside (n - 0xC0) 0 0x80 0xBF)) := by
  unfold first
  rw [if_neg (by omega), if_pos ⟨hlow, hhigh⟩]

/-- The range of the second octet leaves out what has a shorter form, and the surrogates. -/
theorem first_of_three (h : n ≤ 0xF) :
    first (0xE0 + n) = some (.inr (.inside n 1 (if n = 0 then 0xA0 else 0x80)
      (if n = 0xD then 0x9F else 0xBF))) := by
  by_cases hleast : n = 0
  · subst hleast
    rfl
  by_cases hsurrogate : n = 0xD
  · subst hsurrogate
    rfl
  unfold first
  rw [if_neg (by omega), if_neg (by omega), if_neg (by omega), if_neg (by omega),
    if_pos (by omega), if_neg hleast, if_neg hsurrogate, Nat.add_sub_cancel_left]

/-- The range of the second octet leaves out what has a shorter form, and what lies beyond the last
character. -/
theorem first_of_four (h : n ≤ 4) :
    first (0xF0 + n) = some (.inr (.inside n 2 (if n = 0 then 0x90 else 0x80)
      (if n = 4 then 0x8F else 0xBF))) := by
  by_cases hleast : n = 0
  · subst hleast
    rfl
  by_cases hlast : n = 4
  · subst hlast
    rfl
  unfold first
  rw [if_neg (by omega), if_neg (by omega), if_neg (by omega), if_neg (by omega),
    if_neg (by omega), if_neg (by omega), if_pos (by omega), if_neg hleast, if_neg hlast,
    Nat.add_sub_cancel_left]

end First

/-! ## Reading what was written -/

/-- The octets of a character are read as that character. -/
theorem characters_encode (c : Char) (rest : Bytes) :
    characters .between (String.utf8EncodeChar c ++ rest) = some c :: characters .between rest := by
  -- by the number of octets; the bounds on the second one shut out surrogates and long forms
  have hvalid : c.toNat < 0xD800 ∨ 0xDFFF < c.toNat ∧ c.toNat < 0x110000 := c.valid
  have hself : Char.ofNat c.toNat = c := Char.ofNat_toNat c
  by_cases hone : c.toNat ≤ 0x7F
  · obtain ⟨a, hencode, ha⟩ := encode_one hone
    have hfirst : first a.toNat = some (.inl c) := by
      simp [first, ha, hone, hself]
    rw [hencode]
    exact characters_single hfirst
  by_cases htwo : c.toNat ≤ 0x7FF
  · obtain ⟨a, b, hencode, ha, hb⟩ := encode_two (Nat.not_le.mp hone) htwo
    have hcode : (a.toNat - 0xC0) * 64 + (b.toNat - 0x80) = c.toNat := by omega
    simp only [hencode, List.cons_append, List.nil_append]
    rw [characters_first (first_of_two (by omega) (by omega)),
      characters_last (by omega) (by omega), hcode, hself]
  by_cases hthree : c.toNat ≤ 0xFFFF
  · obtain ⟨a, b, d, hencode, ha, hb, hd⟩ := encode_three (Nat.not_le.mp htwo) hthree
    have hfirst := first_of_three (n := c.toNat / 4096) (by omega)
    have hcode : (c.toNat / 4096 * 64 + (b.toNat - 0x80)) * 64 + (d.toNat - 0x80) = c.toNat := by
      omega
    rw [← ha] at hfirst
    simp only [hencode, List.cons_append, List.nil_append]
    rw [characters_first hfirst, characters_continued (by split <;> omega) (by split <;> omega),
      characters_last (by omega) (by omega), hcode, hself]
  · obtain ⟨a, b, d, e, hencode, ha, hb, hd, he⟩ := encode_four (Nat.not_le.mp hthree)
    have hfirst := first_of_four (n := c.toNat / 262144) (by omega)
    have hcode : ((c.toNat / 262144 * 64 + (b.toNat - 0x80)) * 64 + (d.toNat - 0x80)) * 64 +
        (e.toNat - 0x80) = c.toNat := by
      omega
    rw [← ha] at hfirst
    simp only [hencode, List.cons_append, List.nil_append]
    rw [characters_first hfirst, characters_continued (by split <;> omega) (by split <;> omega),
      characters_continued (by omega) (by omega), characters_last (by omega) (by omega), hcode,
      hself]

/-- The octets of a text are read as its characters, by induction on the text. -/
theorem characters_octets (chars : List Char) :
    characters .between (chars.flatMap String.utf8EncodeChar) = chars.map some := by
  induction chars with
  | nil => rfl
  | cons c chars ih => rw [List.flatMap_cons, characters_encode, ih, List.map_cons]

/-! ## Writing what was read -/

/-- What has been read of a character before the reader came to a state: with whichever octets the
state takes, it makes up the octets of a character. -/
def Pending : State → Bytes → Prop
  | .between, before => before = []
  | .inside bits owed low high, before => ∀ b rest, low ≤ b.toNat → b.toNat ≤ high →
    rest.length = owed → (∀ tail ∈ rest, IsTail tail) →
      String.utf8EncodeChar (Char.ofNat (tailValue bits (b :: rest))) = before ++ b :: rest

theorem pending_nil : Pending .between [] := rfl

section Begun

variable {b : UInt8} {state : State}

/-- First octets of longer characters, by the number of octets to come. -/
theorem first_eq_state {n : Nat} (h : first n = some (.inr state)) :
    (0xC2 ≤ n ∧ n ≤ 0xDF ∧ state = .inside (n - 0xC0) 0 0x80 0xBF) ∨
    (∃ k ≤ 0xF, n = 0xE0 + k ∧ state = .inside k 1 (if k = 0 then 0xA0 else 0x80)
      (if k = 0xD then 0x9F else 0xBF)) ∨
    ∃ k ≤ 4, n = 0xF0 + k ∧ state = .inside k 2 (if k = 0 then 0x90 else 0x80)
      (if k = 4 then 0x8F else 0xBF) := by
  -- the leading octets of two, three and four octets, and all others
  by_cases htwo : 0xC2 ≤ n ∧ n ≤ 0xDF
  · rw [first_of_two htwo.1 htwo.2] at h
    cases h
    exact Or.inl ⟨htwo.1, htwo.2, rfl⟩
  by_cases hthree : 0xE0 ≤ n ∧ n ≤ 0xEF
  · obtain ⟨k, rfl⟩ := Nat.exists_eq_add_of_le hthree.1
    have hk : k ≤ 0xF := by omega
    rw [first_of_three hk] at h
    cases h
    exact Or.inr (Or.inl ⟨k, hk, rfl, rfl⟩)
  by_cases hfour : 0xF0 ≤ n ∧ n ≤ 0xF4
  · obtain ⟨k, rfl⟩ := Nat.exists_eq_add_of_le hfour.1
    have hk : k ≤ 4 := by omega
    rw [first_of_four hk] at h
    cases h
    exact Or.inr (Or.inr ⟨k, hk, rfl, rfl⟩)
  · unfold first at h
    by_cases hone : n ≤ 0x7F
    · rw [if_pos hone] at h
      cases h
    · rw [if_neg hone, if_neg htwo, if_neg (by omega), if_neg (by omega), if_neg (by omega),
        if_neg (by omega), if_neg (by omega), if_neg (by omega)] at h
      cases h

theorem first_eq_char {n : Nat} {c : Char} (h : first n = some (.inl c)) :
    n ≤ 0x7F ∧ c = Char.ofNat n := by
  unfold first at h
  split at h
  · rename_i hone
    cases h
    exact ⟨hone, rfl⟩
  · -- every other first octet leads to a state
    repeat' split at h
    all_goals cases h

/-- The octets of a character of two, from the second one on. -/
theorem pending_two (hlow : 0xC2 ≤ b.toNat) (hhigh : b.toNat ≤ 0xDF) :
    Pending (.inside (b.toNat - 0xC0) 0 0x80 0xBF) [b] := by
  intro d rest hdlow hdhigh hrest _
  obtain rfl := List.eq_nil_of_length_eq_zero hrest
  simp only [tailValue_cons, tailValue_nil]
  have hcode := toNat_ofNat (n := (b.toNat - 0xC0) * 64 + (d.toNat - 0x80)) (Or.inl (by omega))
  generalize Char.ofNat ((b.toNat - 0xC0) * 64 + (d.toNat - 0x80)) = c at hcode
  obtain ⟨b', d', hencode, hb, hd⟩ := encode_two (c := c) (by omega) (by omega)
  have hb' : b' = b := UInt8.toNat_inj.mp (by omega)
  have hd' : d' = d := UInt8.toNat_inj.mp (by omega)
  rw [hencode, hb', hd', List.singleton_append]

theorem pending_three {k : Nat} (hk : k ≤ 0xF) (hb : b.toNat = 0xE0 + k) :
    Pending (.inside k 1 (if k = 0 then 0xA0 else 0x80) (if k = 0xD then 0x9F else 0xBF)) [b] := by
  intro d rest hdlow hdhigh hrest htails
  obtain ⟨e, rfl⟩ := List.length_eq_one_iff.mp hrest
  have he : IsTail e := htails e List.mem_cons_self
  unfold IsTail at he
  -- a shorter form and the surrogates lie outside the range of the second octet
  have hleast : 0x800 ≤ (k * 64 + (d.toNat - 0x80)) * 64 + (e.toNat - 0x80) := by
    split at hdlow <;> omega
  have hvalid : ((k * 64 + (d.toNat - 0x80)) * 64 + (e.toNat - 0x80)).isValidChar := by
    unfold Nat.isValidChar
    split at hdhigh <;> split at hdlow <;> omega
  simp only [tailValue_cons, tailValue_nil]
  have hcode := toNat_ofNat hvalid
  generalize Char.ofNat ((k * 64 + (d.toNat - 0x80)) * 64 + (e.toNat - 0x80)) = c at hcode
  have hrange : 0x80 ≤ d.toNat ∧ d.toNat ≤ 0xBF := by
    split at hdhigh <;> split at hdlow <;> omega
  obtain ⟨b', d', e', hencode, hb', hd', he'⟩ := encode_three (c := c) (by omega) (by omega)
  have hbsame : b' = b := UInt8.toNat_inj.mp (by omega)
  have hdsame : d' = d := UInt8.toNat_inj.mp (by omega)
  have hesame : e' = e := UInt8.toNat_inj.mp (by omega)
  rw [hencode, hbsame, hdsame, hesame, List.singleton_append]

theorem pending_four {k : Nat} (hk : k ≤ 4) (hb : b.toNat = 0xF0 + k) :
    Pending (.inside k 2 (if k = 0 then 0x90 else 0x80) (if k = 4 then 0x8F else 0xBF)) [b] := by
  intro d rest hdlow hdhigh hrest htails
  obtain ⟨e, f, rfl⟩ : ∃ e f, rest = [e, f] := by
    match rest, hrest with
    | [e, f], _ => exact ⟨e, f, rfl⟩
  have he : IsTail e := htails e List.mem_cons_self
  have hf : IsTail f := htails f (List.mem_cons_of_mem e List.mem_cons_self)
  unfold IsTail at he hf
  -- a shorter form and what lies beyond the last character are outside the range
  have hrange : 0x80 ≤ d.toNat ∧ d.toNat ≤ 0xBF ∧ (k = 0 → 0x90 ≤ d.toNat) ∧
      (k = 4 → d.toNat ≤ 0x8F) := by
    split at hdhigh <;> split at hdlow <;> omega
  simp only [tailValue_cons, tailValue_nil]
  have hcode := toNat_ofNat (n := ((k * 64 + (d.toNat - 0x80)) * 64 + (e.toNat - 0x80)) * 64 +
    (f.toNat - 0x80)) (Or.inr (by omega))
  generalize Char.ofNat (((k * 64 + (d.toNat - 0x80)) * 64 + (e.toNat - 0x80)) * 64 +
    (f.toNat - 0x80)) = c at hcode
  obtain ⟨b', d', e', f', hencode, hb', hd', he', hf'⟩ := encode_four (c := c) (by omega)
  have hbsame : b' = b := UInt8.toNat_inj.mp (by omega)
  have hdsame : d' = d := UInt8.toNat_inj.mp (by omega)
  have hesame : e' = e := UInt8.toNat_inj.mp (by omega)
  have hfsame : f' = f := UInt8.toNat_inj.mp (by omega)
  rw [hencode, hbsame, hdsame, hesame, hfsame, List.singleton_append]

theorem pending_first (h : first b.toNat = some (.inr state)) : Pending state [b] := by
  rcases first_eq_state h with ⟨hlow, hhigh, rfl⟩ | ⟨k, hk, hb, rfl⟩ | ⟨k, hk, hb, rfl⟩
  · exact pending_two hlow hhigh
  · exact pending_three hk hb
  · exact pending_four hk hb

theorem encode_first {c : Char} (h : first b.toNat = some (.inl c)) :
    String.utf8EncodeChar c = [b] := by
  obtain ⟨hsmall, rfl⟩ := first_eq_char h
  have hcode : (Char.ofNat b.toNat).toNat = b.toNat := toNat_ofNat (Or.inl (by omega))
  obtain ⟨b', hencode, hb⟩ := encode_one (c := Char.ofNat b.toNat) (by omega)
  have hsame : b' = b := UInt8.toNat_inj.mp (by omega)
  rw [hencode, hsame]

/-- One more octet of a character, other ones being to come. -/
theorem Pending.continued {bits owed low high : Nat} {before : Bytes}
    (h : Pending (.inside bits (owed + 1) low high) before) (hlow : low ≤ b.toNat)
    (hhigh : b.toNat ≤ high) :
    Pending (.inside (bits * 64 + (b.toNat - 0x80)) owed 0x80 0xBF) (before ++ [b]) := by
  intro d rest hdlow hdhigh hrest htails
  have hall : ∀ tail ∈ d :: rest, IsTail tail :=
    List.forall_mem_cons.mpr ⟨⟨hdlow, hdhigh⟩, htails⟩
  have hwhole := h b (d :: rest) hlow hhigh (by rw [List.length_cons, hrest]) hall
  rw [tailValue_cons] at hwhole
  rw [List.append_assoc, List.singleton_append]
  exact hwhole

/-- The last octet of a character. -/
theorem Pending.last {bits low high : Nat} {before : Bytes}
    (h : Pending (.inside bits 0 low high) before) (hlow : low ≤ b.toNat)
    (hhigh : b.toNat ≤ high) :
    String.utf8EncodeChar (Char.ofNat (bits * 64 + (b.toNat - 0x80))) = before ++ [b] := by
  have hwhole := h b [] hlow hhigh rfl fun _ hmem => absurd hmem List.not_mem_nil
  rw [tailValue_cons, tailValue_nil] at hwhole
  exact hwhole

end Begun

/-- What is read without a fault are the octets of the characters read, by induction on the octets;
of a character that is not complete yet, those before have been read. -/
theorem eq_encode_of_characters {state : State} {before bytes : Bytes} {chars : List Char}
    (hpending : Pending state before) (h : characters state bytes = chars.map some) :
    before ++ bytes = chars.flatMap String.utf8EncodeChar := by
  -- `before` are the octets of a character that is not complete, which the state stands for
  induction bytes generalizing state before chars with
  | nil =>
      cases state with
      | between =>
          obtain rfl : before = [] := hpending
          obtain rfl : chars = [] := List.map_eq_nil_iff.mp h.symm
          rfl
      -- the text may not end inside a character
      | inside bits owed low high =>
          cases chars <;> simp [characters] at h
  | cons b bytes ih =>
      cases state with
      | between =>
          obtain rfl : before = [] := hpending
          cases hfirst : first b.toNat with
          | none =>
              rw [characters_none hfirst] at h
              cases chars <;> simp at h
          | some begun =>
              cases begun with
              | inl c =>
                  rw [characters_single hfirst] at h
                  obtain ⟨c', chars', rfl, hc, hrest⟩ := List.map_eq_cons_iff.mp h.symm
                  obtain rfl : c' = c := Option.some.inj hc
                  rw [List.flatMap_cons, encode_first hfirst, ← ih pending_nil hrest.symm,
                    List.singleton_append, List.nil_append, List.nil_append]
              | inr state =>
                  rw [characters_first hfirst] at h
                  exact ih (pending_first hfirst) h
      | inside bits owed low high =>
          by_cases hrange : low ≤ b.toNat ∧ b.toNat ≤ high
          · cases owed with
            | zero =>
                rw [characters_last hrange.1 hrange.2] at h
                obtain ⟨c, chars', rfl, hc, hrest⟩ := List.map_eq_cons_iff.mp h.symm
                have hcode := Option.some.inj hc
                rw [List.flatMap_cons, hcode, hpending.last hrange.1 hrange.2,
                  ← ih pending_nil hrest.symm, List.append_assoc, List.singleton_append,
                  List.nil_append]
            | succ owed =>
                rw [characters_continued hrange.1 hrange.2] at h
                rw [← ih (hpending.continued hrange.1 hrange.2) h, List.append_assoc,
                  List.singleton_append]
          · obtain ⟨others, hbroken⟩ := characters_broken hrange
            rw [hbroken] at h
            cases chars <;> simp at h

/-! ## Texts -/

/-- All the options hold something. -/
theorem mapM_id_eq_some_iff {options : List (Option Char)} {chars : List Char} :
    options.mapM id = some chars ↔ options = chars.map some := by
  induction options generalizing chars with
  | nil => cases chars <;> simp
  | cons option options ih =>
      have hcons : (option :: options).mapM id =
          option.bind fun c => (options.mapM id).map (c :: ·) := by
        rw [List.mapM_cons]
        cases option with
        | none => rfl
        | some c => cases options.mapM id <;> simp
      rw [hcons]
      cases option with
      | none => cases chars <;> simp
      | some c =>
          rw [Option.bind_some, Option.map_eq_some_iff]
          cases chars with
          | nil => simp
          | cons first chars => simp [ih, and_comm, and_assoc]

/-- Reading accepts exactly the octets that a text is written in, and gives that text. -/
theorem decode?_eq_some_iff {bytes : Bytes} {text : String} :
    decode? bytes = some text ↔ bytes = octets text := by
  unfold decode? octets
  rw [Option.map_eq_some_iff]
  constructor
  · rintro ⟨chars, hchars, rfl⟩
    have hread := mapM_id_eq_some_iff.mp hchars
    have hbytes := eq_encode_of_characters pending_nil hread
    rw [String.toList_ofList]
    exact hbytes
  · rintro rfl
    refine ⟨text.toList, ?_, String.ofList_toList⟩
    rw [characters_octets]
    exact mapM_id_eq_some_iff.mpr rfl

end Utf8

end GuestNat.Text
