import GuestNat.Proofs.JsonGrammar
import GuestNat.Proofs.Utf8Reading
import GuestNat.Settings.JsonString

/-!
# Strings of a document

The reader of strings accepts exactly the ways to write a string and gives its characters.

* `hexUnit?_eq_some_iff`: four hexadecimal digits and their value;
* `body_written`: a written string is read up to its closing quotation mark;
* `Seen`: what has been read of a character, given the state of the reader;
* `step_sound`, `written_of_body`: what the reader took from the text is a way to write the
  characters that it gave.
-/

namespace GuestNat.JsonString

open Json (HexDigit HexUnit Spelled leadingSurrogate trailingSurrogate escapes)

/-! ## Escapes -/

section Hexadecimal

variable {c : Char} {n : Nat}

theorem toNat_lt_of_hexDigit? (h : hexDigit? c = some n) : c.toNat < 128 := by
  have hrange : ∀ {last : Char}, c ≤ last → last.toNat < 128 → c.toNat < 128 :=
    fun hle hlast => Nat.lt_of_le_of_lt hle hlast
  unfold hexDigit? at h
  -- the three ranges of digits are ASCII
  split at h
  · rename_i hdecimal
    exact hrange hdecimal.2 (by decide)
  split at h
  · rename_i hsmall
    exact hrange hsmall.2 (by decide)
  split at h
  · rename_i hcapital
    exact hrange hcapital.2 (by decide)
  · cases h

theorem hexDigit?_eq_some_iff : hexDigit? c = some n ↔ HexDigit c n := by
  constructor
  · intro h
    -- so it is enough to try the ASCII characters
    have hascii : ∀ k < 128, ∀ m ∈ hexDigit? (Char.ofNat k),
        m < 16 ∧ (Char.ofNat k = m.digitChar ∨ Char.ofNat k = m.digitChar.toUpper) := by
      decide
    have hdigit := hascii c.toNat (toNat_lt_of_hexDigit? h)
    rw [Char.ofNat_toNat] at hdigit
    exact hdigit n h
  · have hdigits : ∀ n < 16, hexDigit? n.digitChar = some n ∧
        hexDigit? n.digitChar.toUpper = some n := by decide
    rintro ⟨hn, rfl | rfl⟩
    · exact (hdigits n hn).1
    · exact (hdigits n hn).2

theorem utf8Size_of_hexDigit (h : HexDigit c n) : c.utf8Size = 1 := by
  have hdigits : ∀ n < 16, n.digitChar.utf8Size = 1 ∧ n.digitChar.toUpper.utf8Size = 1 := by decide
  obtain ⟨hn, rfl | rfl⟩ := h
  · exact (hdigits n hn).1
  · exact (hdigits n hn).2

theorem hexUnit?_eq_some_iff {ds : List Char} : hexUnit? ds = some n ↔ HexUnit ds n := by
  constructor
  · intro h
    unfold hexUnit? at h
    split at h
    · rename_i a b c d
      simp only [Option.bind_eq_bind, Option.bind_eq_some_iff, hexDigit?_eq_some_iff,
        Option.pure_def, Option.some_inj] at h
      obtain ⟨w, hw, x, hx, y, hy, z, hz, rfl⟩ := h
      have hvalue : (w * 16 + x) * 256 + y * 16 + z = ((w * 16 + x) * 16 + y) * 16 + z := by omega
      rw [hvalue]
      exact HexUnit.four hw hx hy hz
    · cases h
  · rintro ⟨ha, hb, hc, hd⟩
    simp only [hexUnit?, hexDigit?_eq_some_iff.mpr ha, hexDigit?_eq_some_iff.mpr hb,
      hexDigit?_eq_some_iff.mpr hc, hexDigit?_eq_some_iff.mpr hd]
    simp
    omega

theorem lt_of_hexUnit {ds : List Char} (h : HexUnit ds n) : n < 0x10000 := by
  obtain ⟨ha, hb, hc, hd⟩ := h
  have hw := ha.1
  have hx := hb.1
  have hy := hc.1
  have hz := hd.1
  omega

end Hexadecimal

theorem escaped?_eq_some_iff {l c : Char} : escaped? l = some c ↔ (l, c) ∈ escapes := by
  constructor
  · intro h
    unfold escaped? at h
    split at h <;> first | (cases h; done) | (obtain rfl := Option.some.inj h; decide)
  · have hall : ∀ entry ∈ escapes, escaped? entry.1 = some entry.2 := by decide
    intro h
    exact hall (l, c) h

/-! ## Surrogates -/

section Surrogates

variable {c : Char} {high low : Nat}

theorem isLeading_iff {unit : Nat} : isLeading unit = true ↔ 0xD800 ≤ unit ∧ unit ≤ 0xDBFF := by
  simp [isLeading]

theorem isTrailing_iff {unit : Nat} : isTrailing unit = true ↔ 0xDC00 ≤ unit ∧ unit ≤ 0xDFFF := by
  simp [isTrailing]

theorem isTrailing_of_isLeading {unit : Nat} (h : isLeading unit = true) :
    isTrailing unit = false := by
  rw [isLeading_iff] at h
  simp [isTrailing]
  omega

/-- The two surrogates of a character stand for it. -/
theorem pair_surrogates (h : 0x10000 ≤ c.toNat) : isLeading (leadingSurrogate c) = true ∧
    isTrailing (trailingSurrogate c) = true ∧
    pair (leadingSurrogate c) (trailingSurrogate c) = c := by
  -- a character beyond the basic plane is at most U+10FFFF, so its bits fit the two units
  have hvalid : c.toNat < 0xD800 ∨ 0xDFFF < c.toNat ∧ c.toNat < 0x110000 := c.valid
  have hcode : 0x10000 + (leadingSurrogate c - 0xD800) * 0x400 + (trailingSurrogate c - 0xDC00) =
      c.toNat := by
    unfold leadingSurrogate trailingSurrogate
    omega
  refine ⟨isLeading_iff.mpr ?_, isTrailing_iff.mpr ?_, ?_⟩
  · unfold leadingSurrogate
    omega
  · unfold trailingSurrogate
    omega
  · unfold pair
    rw [hcode, Char.ofNat_toNat]

/-- Two surrogates are those of the character that they stand for. -/
theorem surrogates_pair (hhigh : isLeading high = true) (hlow : isTrailing low = true) :
    0x10000 ≤ (pair high low).toNat ∧ leadingSurrogate (pair high low) = high ∧
      trailingSurrogate (pair high low) = low := by
  rw [isLeading_iff] at hhigh
  rw [isTrailing_iff] at hlow
  have hcode : (pair high low).toNat = 0x10000 + (high - 0xD800) * 0x400 + (low - 0xDC00) :=
    Text.toNat_ofNat (Or.inr (by omega))
  unfold leadingSurrogate trailingSurrogate
  omega

/-- A unit that is no surrogate is the number of a character. -/
theorem toNat_of_no_surrogate {unit : Nat} (hlt : unit < 0x10000)
    (hleading : isLeading unit = false) (htrailing : isTrailing unit = false) :
    (Char.ofNat unit).toNat = unit := by
  have hleading' : ¬(0xD800 ≤ unit ∧ unit ≤ 0xDBFF) := fun h => by
    rw [isLeading_iff.mpr h] at hleading
    cases hleading
  have htrailing' : ¬(0xDC00 ≤ unit ∧ unit ≤ 0xDFFF) := fun h => by
    rw [isTrailing_iff.mpr h] at htrailing
    cases htrailing
  have hvalid : unit.isValidChar := by
    unfold Nat.isValidChar
    omega
  exact Text.toNat_ofNat hvalid

/-- The number of a character is no surrogate. -/
theorem no_surrogate (c : Char) :
    isLeading c.toNat = false ∧ isTrailing c.toNat = false := by
  have hvalid : c.toNat < 0xD800 ∨ 0xDFFF < c.toNat ∧ c.toNat < 0x110000 := c.valid
  simp [isLeading, isTrailing]
  omega

end Surrogates

/-! ## Reading what was written -/

section Reading

variable {state next : State} {c : Char} {out cs written rest : List Char}

theorem body_cons (hopen : ¬(state = .plain ∧ c = '"')) (hstep : step state c = some (out, next)) :
    body state (c :: rest) = (body next rest).map fun (cs, rest) => (out ++ cs, rest) := by
  rw [body, if_neg hopen, hstep]

/-- A character that completes none. -/
theorem body_silent (hopen : ¬(state = .plain ∧ c = '"')) (hstep : step state c = some ([], next)) :
    body state (c :: rest) = body next rest := by
  rw [body_cons hopen hstep]
  cases body next rest <;> rfl

theorem size_append (first second : List Char) :
    size (first ++ second) = size first + size second := by
  unfold size
  rw [String.ofList_append, String.utf8ByteSize_append]

theorem size_digits {ds : List Char} (h : ∀ d ∈ ds, ∃ n, HexDigit d n) : size ds = ds.length := by
  induction ds with
  | nil => rfl
  | cons d ds ih =>
      obtain ⟨n, hn⟩ := h d List.mem_cons_self
      have hone : size [d] = d.utf8Size := by
        unfold size
        exact String.utf8ByteSize_singleton
      rw [← List.singleton_append, size_append, hone, utf8Size_of_hexDigit hn,
        ih fun d' hd' => h d' (List.mem_cons_of_mem d hd'), List.length_append,
        List.length_singleton]

theorem step_unit_few {leading : Option Nat} {seen : List Char} (h : size (seen ++ [c]) < 4) :
    step (.unit leading seen) c = some ([], .unit leading (seen ++ [c])) := by
  rw [step]
  exact if_pos h

theorem step_unit_last {leading : Option Nat} {seen : List Char} (h : ¬size (seen ++ [c]) < 4) :
    step (.unit leading seen) c = (hexUnit? (seen ++ [c])).bind (completeUnit leading) := by
  rw [step]
  exact if_neg h

/-- Four digits complete an escape. -/
theorem body_unit {leading : Option Nat} {ds : List Char} {unit : Nat} (hunit : HexUnit ds unit)
    (hcomplete : completeUnit leading unit = some (out, next)) :
    body (.unit leading []) (ds ++ rest) =
      (body next rest).map fun (cs, rest) => (out ++ cs, rest) := by
  have hvalue : hexUnit? ds = some unit := hexUnit?_eq_some_iff.mpr hunit
  obtain @⟨a, b, c, d, w, x, y, z, ha, hb, hc, hd⟩ := hunit
  -- inside a unit no character can close the string
  have hopen : ∀ {seen d}, ¬(State.unit leading seen = .plain ∧ d = '"') := fun h => nomatch h.1
  have hdigits : ∀ e ∈ [a, b, c, d], ∃ n, HexDigit e n := by
    simp only [List.forall_mem_cons]
    exact ⟨⟨w, ha⟩, ⟨x, hb⟩, ⟨y, hc⟩, ⟨z, hd⟩, fun _ h => absurd h List.not_mem_nil⟩
  have hsize : ∀ {ds}, (∀ e ∈ ds, e ∈ [a, b, c, d]) → size ds = ds.length :=
    fun h => size_digits fun e he => hdigits e (h e he)
  have hone : size [a] = 1 := hsize (by simp)
  have htwo : size [a, b] = 2 := hsize (by simp)
  have hthree : size [a, b, c] = 3 := hsize (by simp)
  have hfour : size [a, b, c, d] = 4 := hsize (by simp)
  have hlast : step (.unit leading [a, b, c]) d = some (out, next) := by
    rw [step_unit_last (by simp [hfour]), List.cons_append, List.cons_append, List.cons_append,
      List.nil_append, hvalue, Option.bind_some, hcomplete]
  simp only [List.cons_append, List.nil_append]
  -- three digits are kept in the state, the fourth completes the unit
  rw [body_silent hopen (step_unit_few (by simp [hone])), List.nil_append,
    body_silent hopen (step_unit_few (by simp [htwo])), List.cons_append, List.nil_append,
    body_silent hopen (step_unit_few (by simp [hthree])), List.cons_append, List.cons_append,
    List.nil_append, body_cons hopen hlast]

/-- A written string is read up to its closing quotation mark, by induction on its characters. -/
theorem body_written (h : Spelled cs out) :
    body .plain (out ++ '"' :: rest) = .ok (cs, rest) := by
  have hescape : ¬(State.plain = .plain ∧ '\\' = '"') := by decide
  have hnext : ∀ {state c}, state ≠ State.plain → ¬(state = .plain ∧ c = '"') :=
    fun h hopen => h hopen.1
  -- one case for each way a character may be spelled; the reader is back in `plain` behind it
  induction h with
  | nil => rfl
  | @plain c cs written hquote hbackslash hcontrol _ ih =>
      have hstep : step .plain c = some ([c], .plain) := by
        rw [step, if_neg hbackslash, if_neg (Nat.not_lt.mpr hcontrol)]
      rw [List.cons_append, body_cons (fun hopen => hquote hopen.2) hstep, ih]
      rfl
  | @letter l c cs written hescaped _ ih =>
      have hletter : l ≠ 'u' := by
        rintro rfl
        cases escaped?_eq_some_iff.mpr hescaped
      have hstep : step .escape l = some ([c], .plain) := by
        rw [step, if_neg hletter, escaped?_eq_some_iff.mpr hescaped]
        rfl
      rw [List.cons_append, List.cons_append, body_silent hescape rfl,
        body_cons (hnext (by decide)) hstep, ih]
      rfl
  | @unit c cs ds written hunit _ ih =>
      obtain ⟨hleading, htrailing⟩ := no_surrogate c
      have hcomplete : completeUnit none c.toNat = some ([c], .plain) := by
        simp [completeUnit, hleading, htrailing, Char.ofNat_toNat]
      simp only [List.cons_append, List.append_assoc]
      rw [body_silent hescape rfl, body_silent (hnext (by decide)) rfl, body_unit hunit hcomplete,
        ih]
      rfl
  | @surrogates c cs high low written hbeyond hhigh hlow _ ih =>
      obtain ⟨hleading, htrailing, hpair⟩ := pair_surrogates hbeyond
      -- the first unit waits for the second, which gives the character
      have hfirst : completeUnit none (leadingSurrogate c) =
          some ([], .halfway (leadingSurrogate c)) := by
        simp [completeUnit, hleading, isTrailing_of_isLeading hleading]
      have hsecond : completeUnit (some (leadingSurrogate c)) (trailingSurrogate c) =
          some ([c], .plain) := by
        simp [completeUnit, htrailing, hpair]
      simp only [List.cons_append, List.append_assoc]
      rw [body_silent hescape rfl, body_silent (hnext (by decide)) rfl, body_unit hhigh hfirst,
        body_silent (hnext (by simp)) rfl, body_silent (hnext (by simp)) rfl,
        body_unit hlow hsecond, ih]
      rfl

end Reading

/-! ## Writing what was read -/

/-- What has been read since the last complete character, for a state of the reader. -/
def Seen : State → List Char → Prop
  | .plain, before => before = []
  | .escape, before => before = ['\\']
  | .unit none seen, before => before = '\\' :: 'u' :: seen
  | .unit (some high) seen, before => ∃ ds, HexUnit ds high ∧ isLeading high = true ∧
    before = '\\' :: 'u' :: ds ++ '\\' :: 'u' :: seen
  | .halfway high, before => ∃ ds, HexUnit ds high ∧ isLeading high = true ∧
    before = '\\' :: 'u' :: ds
  | .halfwayEscape high, before => ∃ ds, HexUnit ds high ∧ isLeading high = true ∧
    before = '\\' :: 'u' :: ds ++ ['\\']

theorem seen_plain : Seen .plain [] := rfl

section Steps

variable {state next : State} {c : Char} {before out : List Char}

theorem spelled_append {first second written rest : List Char} (h : Spelled first written)
    (h' : Spelled second rest) : Spelled (first ++ second) (written ++ rest) := by
  induction h with
  | nil => exact h'
  | plain hquote hbackslash hcontrol _ ih => exact .plain hquote hbackslash hcontrol ih
  | letter hescape _ ih => exact .letter hescape ih
  | unit hunit _ ih =>
      rw [List.append_assoc]
      exact .unit hunit ih
  | surrogates hbeyond hhigh hlow _ ih =>
      rw [List.append_assoc]
      exact .surrogates hbeyond hhigh hlow ih

/-- What a character leads to: what was seen with it is a way to write the characters that it
completes, or is still on the way to a character. -/
def Progress (before : List Char) (c : Char) (out : List Char) (next : State) : Prop :=
  (out = [] ∧ Seen next (before ++ [c])) ∨ (next = .plain ∧ Spelled out (before ++ [c]))

theorem progress_plain (hquote : c ≠ '"') (hstep : step .plain c = some (out, next)) :
    Progress [] c out next := by
  rw [step] at hstep
  split at hstep
  · rename_i hbackslash
    cases hstep
    exact Or.inl ⟨rfl, by rw [hbackslash]; rfl⟩
  · rename_i hbackslash
    split at hstep
    · cases hstep
    · rename_i hcontrol
      cases hstep
      exact Or.inr ⟨rfl, .plain hquote hbackslash (Nat.not_lt.mp hcontrol) .nil⟩

theorem progress_escape (hstep : step .escape c = some (out, next)) :
    Progress ['\\'] c out next := by
  rw [step] at hstep
  split at hstep
  · rename_i hu
    cases hstep
    exact Or.inl ⟨rfl, by rw [hu]; rfl⟩
  · obtain ⟨d, hd, heq⟩ := Option.map_eq_some_iff.mp hstep
    cases heq
    exact Or.inr ⟨rfl, .letter (escaped?_eq_some_iff.mp hd) .nil⟩

/-- The escape of one unit is that of a character, or of a leading surrogate. -/
theorem progress_unit {seen : List Char} (hstep : step (.unit none seen) c = some (out, next)) :
    Progress ('\\' :: 'u' :: seen) c out next := by
  -- before the fourth digit nothing is told; at it the unit is a leading surrogate, which waits,
  -- or a character, as a trailing one alone is refused
  by_cases hfew : size (seen ++ [c]) < 4
  · rw [step_unit_few hfew] at hstep
    cases hstep
    exact Or.inl ⟨rfl, rfl⟩
  · rw [step_unit_last hfew] at hstep
    obtain ⟨unit, hvalue, hcomplete⟩ := Option.bind_eq_some_iff.mp hstep
    have hunit : HexUnit (seen ++ [c]) unit := hexUnit?_eq_some_iff.mp hvalue
    rw [completeUnit] at hcomplete
    split at hcomplete
    · cases hcomplete
    · rename_i htrailing
      split at hcomplete
      · rename_i hleading
        cases hcomplete
        exact Or.inl ⟨rfl, seen ++ [c], hunit, hleading, rfl⟩
      · rename_i hleading
        cases hcomplete
        have hcode := toNat_of_no_surrogate (lt_of_hexUnit hunit) (Bool.eq_false_iff.mpr hleading)
          (Bool.eq_false_iff.mpr htrailing)
        rw [← hcode] at hunit
        have hspelled := Spelled.unit hunit .nil
        rw [List.append_nil] at hspelled
        exact Or.inr ⟨rfl, hspelled⟩

/-- The escape behind a leading surrogate completes it. -/
theorem progress_second {high : Nat} {ds seen : List Char} (hds : HexUnit ds high)
    (hhigh : isLeading high = true) (hstep : step (.unit (some high) seen) c = some (out, next)) :
    Progress ('\\' :: 'u' :: ds ++ '\\' :: 'u' :: seen) c out next := by
  by_cases hfew : size (seen ++ [c]) < 4
  · rw [step_unit_few hfew] at hstep
    cases hstep
    exact Or.inl ⟨rfl, ds, hds, hhigh, by simp⟩
  · rw [step_unit_last hfew] at hstep
    obtain ⟨low, hvalue, hcomplete⟩ := Option.bind_eq_some_iff.mp hstep
    have hunit : HexUnit (seen ++ [c]) low := hexUnit?_eq_some_iff.mp hvalue
    rw [completeUnit] at hcomplete
    -- a leading surrogate must be followed by a trailing one
    split at hcomplete
    · rename_i hlow
      cases hcomplete
      obtain ⟨hbeyond, hleading, htrailing⟩ := surrogates_pair hhigh hlow
      rw [← hleading] at hds
      rw [← htrailing] at hunit
      have hspelled := Spelled.surrogates hbeyond hds hunit .nil
      exact Or.inr ⟨rfl, by simpa using hspelled⟩
    · cases hcomplete

theorem progress_halfway {high : Nat} {ds : List Char} (hds : HexUnit ds high)
    (hhigh : isLeading high = true) (hstep : step (.halfway high) c = some (out, next)) :
    Progress ('\\' :: 'u' :: ds) c out next := by
  rw [step] at hstep
  split at hstep
  · rename_i hbackslash
    cases hstep
    exact Or.inl ⟨rfl, ds, hds, hhigh, by rw [hbackslash]⟩
  · cases hstep

theorem progress_halfwayEscape {high : Nat} {ds : List Char} (hds : HexUnit ds high)
    (hhigh : isLeading high = true) (hstep : step (.halfwayEscape high) c = some (out, next)) :
    Progress ('\\' :: 'u' :: ds ++ ['\\']) c out next := by
  rw [step] at hstep
  split at hstep
  · rename_i hu
    cases hstep
    exact Or.inl ⟨rfl, ds, hds, hhigh, by simp [hu]⟩
  · cases hstep

theorem step_sound (hseen : Seen state before) (hopen : ¬(state = .plain ∧ c = '"'))
    (hstep : step state c = some (out, next)) : Progress before c out next := by
  -- `Seen` says which characters have led to each state
  cases state with
  | plain =>
      obtain rfl : before = [] := hseen
      exact progress_plain (fun hquote => hopen ⟨rfl, hquote⟩) hstep
  | escape =>
      obtain rfl : before = ['\\'] := hseen
      exact progress_escape hstep
  | unit leading seen =>
      cases leading with
      | none =>
          obtain rfl : before = '\\' :: 'u' :: seen := hseen
          exact progress_unit hstep
      | some high =>
          obtain ⟨ds, hds, hhigh, rfl⟩ := hseen
          exact progress_second hds hhigh hstep
  | halfway high =>
      obtain ⟨ds, hds, hhigh, rfl⟩ := hseen
      exact progress_halfway hds hhigh hstep
  | halfwayEscape high =>
      obtain ⟨ds, hds, hhigh, rfl⟩ := hseen
      exact progress_halfwayEscape hds hhigh hstep

end Steps

/-- What was read up to a closing quotation mark is a way to write the characters given, by
induction on the text. -/
theorem written_of_body {state : State} {before cs chars rest : List Char}
    (hseen : Seen state before) (h : body state cs = .ok (chars, rest)) :
    ∃ written, before ++ cs = written ++ '"' :: rest ∧ Spelled chars written := by
  -- `before` is what has been read without a character being told yet
  induction cs generalizing state before chars with
  | nil => cases h
  | cons c cs ih =>
      by_cases hclosed : state = .plain ∧ c = '"'
      · obtain ⟨rfl, rfl⟩ := hclosed
        obtain rfl : before = [] := hseen
        rw [body, if_pos ⟨rfl, rfl⟩] at h
        cases h
        exact ⟨[], rfl, .nil⟩
      · cases hstep : step state c with
        | none =>
            rw [body, if_neg hclosed, hstep] at h
            cases h
        | some reached =>
            obtain ⟨out, next⟩ := reached
            rw [body_cons hclosed hstep] at h
            cases hbody : body next cs with
            | error fault =>
                rw [hbody] at h
                cases h
            | ok read =>
                obtain ⟨others, rest'⟩ := read
                rw [hbody] at h
                cases h
                -- either this character is kept for later, or it completes what was kept
                rcases step_sound hseen hclosed hstep with ⟨rfl, hnext⟩ | ⟨rfl, hout⟩
                · obtain ⟨written, hwritten, hspelled⟩ := ih hnext hbody
                  rw [List.append_assoc, List.singleton_append] at hwritten
                  exact ⟨written, hwritten, hspelled⟩
                · obtain ⟨written, hwritten, hspelled⟩ := ih seen_plain hbody
                  refine ⟨before ++ [c] ++ written, ?_, spelled_append hout hspelled⟩
                  rw [List.nil_append] at hwritten
                  simp [hwritten]

/-- The reader of strings accepts exactly the ways to write a string. -/
theorem body_eq_ok_iff {cs chars rest : List Char} : body .plain cs = .ok (chars, rest) ↔
    ∃ written, Spelled chars written ∧ cs = written ++ '"' :: rest := by
  constructor
  · intro h
    obtain ⟨written, hwritten, hspelled⟩ := written_of_body seen_plain h
    exact ⟨written, hspelled, hwritten⟩
  · rintro ⟨written, hspelled, rfl⟩
    exact body_written hspelled

end GuestNat.JsonString
