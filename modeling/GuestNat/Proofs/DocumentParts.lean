import GuestNat.Proofs.DescribedSettings
import GuestNat.Proofs.JsonStrings
import GuestNat.Settings.Document

/-!
# The parts of a settings document

What the reader makes of the parts that objects and arrays consist of.

* `skipSpace_blank`, `exists_blank`: blanks are skipped and nothing else is;
* `expect_eq_ok_iff`, `colon_eq_ok_iff`: words and colons;
* `starts`: the first character of a written value tells what kind of value it is;
* `setting_written`, `setting_sound`: a value is read if it gives a setting a text, and what is read
  is a value;
* `Opening`, `nextName_written`, `nextName_sound`: what stands before an item, and the names of
  members.
-/

namespace GuestNat.Document

open Json (Blank Spelled Written)

/-! ## Blanks -/

section Blanks

variable {c : Char} {blank rest cs : List Char}

theorem isSpace_iff : isSpace c = true ↔ c ∈ [' ', '\t', '\n', '\r'] := by
  simp [isSpace, or_assoc]

theorem blank_nil : Blank [] := fun _ h => absurd h List.not_mem_nil

/-- Leading blanks are skipped, by induction on them. -/
theorem skipSpace_blank (h : Blank blank) : skipSpace (blank ++ rest) = skipSpace rest := by
  induction blank with
  | nil => rfl
  | cons c blank ih =>
      obtain ⟨hc, hblank⟩ := List.forall_mem_cons.mp h
      rw [← ih hblank]
      unfold skipSpace
      rw [List.cons_append, List.dropWhile_cons, if_pos (isSpace_iff.mpr hc)]

theorem skipSpace_cons (h : isSpace c = false) : skipSpace (c :: rest) = c :: rest := by
  unfold skipSpace
  rw [List.dropWhile_cons, if_neg (Bool.eq_false_iff.mp h)]

theorem skipSpace_of_blank (h : Blank blank) : skipSpace blank = [] := by
  have hskip : skipSpace (blank ++ []) = skipSpace [] := skipSpace_blank h
  rw [List.append_nil] at hskip
  exact hskip

/-- What is skipped is blank. -/
theorem exists_blank (cs : List Char) : ∃ blank, Blank blank ∧ cs = blank ++ skipSpace cs := by
  refine ⟨cs.takeWhile isSpace, ?_, List.takeWhile_append_dropWhile.symm⟩
  intro c hc
  exact isSpace_iff.mp (List.all_eq_true.mp List.all_takeWhile c hc)

end Blanks

/-! ## Settings -/

section Settings

variable {before written cs rest : List Char} {value : Json} {text : Option String}

theorem expect_eq_ok_iff {word : List Char} : expect word cs = .ok rest ↔ cs = word ++ rest := by
  induction word generalizing cs with
  | nil =>
      rw [expect, List.nil_append]
      exact ⟨Except.ok.inj, congrArg Except.ok⟩
  | cons w word ih =>
      cases cs with
      | nil => simp [expect]
      | cons c cs =>
          rw [expect, List.cons_append, List.cons.injEq]
          split
          · rename_i heq
            rw [ih]
            exact ⟨fun h => ⟨heq.symm, h⟩, And.right⟩
          · rename_i hne
            exact ⟨fun h => (nomatch h), fun h => absurd h.1.symm hne⟩

/-- The characters that a written value can start with. -/
def starts : Json → List Char
  | .null => ['n']
  | .boolean _ => ['t', 'f']
  | .number _ => ['-', '0', '1', '2', '3', '4', '5', '6', '7', '8', '9']
  | .string _ => ['"']
  | .array _ => ['[']
  | .object _ => ['\x7b']

theorem digit_mem_starts {d : Char} {numeral : List Char} (h : Decimal.isDigit d = true) :
    d ∈ starts (.number numeral) := by
  have hle : d.toNat < 128 := by
    have hnine : d ≤ '9' := by simpa using (Bool.and_eq_true_iff.mp h).2
    exact Nat.lt_of_le_of_lt hnine (by decide)
  have hascii : ∀ k < 128, Decimal.isDigit (Char.ofNat k) = true →
      Char.ofNat k ∈ starts (.number []) := by
    decide
  have hdigit := hascii d.toNat hle
  rw [Char.ofNat_toNat] at hdigit
  exact hdigit h

theorem exists_start (h : Written value written) :
    ∃ c others, written = c :: others ∧ c ∈ starts value := by
  cases h with
  | number hnumber =>
      obtain @⟨sign, whole, fraction, exponent, hsign, ⟨hne, hdigits⟩, -, -, -⟩ := hnumber
      obtain ⟨d, ds, rfl⟩ := List.exists_cons_of_ne_nil hne
      simp only [List.mem_cons, List.not_mem_nil, or_false] at hsign
      rcases hsign with rfl | rfl
      · exact ⟨d, _, rfl, digit_mem_starts (hdigits d List.mem_cons_self)⟩
      · exact ⟨'-', _, rfl, List.mem_cons_self⟩
  | false => exact ⟨'f', _, rfl, List.mem_cons_of_mem _ List.mem_cons_self⟩
  | _ => exact ⟨_, _, rfl, List.mem_cons_self⟩

/-- No value starts with a blank or with the bracket that closes an array. -/
theorem not_isSpace_of_start {c : Char} (h : c ∈ starts value) : isSpace c = false ∧ c ≠ ']' := by
  have hall : (starts value).all (fun c => !isSpace c && c != ']') = true := by
    cases value <;> rfl
  have hc := List.all_eq_true.mp hall c h
  simpa using hc

/-- A value that gives no text is refused at its first character. -/
theorem setting_refused {c : Char} (hbefore : Blank before) (hspace : isSpace c = false)
    (hnull : c ≠ 'n') (hstring : c ≠ '"') :
    ∃ fault, setting (before ++ c :: rest) = .error fault := by
  unfold setting
  rw [skipSpace_blank hbefore, skipSpace_cons hspace]
  split
  · rename_i heq
    exact absurd (List.cons.inj heq).1 hnull
  · rename_i heq
    exact absurd (List.cons.inj heq).1 hstring
  · exact ⟨_, rfl⟩

theorem setting_null (hbefore : Blank before) :
    setting (before ++ ("null".toList ++ rest)) = .ok (none, rest) := by
  unfold setting
  rw [skipSpace_blank hbefore]
  rfl

theorem setting_string {chars : List Char} (hbefore : Blank before) (h : Spelled chars written) :
    setting (before ++ ('"' :: written ++ ['"'] ++ rest)) =
      .ok (some (String.ofList chars), rest) := by
  have hbody : JsonString.body .plain (written ++ '"' :: rest) = .ok (chars, rest) :=
    JsonString.body_written h
  unfold setting
  rw [skipSpace_blank hbefore, List.cons_append, List.cons_append, List.append_assoc,
    List.singleton_append, skipSpace_cons (by decide)]
  simp only [hbody]
  rfl

/-- A written value is read if it gives a setting a text. -/
theorem setting_written (hbefore : Blank before) (h : Written value written) :
    setting (before ++ (written ++ rest)) = .ok (text, cs) ↔ value.Gives text ∧ cs = rest := by
  -- any other kind of value is known by its first character and refused
  have hrefused : (starts value).all (fun c => c ≠ 'n' ∧ c ≠ '"') = true →
      (∀ text, ¬value.Gives text) →
      (setting (before ++ (written ++ rest)) = .ok (text, cs) ↔ value.Gives text ∧ cs = rest) := by
    intro hstart hnone
    obtain ⟨c, others, rfl, hc⟩ := exists_start h
    obtain ⟨hnull, hstring⟩ := of_decide_eq_true (List.all_eq_true.mp hstart c hc)
    obtain ⟨fault, hfault⟩ : ∃ fault, setting (before ++ c :: (others ++ rest)) = .error fault :=
      setting_refused hbefore (not_isSpace_of_start hc).1 hnull hstring
    rw [List.cons_append, hfault]
    exact ⟨fun h => (nomatch h), fun h => absurd h.1 (hnone text)⟩
  cases value with
  | null =>
      cases h
      rw [setting_null hbefore]
      constructor
      · intro h
        cases h
        exact ⟨.null, rfl⟩
      · rintro ⟨⟨⟩, rfl⟩
        rfl
  | string s =>
      cases h with
      | string hspelled =>
          rw [setting_string hbefore hspelled, String.ofList_toList]
          constructor
          · intro h
            cases h
            exact ⟨.string s, rfl⟩
          · rintro ⟨⟨⟩, rfl⟩
            rfl
  | _ => exact hrefused rfl fun _ h => nomatch h

/-- What is read as a setting is a value with blanks in front. -/
theorem setting_sound (h : setting cs = .ok (text, rest)) : ∃ before value written,
    Blank before ∧ Written value written ∧ cs = before ++ (written ++ rest) := by
  obtain ⟨before, hbefore, hcs⟩ := exists_blank cs
  unfold setting at h
  split at h
  · -- it starts with an n, so the word `null` follows
    rename_i others hskip
    obtain ⟨rest', hword, heq⟩ := map_eq_ok_iff.mp h
    cases heq
    refine ⟨before, .null, _, hbefore, .null, ?_⟩
    rw [hcs, hskip, expect_eq_ok_iff.mp hword]
    rfl
  · -- it starts with a quote, so a string follows
    rename_i others hskip
    obtain ⟨⟨chars, rest'⟩, hbody, heq⟩ := map_eq_ok_iff.mp h
    cases heq
    obtain ⟨written, hspelled, rfl⟩ := JsonString.body_eq_ok_iff.mp hbody
    rw [← String.toList_ofList (l := chars)] at hspelled
    refine ⟨before, _, _, hbefore, .string hspelled, ?_⟩
    rw [hcs, hskip]
    simp
  · cases h

/-- A setting is assigned when its value gives it a text that it can take. -/
theorem assign_eq_ok_iff {start next : FileSettings} {field : Field} :
    assign start field cs = .ok (next, rest) ↔
      ∃ text, setting cs = .ok (text, rest) ∧ start.set field text = .ok next := by
  unfold assign
  rw [bind_eq_ok_iff]
  constructor
  · rintro ⟨⟨text, rest'⟩, hsetting, h⟩
    cases hset : start.set field text with
    | error fault =>
        simp only [hset] at h
        cases h
    | ok made =>
        simp only [hset] at h
        cases h
        exact ⟨text, hsetting, hset⟩
  · rintro ⟨text, hsetting, hset⟩
    exact ⟨(text, rest), hsetting, by simp only [hset]⟩

theorem assign_blank {start : FileSettings} {field : Field} (hbefore : Blank before) :
    assign start field (before ++ cs) = assign start field cs := by
  unfold assign setting
  rw [skipSpace_blank hbefore]

theorem assign_written {start next : FileSettings} {field : Field} (hbefore : Blank before)
    (h : Written value written) :
    assign start field (before ++ (written ++ rest)) = .ok (next, cs) ↔
      (∃ text, value.Gives text ∧ start.set field text = .ok next) ∧ cs = rest := by
  rw [assign_eq_ok_iff]
  constructor
  · rintro ⟨text, hsetting, hset⟩
    obtain ⟨hgives, hrest⟩ := (setting_written hbefore h).mp hsetting
    exact ⟨⟨text, hgives, hset⟩, hrest⟩
  · rintro ⟨⟨text, hgives, hset⟩, hrest⟩
    exact ⟨text, (setting_written hbefore h).mpr ⟨hgives, hrest⟩, hset⟩

end Settings

/-! ## Names -/

/-- What stands before an item of a list: nothing before the first one, blanks and a comma before
the others. -/
inductive Opening : Bool → List Char → Prop
  | first : Opening true []
  | next {blank : List Char} (h : Blank blank) : Opening false (blank ++ [','])

section Names

variable {first : Bool} {cs rest : List Char} {name : String}

theorem colon_eq_ok_iff : colon cs = .ok rest ↔
    ∃ between, Blank between ∧ cs = between ++ ':' :: rest := by
  constructor
  · intro h
    obtain ⟨between, hbetween, hcs⟩ := exists_blank cs
    unfold colon at h
    split at h
    · cases h
    · rename_i others hskip
      cases h
      exact ⟨between, hbetween, by rw [hcs, hskip]⟩
    · cases h
  · rintro ⟨between, hbetween, rfl⟩
    unfold colon
    rw [skipSpace_blank hbetween, skipSpace_cons (by decide)]
    rfl

theorem nextName_close {blank : List Char} (hblank : Blank blank) :
    nextName first (blank ++ '}' :: rest) = .ok (none, rest) := by
  unfold nextName
  rw [skipSpace_blank hblank, skipSpace_cons (by decide)]
  rfl

theorem nextName_written {opening before written : List Char} (hopening : Opening first opening)
    (hbefore : Blank before) (h : Spelled name.toList written) :
    nextName first (opening ++ (before ++ '"' :: (written ++ '"' :: rest))) =
      .ok (some name, rest) := by
  have hbody : JsonString.body .plain (written ++ '"' :: rest) = .ok (name.toList, rest) :=
    JsonString.body_written h
  unfold nextName
  -- the first name stands behind nothing, every later one behind a comma
  cases hopening with
  | first =>
      rw [List.nil_append, skipSpace_blank hbefore, skipSpace_cons (by decide)]
      simp only [hbody, if_true]
      rw [Except.map, String.ofList_toList]
  | next hblank =>
      rw [List.append_assoc, skipSpace_blank hblank, List.singleton_append,
        skipSpace_cons (by decide)]
      simp only [Bool.false_eq_true, if_false]
      rw [skipSpace_blank hbefore, skipSpace_cons (by decide)]
      simp only [hbody]
      rw [Except.map, String.ofList_toList]

/-- A name that was read is written between quotation marks. -/
theorem name_sound {found : Option String}
    (h : ((JsonString.body .plain cs).map fun (chars, rest) => (some (String.ofList chars), rest)) =
      .ok (found, rest)) :
    ∃ name written, found = some name ∧ Spelled name.toList written ∧
      cs = written ++ '"' :: rest := by
  obtain ⟨⟨chars, rest'⟩, hbody, heq⟩ := map_eq_ok_iff.mp h
  cases heq
  obtain ⟨written, hspelled, rfl⟩ := JsonString.body_eq_ok_iff.mp hbody
  rw [← String.toList_ofList (l := chars)] at hspelled
  exact ⟨_, written, rfl, hspelled, rfl⟩

/-- The next name is the end of the object, or the name of one more member. -/
theorem nextName_sound {found : Option String} (h : nextName first cs = .ok (found, rest)) :
    (found = none ∧ ∃ blank, Blank blank ∧ cs = blank ++ '}' :: rest) ∨
    ∃ name opening before written, found = some name ∧ Opening first opening ∧ Blank before ∧
      Spelled name.toList written ∧
      cs = opening ++ (before ++ '"' :: (written ++ '"' :: rest)) := by
  obtain ⟨blank, hblank, hcs⟩ := exists_blank cs
  unfold nextName at h
  dsimp only at h
  -- by the first character that is no space: the end of the text, the closing brace, a name's
  -- quote (before the first member only), a comma (before later ones only), or another one
  split at h
  · cases h
  · rename_i others hskip
    cases h
    exact Or.inl ⟨rfl, blank, hblank, by rw [hcs, hskip]⟩
  · rename_i others hskip
    split at h
    · rename_i hfirst
      obtain ⟨name, written, rfl, hspelled, rfl⟩ := name_sound h
      refine Or.inr ⟨name, [], blank, written, rfl, ?_, hblank, hspelled, by rw [hcs, hskip]; rfl⟩
      rw [hfirst]
      exact .first
    · cases h
  · rename_i others hskip
    split at h
    · cases h
    · rename_i hfirst
      obtain ⟨before, hbefore, hothers⟩ := exists_blank others
      split at h
      · cases h
      · rename_i others' hskip'
        obtain ⟨name, written, rfl, hspelled, rfl⟩ := name_sound h
        refine Or.inr ⟨name, blank ++ [','], before, written, rfl, ?_, hbefore, hspelled, ?_⟩
        · rw [Bool.eq_false_iff.mpr hfirst]
          exact .next hblank
        · rw [hcs, hskip, hothers, hskip', List.append_assoc, List.singleton_append]
      · cases h
  · cases h

end Names

end GuestNat.Document
