import GuestNat.Proofs.DocumentParts

/-!
# Reading a settings document

The reader takes exactly the JSON documents that describe settings, and gives the settings that they
describe.

* `members_written`, `elements_written`: the members of an object and the elements of an array are
  read if they can be set in turn;
* `members_sound`, `elements_sound`: what is read is written with commas and blanks as JSON has
  them;
* `parse_document`: of a document of a value, the settings are those that the value describes;
* `document_of_parse`: what is read is a document.
-/

namespace GuestNat.Document

open Json (Blank Spelled Written Element Member Separated)

/-! ## Objects -/

section Objects

variable {first : Bool} {unset : List Field} {start settings : FileSettings} {cs rest : List Char}
  {result : Read FileSettings}

theorem members_close (h : nextName first cs = .ok (none, rest)) :
    members first unset start cs = .ok (start, rest) := by
  rw [members, h]
  rfl

/-- A member is read when its name is that of a field that is not set, and its value can be
assigned. -/
theorem members_next {name : String} (h : nextName first cs = .ok (some name, rest)) :
    members first unset start cs = .ok result ↔
      ∃ field ∈ unset, name = field.name ∧ ∃ behind next others, colon rest = .ok behind ∧
        assign start field behind = .ok (next, others) ∧
        members false (unset.erase field) next others = .ok result := by
  rw [members, h]
  simp only [bind_eq_ok_iff, Except.ok.injEq, Prod.exists, Prod.mk.injEq]
  constructor
  · -- a name that was read on: it is a field's, the field is unset, and colon and value follow
    rintro ⟨name', rest', ⟨hname, hrest⟩, hmember⟩
    subst hname hrest
    cases hfield : Field.ofName? name with
    | none =>
        simp only [hfield] at hmember
        cases hmember
    | some field =>
        simp only [hfield] at hmember
        split at hmember
        · rename_i hunset
          obtain ⟨behind, hcolon, hassigned⟩ := bind_eq_ok_iff.mp hmember
          obtain ⟨⟨next, others⟩, hassign, hrest⟩ := bind_eq_ok_iff.mp hassigned
          exact ⟨field, hunset, Field.ofName?_eq_some_iff.mp hfield, behind, next, others, hcolon,
            hassign, hrest⟩
        · cases hmember
  · rintro ⟨field, hunset, hname, behind, next, others, hcolon, hassign, hrest⟩
    have hfield := Field.ofName?_eq_some_iff.mpr hname
    refine ⟨some name, rest, ⟨rfl, rfl⟩, ?_⟩
    simp only [hfield, dif_pos hunset, bind_eq_ok_iff]
    exact ⟨behind, hcolon, (next, others), hassign, hrest⟩

/-- A written member is read when it sets a field that is not set; the others come behind the
blanks that follow it. -/
theorem member_written {opening before written between front value after : List Char}
    {name : String} {json : Json} (hopening : Opening first opening) (hbefore : Blank before)
    (hname : Spelled name.toList written) (hbetween : Blank between) (hfront : Blank front)
    (hvalue : Written json value) :
    members first unset start (opening ++ ((before ++ '"' :: written ++ '"' :: between ++
        ':' :: (front ++ value ++ after)) ++ rest)) = .ok result ↔
      ∃ field ∈ unset, name = field.name ∧ ∃ next, (∃ text, json.Gives text ∧
        start.set field text = .ok next) ∧
        members false (unset.erase field) next (after ++ rest) = .ok result := by
  simp only [List.append_assoc, List.cons_append]
  rw [members_next (nextName_written hopening hbefore hname)]
  constructor
  · rintro ⟨field, hunset, hfield, behind, next, others, hcolon, hassign, hrest⟩
    rw [colon_eq_ok_iff.mpr ⟨between, hbetween, rfl⟩] at hcolon
    cases hcolon
    obtain ⟨hset, rfl⟩ := (assign_written hfront hvalue).mp hassign
    exact ⟨field, hunset, hfield, next, hset, hrest⟩
  · rintro ⟨field, hunset, hfield, next, hset, hrest⟩
    exact ⟨field, hunset, hfield, _, next, _, colon_eq_ok_iff.mpr ⟨between, hbetween, rfl⟩,
      (assign_written hfront hvalue).mpr ⟨hset, rfl⟩, hrest⟩

/-- Written members are read when they can be set in turn, by induction on them. -/
theorem members_written {items : List (String × Json)} {opening written : List Char}
    (hopening : Opening first opening) (h : Separated Member items written) :
    members first unset start (opening ++ (written ++ '}' :: rest)) = .ok (settings, cs) ↔
      FileSettings.Sets unset start items settings ∧ cs = rest := by
  -- the induction is on the members as written; the member at hand strikes its field from
  -- `unset`, so the rest is read as the document's rest is described
  induction h generalizing first unset start opening with
  -- the last member: the brace closes the object
  | one hitem =>
      obtain @⟨name, value, before, written, between, others, hbefore, hname, hbetween, helement⟩ :=
        hitem
      obtain @⟨_, front, value', after, hfront, hvalue, hafter⟩ := helement
      rw [member_written hopening hbefore hname hbetween hfront hvalue, FileSettings.sets_cons_iff]
      have hclose : ∀ field next, members false (unset.erase field) next (after ++ '}' :: rest) =
          .ok (next, rest) := fun field next => members_close (nextName_close hafter)
      simp only [hclose, FileSettings.sets_nil_iff, Except.ok.injEq, Prod.mk.injEq]
      constructor
      · rintro ⟨field, hunset, hfield, next, hset, rfl, rfl⟩
        exact ⟨⟨field, hunset, hfield, next, hset, rfl⟩, rfl⟩
      · rintro ⟨⟨field, hunset, hfield, next, hset, rfl⟩, rfl⟩
        exact ⟨field, hunset, hfield, next, hset, rfl, rfl⟩
  | @more item items written others hitem _ ih =>
      obtain @⟨name, value, before, written, between, element, hbefore, hname, hbetween,
        helement⟩ := hitem
      obtain @⟨_, front, value', after, hfront, hvalue, hafter⟩ := helement
      have hbehind : ∀ field next, members false (unset.erase field) next
          (after ++ ',' :: (others ++ '}' :: rest)) = .ok (settings, cs) ↔
            FileSettings.Sets (unset.erase field) next items settings ∧ cs = rest := by
        intro field next
        rw [← ih (.next hafter), List.append_assoc, List.singleton_append]
      rw [List.append_assoc, List.cons_append,
        member_written hopening hbefore hname hbetween hfront hvalue, FileSettings.sets_cons_iff]
      simp only [hbehind]
      constructor
      · rintro ⟨field, hunset, hfield, next, hset, hrest, rfl⟩
        exact ⟨⟨field, hunset, hfield, next, hset, hrest⟩, rfl⟩
      · rintro ⟨⟨field, hunset, hfield, next, hset, hrest⟩, rfl⟩
        exact ⟨field, hunset, hfield, next, hset, hrest, rfl⟩

/-- What may stand up to the bracket that closes a list, from the start or behind an item. -/
inductive Follows {α : Type} (Item : α → List Char → Prop) : Bool → List Char → Prop
  | none {first : Bool} {blank : List Char} (h : Blank blank) : Follows Item first blank
  | items {first : Bool} {opening written : List Char} {items : List α}
      (hopening : Opening first opening) (h : Separated Item items written) :
      Follows Item first (opening ++ written)

/-- An item and what follows it are items. -/
theorem Follows.behind {α : Type} {Item : α → List Char → Prop} {front : List Char}
    (hitem : ∀ after, Blank after → ∃ item, Item item (front ++ after))
    (h : Follows Item false rest) : ∃ items, Separated Item items (front ++ rest) := by
  cases h with
  | none hblank =>
      obtain ⟨item, hone⟩ := hitem _ hblank
      exact ⟨[item], .one hone⟩
  | items hopening hothers =>
      cases hopening with
      | @next blank hblank =>
          obtain ⟨item, hone⟩ := hitem _ hblank
          exact ⟨_, by simpa using Separated.more hone hothers⟩

/-- What is read as members is written as JSON has them, by recursion on the fields to come. -/
theorem members_sound (unset : List Field) {first : Bool} {start settings : FileSettings}
    {cs rest : List Char} (h : members first unset start cs = .ok (settings, rest)) :
    ∃ text, Follows Member first text ∧ cs = text ++ '}' :: rest := by
  cases hnext : nextName first cs with
  | error fault =>
      rw [members, hnext] at h
      cases h
  | ok named =>
      obtain ⟨found, behind⟩ := named
      rcases nextName_sound hnext with ⟨rfl, blank, hblank, rfl⟩ |
        ⟨name, opening, before, written, rfl, hopening, hbefore, hname, rfl⟩
      · rw [members_close hnext] at h
        cases h
        exact ⟨blank, .none hblank, rfl⟩
      · obtain ⟨field, hunset, -, front, next, others, hcolon, hassign, hrest⟩ :=
          (members_next hnext).mp h
        obtain ⟨between, hbetween, rfl⟩ := colon_eq_ok_iff.mp hcolon
        obtain ⟨value, hsetting, -⟩ := assign_eq_ok_iff.mp hassign
        obtain ⟨blank, json, written', hblank, hvalue, rfl⟩ := setting_sound hsetting
        obtain ⟨text, hfollows, rfl⟩ := members_sound (unset.erase field) hrest
        -- the blanks behind the value belong to the member
        have hmember : ∀ after, Blank after → ∃ member, Member member
            (before ++ '"' :: written ++ '"' :: between ++ ':' :: (blank ++ written') ++
              after) := by
          intro after hafter
          have hone := Member.named hbefore hname hbetween (.blanks hblank hvalue hafter)
          exact ⟨_, by simpa using hone⟩
        obtain ⟨members, hmembers⟩ := hfollows.behind hmember
        refine ⟨_, .items hopening hmembers, ?_⟩
        simp
termination_by unset.length
decreasing_by exact length_erase_lt hunset

end Objects

/-! ## Arrays -/

section Arrays

variable {first : Bool} {fields : List Field} {field : Field} {start settings : FileSettings}
  {cs rest : List Char} {result : Read FileSettings}

theorem elements_close {blank : List Char} (hblank : Blank blank) :
    elements first fields start (blank ++ ']' :: rest) = .ok (start, rest) := by
  cases fields <;>
  · unfold elements
    rw [skipSpace_blank hblank, skipSpace_cons (by decide)]
    rfl

/-- Behind as many elements as there are fields there is no further one. -/
theorem elements_full {opening before : List Char} {c : Char} (hopening : Opening first opening)
    (hbefore : Blank before) (hspace : isSpace c = false) (hclose : c ≠ ']') :
    elements first [] start (opening ++ (before ++ c :: rest)) = .error .malformed := by
  unfold elements
  cases hopening with
  | first =>
      rw [List.nil_append, skipSpace_blank hbefore, skipSpace_cons hspace]
      split
      · rename_i heq
        cases heq
      · rename_i heq
        exact absurd (List.cons.inj heq).1 hclose
      · rfl
  | next hblank =>
      rw [List.append_assoc, skipSpace_blank hblank, List.singleton_append,
        skipSpace_cons (by decide)]
      rfl

/-- The next element belongs to the next field. -/
theorem elements_next {opening before : List Char} {c : Char} (hopening : Opening first opening)
    (hbefore : Blank before) (hspace : isSpace c = false) (hclose : c ≠ ']') :
    elements first (field :: fields) start (opening ++ (before ++ c :: rest)) =
      (assign start field (c :: rest) >>= fun (next, behind) =>
        elements false fields next behind) := by
  rw [elements]
  cases hopening with
  | first =>
      rw [List.nil_append, skipSpace_blank hbefore, skipSpace_cons hspace]
      split
      · rename_i heq
        cases heq
      · rename_i heq
        exact absurd (List.cons.inj heq).1 hclose
      · rename_i heq
        obtain ⟨rfl, rfl⟩ := List.cons.inj heq
        rfl
  | next hblank =>
      rw [List.append_assoc, skipSpace_blank hblank, List.singleton_append,
        skipSpace_cons (by decide)]
      -- behind the comma the reader skips blanks again, and comes to the same character
      have hskip : skipSpace (before ++ c :: rest) = c :: rest := by
        rw [skipSpace_blank hbefore, skipSpace_cons hspace]
      split
      · rename_i heq
        cases heq
      · rename_i heq
        cases heq
      · rename_i heq
        obtain ⟨rfl, rfl⟩ := List.cons.inj heq
        rw [if_neg (by decide), if_pos rfl]
        split
        · rename_i heq
          rw [hskip] at heq
          cases heq
        · rename_i heq
          rw [hskip] at heq
          exact absurd (List.cons.inj heq).1 hclose
        · rw [hskip]
          rfl

theorem element_written {opening before value after : List Char} {json : Json}
    (hopening : Opening first opening) (hbefore : Blank before) (hvalue : Written json value) :
    elements first (field :: fields) start (opening ++ (before ++ value ++ after ++ rest)) =
        .ok result ↔
      ∃ next, (∃ text, json.Gives text ∧ start.set field text = .ok next) ∧
        elements false fields next (after ++ rest) = .ok result := by
  obtain ⟨c, others, rfl, hc⟩ := exists_start hvalue
  simp only [List.append_assoc, List.cons_append]
  obtain ⟨hspace, hclose⟩ := not_isSpace_of_start hc
  rw [elements_next hopening hbefore hspace hclose, bind_eq_ok_iff]
  have hassign : ∀ {next cs}, assign start field (c :: (others ++ (after ++ rest))) =
      .ok (next, cs) ↔ (∃ text, json.Gives text ∧ start.set field text = .ok next) ∧
        cs = after ++ rest := fun {next cs} => assign_written blank_nil hvalue
  constructor
  · rintro ⟨⟨next, behind⟩, hassigned, hrest⟩
    obtain ⟨hset, rfl⟩ := hassign.mp hassigned
    exact ⟨next, hset, hrest⟩
  · rintro ⟨next, hset, hrest⟩
    exact ⟨(next, _), hassign.mpr ⟨hset, rfl⟩, hrest⟩

theorem element_beyond {opening before value after : List Char} {json : Json}
    (hopening : Opening first opening) (hbefore : Blank before) (hvalue : Written json value) :
    elements first [] start (opening ++ (before ++ value ++ after ++ rest)) ≠ .ok result := by
  obtain ⟨c, others, rfl, hc⟩ := exists_start hvalue
  simp only [List.append_assoc, List.cons_append]
  obtain ⟨hspace, hclose⟩ := not_isSpace_of_start hc
  rw [elements_full hopening hbefore hspace hclose]
  exact fun h => nomatch h

/-- Written elements are read when they can be set in turn, by induction on them. -/
theorem elements_written {items : List Json} {opening written : List Char}
    (hopening : Opening first opening) (h : Separated Element items written) :
    elements first fields start (opening ++ (written ++ ']' :: rest)) = .ok (settings, cs) ↔
      (items.length ≤ fields.length ∧
        FileSettings.Sets fields start ((fields.map Field.name).zip items) settings) ∧
        cs = rest := by
  induction h generalizing first fields start opening with
  | one hitem =>
      obtain @⟨json, before, value, after, hbefore, hvalue, hafter⟩ := hitem
      -- an element beyond the last field is refused, as the length says
      cases fields with
      | nil =>
          exact ⟨fun h => absurd h (element_beyond hopening hbefore hvalue),
            fun h => absurd h.1.1 (Nat.not_succ_le_zero _)⟩
      | cons field fields =>
          rw [element_written hopening hbefore hvalue, FileSettings.sets_zip_iff]
          simp only [elements_close hafter, List.zip_nil_right, FileSettings.sets_nil_iff,
            Except.ok.injEq, Prod.mk.injEq]
          constructor
          · rintro ⟨next, hset, rfl, rfl⟩
            exact ⟨⟨by simp, next, hset, rfl⟩, rfl⟩
          · rintro ⟨⟨-, next, hset, rfl⟩, rfl⟩
            exact ⟨next, hset, rfl, rfl⟩
  | @more item items written others hitem _ ih =>
      obtain @⟨json, before, value, after, hbefore, hvalue, hafter⟩ := hitem
      rw [List.append_assoc, List.cons_append]
      cases fields with
      | nil =>
          exact ⟨fun h => absurd h (element_beyond hopening hbefore hvalue),
            fun h => absurd h.1.1 (Nat.not_succ_le_zero _)⟩
      | cons field fields =>
          have hbehind : ∀ next, elements false fields next
              (after ++ ',' :: (others ++ ']' :: rest)) = .ok (settings, cs) ↔
                (items.length ≤ fields.length ∧ FileSettings.Sets fields next
                  ((fields.map Field.name).zip items) settings) ∧ cs = rest := by
            intro next
            rw [← ih (.next hafter), List.append_assoc, List.singleton_append]
          rw [element_written hopening hbefore hvalue, FileSettings.sets_zip_iff]
          simp only [hbehind, List.length_cons, Nat.add_le_add_iff_right]
          constructor
          · rintro ⟨next, hset, ⟨hlength, hrest⟩, rfl⟩
            exact ⟨⟨hlength, next, hset, hrest⟩, rfl⟩
          · rintro ⟨⟨hlength, next, hset, hrest⟩, rfl⟩
            exact ⟨next, hset, ⟨hlength, hrest⟩, rfl⟩

/-- Elements end at the closing bracket, or go on with the element of the next field. -/
theorem elements_cases (h : elements first fields start cs = .ok result) :
    (∃ blank, Blank blank ∧ cs = blank ++ ']' :: result.2) ∨
    ∃ field others, fields = field :: others ∧ ∃ opening front next behind,
      Opening first opening ∧ cs = opening ++ front ∧
      assign start field front = .ok (next, behind) ∧
      elements false others next behind = .ok result := by
  obtain ⟨blank, hblank, hcs⟩ := exists_blank cs
  -- with no field left only the closing bracket may follow
  cases fields with
  | nil =>
      rw [elements] at h
      split at h
      · cases h
      · rename_i hskip
        cases h
        exact Or.inl ⟨blank, hblank, by rw [hcs, hskip]⟩
      · cases h
  | cons field fields =>
      rw [elements] at h
      split at h
      · cases h
      · rename_i hskip
        cases h
        exact Or.inl ⟨blank, hblank, by rw [hcs, hskip]⟩
      · rename_i c others _ hskip
        refine Or.inr ⟨field, fields, rfl, ?_⟩
        -- the first element stands at the front, a later one behind a comma
        split at h
        · rename_i hfirst
          obtain ⟨_, heq, hread⟩ := bind_eq_ok_iff.mp h
          obtain ⟨⟨next, behind⟩, hassign, hrest⟩ := bind_eq_ok_iff.mp hread
          cases heq
          refine ⟨[], cs, next, behind, ?_, rfl, ?_, hrest⟩
          · rw [hfirst]
            exact .first
          · rw [hcs, assign_blank hblank, hskip]
            exact hassign
        · rename_i hfirst
          split at h
          · rename_i hcomma
            obtain ⟨before, hbefore, hothers⟩ := exists_blank others
            split at h
            · cases h
            · cases h
            · obtain ⟨_, heq, hread⟩ := bind_eq_ok_iff.mp h
              obtain ⟨⟨next, behind⟩, hassign, hrest⟩ := bind_eq_ok_iff.mp hread
              cases heq
              refine ⟨blank ++ [','], others, next, behind, ?_, ?_, ?_, hrest⟩
              · rw [Bool.eq_false_iff.mpr hfirst]
                exact .next hblank
              · rw [hcs, hskip, hcomma, List.append_assoc, List.singleton_append]
              · rw [hothers, assign_blank hbefore]
                exact hassign
          · cases h

/-- What is read as elements is written as JSON has them, by induction on the fields to come. -/
theorem elements_sound (h : elements first fields start cs = .ok (settings, rest)) :
    ∃ text, Follows Element first text ∧ cs = text ++ ']' :: rest := by
  -- each element takes one field, so the fields left bound what is still read
  induction fields generalizing first start cs with
  | nil =>
      rcases elements_cases h with ⟨blank, hblank, rfl⟩ | ⟨_, _, hfields, -⟩
      · exact ⟨blank, .none hblank, rfl⟩
      · cases hfields
  | cons field fields ih =>
      rcases elements_cases h with ⟨blank, hblank, rfl⟩ |
        ⟨_, _, hfields, opening, front, next, behind, hopening, rfl, hassign, hrest⟩
      · exact ⟨blank, .none hblank, rfl⟩
      · cases hfields
        obtain ⟨text, hsetting, -⟩ := assign_eq_ok_iff.mp hassign
        obtain ⟨before, value, written, hbefore, hvalue, rfl⟩ := setting_sound hsetting
        obtain ⟨tail, hfollows, rfl⟩ := ih hrest
        obtain ⟨items, hitems⟩ := hfollows.behind fun after hafter =>
          ⟨value, Element.blanks hbefore hvalue hafter⟩
        exact ⟨_, .items hopening hitems, by simp⟩

end Arrays

/-! ## Whole documents -/

section Documents

variable {before written cs rest : List Char} {json : Json} {settings : FileSettings}
  {text : String}

theorem value_object (hbefore : Blank before) :
    value (before ++ ('{' :: written ++ ['}'] ++ rest)) =
      members true Field.all {} (written ++ '}' :: rest) := by
  unfold value
  rw [skipSpace_blank hbefore, List.cons_append, List.cons_append, List.append_assoc,
    List.singleton_append, skipSpace_cons (by decide)]
  rfl

theorem value_array (hbefore : Blank before) :
    value (before ++ ('[' :: written ++ [']'] ++ rest)) =
      elements true Field.all {} (written ++ ']' :: rest) := by
  unfold value
  rw [skipSpace_blank hbefore, List.cons_append, List.cons_append, List.append_assoc,
    List.singleton_append, skipSpace_cons (by decide)]
  rfl

/-- A value that is neither an object nor an array is refused at its first character. -/
theorem value_refused {c : Char} (hbefore : Blank before) (hspace : isSpace c = false)
    (hobject : c ≠ '{') (harray : c ≠ '[') :
    ∃ fault, value (before ++ c :: rest) = .error fault := by
  unfold value
  rw [skipSpace_blank hbefore, skipSpace_cons hspace]
  split
  · rename_i heq
    exact absurd (List.cons.inj heq).1 hobject
  · rename_i heq
    exact absurd (List.cons.inj heq).1 harray
  · exact ⟨_, rfl⟩

/-- Of a written value, the settings are those that it describes. -/
theorem value_written (hbefore : Blank before) (h : Written json written) :
    value (before ++ (written ++ rest)) = .ok (settings, cs) ↔
      json.Describes settings ∧ cs = rest := by
  -- a document that is neither an object nor a list is known by its first character
  have hrefused : (starts json).all (fun c => c ≠ '{' ∧ c ≠ '[') = true →
      (∀ settings, ¬json.Describes settings) →
      (value (before ++ (written ++ rest)) = .ok (settings, cs) ↔
        json.Describes settings ∧ cs = rest) := by
    intro hstart hnone
    obtain ⟨c, others, rfl, hc⟩ := exists_start h
    obtain ⟨hobject, harray⟩ := of_decide_eq_true (List.all_eq_true.mp hstart c hc)
    obtain ⟨fault, hfault⟩ : ∃ fault, value (before ++ c :: (others ++ rest)) = .error fault :=
      value_refused hbefore (not_isSpace_of_start hc).1 hobject harray
    rw [List.cons_append, hfault]
    exact ⟨fun h => (nomatch h), fun h => absurd h.1 (hnone settings)⟩
  cases json with
  | object items =>
      rw [Json.describes_object_iff, ← FileSettings.sets_iff_describe]
      cases h with
      | emptyObject hblank =>
          rw [value_object hbefore, members_close (nextName_close hblank),
            FileSettings.sets_nil_iff]
          constructor
          · rintro ⟨⟩
            exact ⟨rfl, rfl⟩
          · rintro ⟨rfl, rfl⟩
            rfl
      | object hitems =>
          rw [value_object hbefore]
          exact members_written .first hitems
  | array items =>
      rw [Json.describes_array_iff, ← FileSettings.sets_iff_describe]
      cases h with
      | emptyArray hblank =>
          rw [value_array hbefore, elements_close hblank, List.zip_nil_right,
            FileSettings.sets_nil_iff]
          constructor
          · rintro ⟨⟩
            exact ⟨⟨Nat.zero_le _, rfl⟩, rfl⟩
          · rintro ⟨⟨-, rfl⟩, rfl⟩
            rfl
      | array hitems =>
          rw [value_array hbefore]
          exact elements_written .first hitems
  | _ => exact hrefused rfl fun _ h => nomatch h

/-- What is read as the value of a document is a written value with blanks in front. -/
theorem value_sound (h : value cs = .ok (settings, rest)) : ∃ before json written,
    Blank before ∧ Written json written ∧ cs = before ++ (written ++ rest) := by
  obtain ⟨before, hbefore, hcs⟩ := exists_blank cs
  unfold value at h
  split at h
  · rename_i others hskip
    obtain ⟨text, hfollows, rfl⟩ := members_sound _ h
    obtain ⟨json, hjson⟩ : ∃ json, Written json ('{' :: text ++ ['}']) := by
      cases hfollows with
      | none hblank => exact ⟨_, .emptyObject hblank⟩
      | items hopening hitems =>
          cases hopening
          exact ⟨_, .object hitems⟩
    exact ⟨before, json, _, hbefore, hjson, by rw [hcs, hskip]; simp⟩
  · rename_i others hskip
    obtain ⟨text, hfollows, rfl⟩ := elements_sound h
    obtain ⟨json, hjson⟩ : ∃ json, Written json ('[' :: text ++ [']']) := by
      cases hfollows with
      | none hblank => exact ⟨_, .emptyArray hblank⟩
      | items hopening hitems =>
          cases hopening
          exact ⟨_, .array hitems⟩
    exact ⟨before, json, _, hbefore, hjson, by rw [hcs, hskip]; simp⟩
  · cases h

theorem parse_eq_ok_iff : parse text = .ok settings ↔
    ∃ after, value text.toList = .ok (settings, after) ∧ Blank after := by
  unfold parse
  rw [bind_eq_ok_iff]
  constructor
  · rintro ⟨⟨read, after⟩, hvalue, h⟩
    dsimp only at h
    split at h
    · rename_i hempty
      cases h
      obtain ⟨blank, hblank, hafter⟩ := exists_blank after
      rw [List.isEmpty_iff.mp hempty, List.append_nil] at hafter
      exact ⟨after, hvalue, hafter ▸ hblank⟩
    · cases h
  · rintro ⟨after, hvalue, hafter⟩
    refine ⟨(settings, after), hvalue, ?_⟩
    simp only [skipSpace_of_blank hafter, List.isEmpty_nil, if_true]

/-- Of a document of a value, the settings are those that the value describes. -/
theorem parse_document (h : Json.Document json text) :
    parse text = .ok settings ↔ json.Describes settings := by
  unfold Json.Document at h
  rw [parse_eq_ok_iff]
  generalize text.toList = cs at h ⊢
  obtain @⟨_, before, written, after, hbefore, hwritten, hafter⟩ := h
  rw [List.append_assoc]
  constructor
  · rintro ⟨rest, hvalue, -⟩
    exact ((value_written hbefore hwritten).mp hvalue).1
  · intro hdescribes
    exact ⟨after, (value_written hbefore hwritten).mpr ⟨hdescribes, rfl⟩, hafter⟩

/-- What is read is a document. -/
theorem document_of_parse (h : parse text = .ok settings) : ∃ json, Json.Document json text := by
  obtain ⟨after, hvalue, hafter⟩ := parse_eq_ok_iff.mp h
  obtain ⟨before, json, written, hbefore, hwritten, htext⟩ := value_sound hvalue
  refine ⟨json, ?_⟩
  unfold Json.Document
  rw [htext, ← List.append_assoc]
  exact .blanks hbefore hwritten hafter

end Documents

end GuestNat.Document
