import GuestNat.Proofs.JsonGrammar
import GuestNat.Settings.FileSettings

/-!
# Documents that describe settings

Which JSON values say what settings a file holds, and which settings those are.

* `Json.Gives`, `FileSettings.Holds`: the text of a value, and the setting that a text makes;
* `Json.MembersDescribe`, `Json.Describes`: names differ and are known, values are texts of their
  settings, what is not named is left open; an array names its elements by their places;
* `FileSettings.set_sound`: setting one field sets it and leaves the others;
* `FileSettings.Sets`, `sets_iff_describe`: members set one after the other, each a field that is
  not set yet, make the settings that they describe.
-/

namespace GuestNat

/-! ## Results that may be faults -/

section Results

variable {ε α β : Type}

theorem map_eq_ok_iff {x : Except ε α} {f : α → β} {b : β} :
    x.map f = .ok b ↔ ∃ a, x = .ok a ∧ f a = b := by
  cases x <;> simp [Except.map]

theorem bind_eq_ok_iff {x : Except ε α} {f : α → Except ε β} {b : β} :
    x >>= f = .ok b ↔ ∃ a, x = .ok a ∧ f a = .ok b := by
  cases x <;> simp [bind, Except.bind]

theorem bind_eq_error_iff {x : Except ε α} {f : α → Except ε β} {e : ε} :
    x >>= f = .error e ↔ x = .error e ∨ ∃ a, x = .ok a ∧ f a = .error e := by
  cases x <;> simp [bind, Except.bind]

variable {ε' : Type} {f : ε → ε'}

theorem map_error_eq_ok_iff {x : Except ε α} {a : α} : x.mapError f = .ok a ↔ x = .ok a := by
  cases x with
  | error cause => exact ⟨nofun, nofun⟩
  | ok value =>
      change Except.ok value = .ok a ↔ _
      rw [Except.ok.injEq, Except.ok.injEq]

theorem map_error_eq_error_iff {x : Except ε α} {e : ε'} :
    x.mapError f = .error e ↔ ∃ cause, x = .error cause ∧ f cause = e := by
  cases x with
  | error cause =>
      change Except.error (f cause) = .error e ↔ _
      simp only [Except.error.injEq, exists_eq_left']
  | ok value => exact ⟨nofun, nofun⟩

end Results

/-! ## What is described -/

/-- The text that a value gives a setting, none for `null`. -/
inductive Json.Gives : Json → Option String → Prop
  | null : Gives .null none
  | string (text : String) : Gives (.string text) (some text)

/-- One of the settings is as a text has it, or left open. -/
def FileSettings.Holds (settings : FileSettings) : Field → Option String → Prop
  | .tap, text => settings.tap = text
  | .uplink, text => settings.uplink = text
  | .iptables, text => settings.iptables = text
  | .subnet, none => settings.subnet = none
  | .subnet, some cidr => ∃ subnet, Subnet.parse cidr = .ok subnet ∧ settings.subnet = some subnet

namespace Json

/-- The members of an object describe settings. -/
structure MembersDescribe (members : List (String × Json)) (settings : FileSettings) : Prop where
  distinct : (members.map Prod.fst).Nodup
  known : ∀ member ∈ members, ∃ field text, member.1 = Field.name field ∧ member.2.Gives text ∧
    settings.Holds field text
  absent : ∀ field : Field, field.name ∉ members.map Prod.fst → settings.Holds field none

/-- A document describes settings. The elements of an array belong to the fields in order. -/
inductive Describes : Json → FileSettings → Prop
  | object {members : List (String × Json)} {settings : FileSettings}
      (h : MembersDescribe members settings) : Describes (.object members) settings
  | array {elements : List Json} {settings : FileSettings}
      (hlength : elements.length ≤ Field.all.length)
      (h : MembersDescribe ((Field.all.map Field.name).zip elements) settings) :
      Describes (.array elements) settings

theorem describes_object_iff {members : List (String × Json)} {settings : FileSettings} :
    (Json.object members).Describes settings ↔ MembersDescribe members settings := by
  constructor
  · rintro (h | _)
    exact h
  · exact .object

theorem describes_array_iff {elements : List Json} {settings : FileSettings} :
    (Json.array elements).Describes settings ↔ elements.length ≤ Field.all.length ∧
      MembersDescribe ((Field.all.map Field.name).zip elements) settings := by
  constructor
  · rintro (_ | ⟨hlength, h⟩)
    exact ⟨hlength, h⟩
  · rintro ⟨hlength, h⟩
    exact .array hlength h

/-- The order of members does not matter. -/
theorem Describes.reordered {first second : Json} {settings : FileSettings}
    (hdescribes : first.Describes settings) (horder : first.Reordered second) :
    second.Describes settings := by
  cases horder with
  | same => exact hdescribes
  | members hperm =>
      obtain ⟨hdistinct, hknown, habsent⟩ := hdescribes
      have hnames := hperm.map Prod.fst
      refine .object ⟨hnames.nodup_iff.mp hdistinct, ?_, ?_⟩
      · intro member hmember
        exact hknown member (hperm.mem_iff.mpr hmember)
      · intro field hfield
        exact habsent field fun hmem => hfield (hnames.mem_iff.mp hmem)

theorem Reordered.symm {first second : Json} (h : first.Reordered second) :
    second.Reordered first := by
  cases h with
  | same => exact .same first
  | members hperm => exact .members hperm.symm

end Json

/-! ## Fields -/

namespace Field

theorem mem_all (field : Field) : field ∈ all := by
  cases field <;> decide

theorem nodup_all : all.Nodup := by decide

theorem name_injective {first second : Field} (h : first.name = second.name) :
    first = second := by
  have hall : ∀ first ∈ all, ∀ second ∈ all, first.name = second.name → first = second := by decide
  exact hall first first.mem_all second second.mem_all h

theorem ofName?_eq_some_iff {name : String} {field : Field} :
    ofName? name = some field ↔ name = field.name := by
  constructor
  · intro h
    have hname := List.find?_some h
    exact (of_decide_eq_true hname).symm
  · rintro rfl
    cases field <;> decide

end Field

namespace FileSettings

variable {start settings result third : FileSettings} {field : Field} {text : Option String}

/-- Two settings agree in a field. -/
def Agrees (first second : FileSettings) : Field → Prop
  | .tap => first.tap = second.tap
  | .uplink => first.uplink = second.uplink
  | .subnet => first.subnet = second.subnet
  | .iptables => first.iptables = second.iptables

theorem Agrees.refl (settings : FileSettings) (field : Field) : settings.Agrees settings field := by
  cases field <;> rfl

theorem Agrees.symm (h : start.Agrees result field) : result.Agrees start field := by
  cases field <;> exact Eq.symm h

theorem Agrees.trans (h : start.Agrees result field) (h' : result.Agrees third field) :
    start.Agrees third field := by
  cases field <;> exact Eq.trans h h'

theorem eq_of_agrees (h : ∀ field, start.Agrees result field) : start = result := by
  have htap : start.tap = result.tap := h .tap
  have huplink : start.uplink = result.uplink := h .uplink
  have hsubnet : start.subnet = result.subnet := h .subnet
  have hiptables : start.iptables = result.iptables := h .iptables
  cases start
  cases result
  simp_all

theorem Holds.of_agrees (h : start.Holds field text) (hagrees : start.Agrees result field) :
    result.Holds field text := by
  cases field with
  | tap => exact Eq.trans (Eq.symm hagrees) h
  | uplink => exact Eq.trans (Eq.symm hagrees) h
  | iptables => exact Eq.trans (Eq.symm hagrees) h
  | subnet =>
      have hsubnet : start.subnet = result.subnet := hagrees
      cases text <;> simp_all [Holds]

theorem Holds.agrees (h : start.Holds field text) (h' : result.Holds field text) :
    start.Agrees result field := by
  cases field with
  | tap => exact Eq.trans h h'.symm
  | uplink => exact Eq.trans h h'.symm
  | iptables => exact Eq.trans h h'.symm
  -- the two subnets are read from one text
  | subnet =>
      cases text with
      | none => exact Eq.trans h h'.symm
      | some cidr =>
          obtain ⟨subnet, hparse, hsubnet⟩ := h
          obtain ⟨subnet', hparse', hsubnet'⟩ := h'
          obtain rfl : subnet = subnet' := Except.ok.inj (hparse.symm.trans hparse')
          exact hsubnet.trans hsubnet'.symm

/-- Without a text a field is left open, as in the settings that leave all open. -/
theorem empty_agrees_iff :
    ({} : FileSettings).Agrees settings field ↔ settings.Holds field none := by
  cases field <;> exact eq_comm

theorem exists_set (h : settings.Holds field text) (start : FileSettings) :
    ∃ result, start.set field text = .ok result := by
  cases field with
  | subnet =>
      cases text with
      | none => exact ⟨_, rfl⟩
      | some cidr =>
          obtain ⟨subnet, hparse, -⟩ := h
          exact ⟨{ start with subnet := some subnet }, by rw [set, hparse]; rfl⟩
  | _ => exact ⟨_, rfl⟩

/-- Setting a field sets it and leaves the others as they are. -/
theorem set_sound (h : start.set field text = .ok result) :
    result.Holds field text ∧ ∀ other, other ≠ field → start.Agrees result other := by
  cases field with
  -- the subnet is the only setting whose text is parsed
  | subnet =>
      obtain ⟨subnet, hholds, rfl⟩ : ∃ subnet,
          ({ start with subnet } : FileSettings).Holds .subnet text ∧
            result = { start with subnet } := by
        cases text with
        | none =>
            cases h
            exact ⟨none, rfl, rfl⟩
        | some cidr =>
            obtain ⟨subnet, hparse, hresult⟩ := map_eq_ok_iff.mp h
            exact ⟨some subnet, ⟨subnet, hparse, rfl⟩, hresult.symm⟩
      refine ⟨hholds, fun other hne => ?_⟩
      cases other <;> first | rfl | exact absurd rfl hne
  | _ =>
      cases h
      refine ⟨rfl, fun other hne => ?_⟩
      cases other <;> first | rfl | exact absurd rfl hne

/-! ## Members in turn -/

/-- Members set fields one after the other, each one of those that are not set yet. -/
inductive Sets : List Field → FileSettings → List (String × Json) → FileSettings → Prop
  | nil {unset : List Field} {settings : FileSettings} : Sets unset settings [] settings
  | cons {unset : List Field} {start next settings : FileSettings} {field : Field} {value : Json}
      {text : Option String} {members : List (String × Json)} (hunset : field ∈ unset)
      (hgives : value.Gives text) (hset : start.set field text = .ok next)
      (hrest : Sets (unset.erase field) next members settings) :
      Sets unset start ((field.name, value) :: members) settings

theorem sets_nil_iff {unset : List Field} : Sets unset start [] settings ↔ start = settings := by
  constructor
  · rintro ⟨⟩
    rfl
  · rintro rfl
    exact .nil

theorem sets_cons_iff {unset : List Field} {name : String} {value : Json}
    {members : List (String × Json)} : Sets unset start ((name, value) :: members) settings ↔
      ∃ field ∈ unset, name = field.name ∧ ∃ next, (∃ text, value.Gives text ∧
        start.set field text = .ok next) ∧ Sets (unset.erase field) next members settings := by
  constructor
  · rintro (_ | ⟨hunset, hgives, hset, hrest⟩)
    exact ⟨_, hunset, rfl, _, ⟨_, hgives, hset⟩, hrest⟩
  · rintro ⟨field, hunset, rfl, next, ⟨text, hgives, hset⟩, hrest⟩
    exact .cons hunset hgives hset hrest

/-- Items that belong to the fields in order. -/
theorem sets_zip_iff {fields : List Field} {item : Json} {items : List Json} :
    Sets (field :: fields) start (((field :: fields).map Field.name).zip (item :: items)) settings ↔
      ∃ next, (∃ text, item.Gives text ∧ start.set field text = .ok next) ∧
        Sets fields next ((fields.map Field.name).zip items) settings := by
  rw [List.map_cons, List.zip_cons_cons, sets_cons_iff]
  constructor
  · rintro ⟨field', -, hname, next, hset, hrest⟩
    obtain rfl := Field.name_injective hname
    rw [List.erase_cons_head] at hrest
    exact ⟨next, hset, hrest⟩
  · rintro ⟨next, hset, hrest⟩
    refine ⟨field, List.mem_cons_self, rfl, next, hset, ?_⟩
    rw [List.erase_cons_head]
    exact hrest

/-- Members describe the settings of some fields, and leave the others as they were. -/
structure Completes (unset : List Field) (start : FileSettings) (members : List (String × Json))
    (settings : FileSettings) : Prop where
  distinct : (members.map Prod.fst).Nodup
  known : ∀ member ∈ members, ∃ field ∈ unset, ∃ text, member.1 = Field.name field ∧
    member.2.Gives text ∧ settings.Holds field text
  absent : ∀ field : Field, field.name ∉ members.map Prod.fst → start.Agrees settings field

section Turn

variable {unset : List Field} {members : List (String × Json)}

/-- What members set in turn, by induction on them. -/
theorem Sets.completes (hnodup : unset.Nodup) (h : Sets unset start members settings) :
    Completes unset start members settings := by
  induction h with
  | nil => exact ⟨List.nodup_nil, fun _ hmem => absurd hmem List.not_mem_nil,
      fun field _ => Agrees.refl _ field⟩
  | @cons unset start next settings field value text members hunset hgives hset _ ih =>
      obtain ⟨hdistinct, hknown, habsent⟩ := ih (hnodup.erase field)
      -- the field was struck out, so no other member has its name
      have hname : field.name ∉ members.map Prod.fst := by
        intro hmem
        obtain ⟨member, hmember, heq⟩ := List.mem_map.mp hmem
        obtain ⟨field', hunset', text', hname', -⟩ := hknown member hmember
        obtain rfl : field' = field := Field.name_injective (hname'.symm.trans heq)
        exact hnodup.not_mem_erase hunset'
      refine ⟨List.nodup_cons.mpr ⟨hname, hdistinct⟩, List.forall_mem_cons.mpr ⟨?_, ?_⟩, ?_⟩
      · exact ⟨field, hunset, text, rfl, hgives, (set_sound hset).1.of_agrees (habsent field hname)⟩
      · intro member hmember
        obtain ⟨field', hunset', hrest⟩ := hknown member hmember
        exact ⟨field', List.mem_of_mem_erase hunset', hrest⟩
      · intro other hother
        simp only [List.map_cons, List.mem_cons, not_or] at hother
        have hne : other ≠ field := fun heq => hother.1 (by rw [heq])
        exact ((set_sound hset).2 other hne).trans (habsent other hother.2)

/-- Members that describe settings can be set in turn, by induction on them. -/
theorem Completes.sets (h : Completes unset start members settings) :
    Sets unset start members settings := by
  -- each member sets its field, which is then struck from `unset`: the later members have
  -- other names, so what they still need is unset too
  induction members generalizing unset start with
  | nil =>
      obtain rfl : start = settings := eq_of_agrees fun field => h.absent field List.not_mem_nil
      exact .nil
  | cons member members ih =>
      obtain ⟨name, value⟩ := member
      obtain ⟨hhead, hknown⟩ := List.forall_mem_cons.mp h.known
      obtain ⟨field, hunset, text, rfl, hgives, hholds⟩ := hhead
      obtain ⟨hname, hdistinct⟩ := List.nodup_cons.mp h.distinct
      obtain ⟨next, hset⟩ := exists_set hholds start
      refine .cons hunset hgives hset (ih ⟨hdistinct, ?_, ?_⟩)
      · intro member hmember
        obtain ⟨field', hunset', text', hname', hrest⟩ := hknown member hmember
        have hne : field' ≠ field := by
          rintro rfl
          exact hname (List.mem_map.mpr ⟨member, hmember, hname'⟩)
        exact ⟨field', (List.mem_erase_of_ne hne).mpr hunset', text', hname', hrest⟩
      · intro other hother
        -- a field that no later member names holds what it held, or what this member has given it
        by_cases heq : other = field
        · rw [heq]
          exact (set_sound hset).1.agrees hholds
        · have hnotin : other.name ∉ ((field.name, value) :: members).map Prod.fst := by
            simp only [List.map_cons, List.mem_cons, not_or]
            exact ⟨fun hsame => heq (Field.name_injective hsame), hother⟩
          exact ((set_sound hset).2 other heq).symm.trans (h.absent other hnotin)

/-- From settings that leave all open, members make the settings that they describe. -/
theorem sets_iff_describe : Sets Field.all {} members settings ↔
    Json.MembersDescribe members settings := by
  constructor
  · intro h
    obtain ⟨hdistinct, hknown, habsent⟩ := h.completes Field.nodup_all
    refine ⟨hdistinct, ?_, ?_⟩
    · intro member hmember
      obtain ⟨field, -, text, hrest⟩ := hknown member hmember
      exact ⟨field, text, hrest⟩
    · intro field hfield
      exact empty_agrees_iff.mp (habsent field hfield)
  · rintro ⟨hdistinct, hknown, habsent⟩
    refine Completes.sets ⟨hdistinct, ?_, ?_⟩
    · intro member hmember
      obtain ⟨field, text, hrest⟩ := hknown member hmember
      exact ⟨field, field.mem_all, text, hrest⟩
    · intro field hfield
      exact empty_agrees_iff.mpr (habsent field hfield)

end Turn

end FileSettings

end GuestNat
