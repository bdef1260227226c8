import GuestNat.Host.Machine
import GuestNat.Proofs.FileWrites
import GuestNat.Proofs.SubnetSpelling
import GuestNat.Proofs.Systems
import GuestNat.Proofs.Utf8Reading

/-!
# Calls about the forwarding knob

What one look at the knob and one writing of it come to: on any system by what its files say, and on
a machine by what stands under the name of the knob.

* `Knob.Spells`: the contents that stand for a setting, which are its digit with blanks around it;
* `Knob.RefusedFor`: the errors that refusals of the operating system stand for;
* `Knob.Reads`, `Knob.Writes`: what a look and a writing come to;
* `Machine.write_knob_of_file`, `Machine.write_knob_refused`: a writing on a machine;
* `Machine.write_knob_cut_short`: what it leaves if the knob is opened but cannot be written to;
* `Machine.read_knob_eq_iff`, `Machine.write_knob_eq_ok_iff`, `Machine.write_knob_eq_error_iff`: the
  replies on a machine.
-/

namespace GuestNat

namespace Knob

/-- The contents that stand for a setting: its digit, with blanks around it. -/
inductive Spells : Bytes → Bool → Prop
  | blanks {on : Bool} (before after : List Char)
      (hbefore : ∀ c ∈ before, Text.isBlank c = true)
      (hafter : ∀ c ∈ after, Text.isBlank c = true) :
      Spells (Text.Utf8.octets (.ofList (before ++ ((digit on).toList ++ after)))) on

/-- The error that a refusal of the operating system stands for. Only where nothing is found is the
knob missing. -/
inductive RefusedFor (path : String) : OsError → HostError → Prop
  | notFound : RefusedFor path .notFound
      (.unsupportedPlatform ("IPv4 forwarding control " ++ path ++ " not present"))
  | denied {cause : OsError} (h : cause ∈ [.permissionDenied, .readOnly]) :
      RefusedFor path cause .permissionDenied
  | other {cause : OsError} (h : cause ∉ [.notFound, .permissionDenied, .readOnly]) :
      RefusedFor path cause (.io cause.message)

/-- What a look comes to, by what reading the file came to. -/
inductive Reads (path : String) : Except OsError Bytes → Reply Bool → Prop
  | setting {content : Bytes} {on : Bool} (h : Spells content on) :
      Reads path (.ok content) (.ok on)
  | otherText {text : String} (h : ∀ on, ¬Spells (Text.Utf8.octets text) on) :
      Reads path (.ok (Text.Utf8.octets text)) (.error (.unsupportedPlatform
        ("unexpected value " ++ Text.quote (Text.trim text) ++ " in " ++ path)))
  | noText {content : Bytes} (h : ∀ text, content ≠ Text.Utf8.octets text) :
      Reads path (.ok content) (.error (.io "stream did not contain valid UTF-8"))
  | refused {cause : OsError} {error : HostError} (h : RefusedFor path cause error) :
      Reads path (.error cause) (.error error)

/-- What a writing comes to and which state it leaves. The file is looked for, then opened without
what it held, but not made, and then written to. Any of the three may be refused. -/
inductive Writes {σ : Type} (system : System σ) (place : Placement) (on : Bool) (s : σ) :
    Reply Unit → σ → Prop
  | missing (hthere : system.contains place.knob s = .ok false) :
      Writes system place on s (.error (Knob.missing place.knob)) s
  | unsearchable {cause : OsError} {error : HostError}
      (hthere : system.contains place.knob s = .error cause)
      (h : RefusedFor place.knob cause error) : Writes system place on s (.error error) s
  | unopened {cause : OsError} {error : HostError} {opened : σ}
      (hthere : system.contains place.knob s = .ok true)
      (hopen : system.openFile place.knob { write := true, truncate := true, create := false } s =
        (.error cause, opened))
      (h : RefusedFor place.knob cause error) : Writes system place on s (.error error) opened
  | unwritten {cause : OsError} {error : HostError} {handle : Handle} {opened after : σ}
      (hthere : system.contains place.knob s = .ok true)
      (hopen : system.openFile place.knob { write := true, truncate := true, create := false } s =
        (.ok handle, opened))
      (hwrite : system.write handle (content on) opened = (.error cause, after))
      (h : RefusedFor place.knob cause error) : Writes system place on s (.error error) after
  | written {handle : Handle} {opened after : σ}
      (hthere : system.contains place.knob s = .ok true)
      (hopen : system.openFile place.knob { write := true, truncate := true, create := false } s =
        (.ok handle, opened))
      (hwrite : system.write handle (content on) opened = (.ok (), after)) :
      Writes system place on s (.ok ()) after

/-! ## Settings and refusals -/

section Replies

variable {path text : String} {content : Bytes} {on : Bool} {cause : OsError} {error : HostError}

theorem isWord_digit (on : Bool) : Text.IsWord (digit on) := by
  cases on <;> decide

/-- Reading and trimming a content leaves the digit exactly where it is spelled. -/
theorem holds_iff_spells : Holds content on ↔ Spells content on := by
  constructor
  · rintro ⟨text, hdecode, htrim⟩
    -- trimming took the blanks at both ends away, so they and the digit make up the text
    obtain ⟨before, after, hbefore, hafter, htext⟩ := Text.exists_blanks text.toList
    have htrimmed : Text.trimChars text.toList = (digit on).toList := by
      rw [← htrim]
      exact String.toList_ofList.symm
    rw [htrimmed, List.append_assoc] at htext
    have hspelled : Spells (Text.Utf8.octets (.ofList (before ++ ((digit on).toList ++ after)))) on :=
      .blanks before after hbefore hafter
    rw [← htext, String.ofList_toList] at hspelled
    rwa [Text.Utf8.decode?_eq_some_iff.mp hdecode]
  · rintro ⟨before, after, hbefore, hafter⟩
    refine ⟨_, Text.Utf8.decode?_eq_some_iff.mpr rfl, ?_⟩
    unfold Text.trim
    rw [String.toList_ofList, Text.trimChars_append hbefore hafter (isWord_digit on).ne_nil
      (isWord_digit on).no_blank, String.ofList_toList]

/-- A text spells a setting exactly if trimming leaves its digit. -/
theorem spells_octets_iff : Spells (Text.Utf8.octets text) on ↔ Text.trim text = digit on := by
  rw [← holds_iff_spells]
  constructor
  · rintro ⟨decoded, hdecode, htrim⟩
    rw [Text.Utf8.decode?_eq_some_iff.mpr rfl] at hdecode
    rwa [Option.some.inj hdecode]
  · intro htrim
    exact ⟨text, Text.Utf8.decode?_eq_some_iff.mpr rfl, htrim⟩

/-- A text that spells no setting is shown without the blanks around it. -/
theorem setting_of_other (h : ∀ on, ¬Spells (Text.Utf8.octets text) on) :
    setting path text = .error (.unsupportedPlatform
      ("unexpected value " ++ Text.quote (Text.trim text) ++ " in " ++ path)) := by
  have hone : Text.trim text ≠ "1" := fun htrim => h true (spells_octets_iff.mpr htrim)
  have hzero : Text.trim text ≠ "0" := fun htrim => h false (spells_octets_iff.mpr htrim)
  unfold setting
  dsimp only
  rw [if_neg hone, if_neg hzero]

theorem reading_octets : reading path (.ok (Text.Utf8.octets text)) = setting path text := by
  unfold reading
  dsimp only
  rw [Text.Utf8.decode?_eq_some_iff.mpr rfl]

theorem reading_of_no_text (h : ∀ text, content ≠ Text.Utf8.octets text) :
    reading path (.ok content) = .error (.io "stream did not contain valid UTF-8") := by
  have hdecode : Text.Utf8.decode? content = none := by
    rw [Option.eq_none_iff_forall_ne_some]
    exact fun text hsome => h text (Text.Utf8.decode?_eq_some_iff.mp hsome)
  unfold reading
  dsimp only
  rw [hdecode]
  rfl

theorem refused_eq_iff : refused path cause = error ↔ RefusedFor path cause error := by
  constructor
  · rintro rfl
    -- one cause is a missing knob, two are a want of privilege, the others are passed on
    cases cause with
    | notFound => exact .notFound
    | permissionDenied => exact .denied (by simp)
    | readOnly => exact .denied (by simp)
    | _ => exact .other (by simp)
  · intro h
    cases h with
    | notFound => rfl
    | denied h =>
        simp only [List.mem_cons, List.not_mem_nil, or_false] at h
        rcases h with rfl | rfl <;> rfl
    | other h => cases cause <;> first | rfl | exact absurd h (by simp)

/-- Only where nothing is found is the platform said to lack the knob. -/
theorem RefusedFor.found_nothing_iff (h : RefusedFor path cause error) :
    error = missing path ↔ cause = .notFound := by
  cases h with
  | notFound => exact iff_of_true rfl rfl
  | denied h =>
      refine iff_of_false nofun ?_
      rintro rfl
      exact absurd h (by simp)
  | other h =>
      refine iff_of_false nofun ?_
      rintro rfl
      exact absurd h (by simp)

theorem reads_reading (path : String) (file : Except OsError Bytes) :
    Reads path file (reading path file) := by
  cases file with
  | error cause => exact .refused (refused_eq_iff.mp rfl)
  | ok content =>
      -- by the content: no text, a text that spells a setting, another text
      by_cases htext : ∃ text, content = Text.Utf8.octets text
      · obtain ⟨text, rfl⟩ := htext
        by_cases hspelled : ∃ on, Spells (Text.Utf8.octets text) on
        · obtain ⟨on, hon⟩ := hspelled
          rw [reading_of_holds (holds_iff_spells.mpr hon)]
          exact .setting hon
        · have hother : ∀ on, ¬Spells (Text.Utf8.octets text) on := not_exists.mp hspelled
          rw [reading_octets, setting_of_other hother]
          exact .otherText hother
      · have hnone : ∀ text, content ≠ Text.Utf8.octets text := not_exists.mp htext
        rw [reading_of_no_text hnone]
        exact .noText hnone

/-- A text that stands for nothing is not taken for a missing knob. -/
theorem Reads.missing_iff {file : Except OsError Bytes} :
    Reads path file (.error (missing path)) ↔ file = .error .notFound := by
  constructor
  · intro h
    generalize hmissing : missing path = error at h
    cases h with
    | @otherText text _ =>
        -- the two messages begin differently
        have hdetail := HostError.unsupportedPlatform.inj hmissing
        have hhead := congrArg (·.toList.head?) hdetail
        simp at hhead
    | noText h => cases hmissing
    | refused h => rw [h.found_nothing_iff.mp hmissing.symm]
  · rintro rfl
    exact .refused .notFound

/-- A look is answered by what reading the file came to. -/
theorem reading_eq_iff {file : Except OsError Bytes} {reply : Reply Bool} :
    reading path file = reply ↔ Reads path file reply := by
  constructor
  · rintro rfl
    exact reads_reading path file
  · intro h
    cases h with
    | setting h => exact reading_of_holds (holds_iff_spells.mpr h) path
    | otherText h => rw [reading_octets, setting_of_other h]
    | noText h => exact reading_of_no_text h
    | refused h => exact congrArg _ (refused_eq_iff.mpr h)

end Replies

end Knob

/-! ## Systems -/

namespace System

variable {σ : Type} (system : System σ) (place : Placement) (s : σ)

/-- A look is answered by what reading the file comes to. -/
theorem reads_knob :
    Knob.Reads place.knob (system.read place.knob s) ((system.host place).ask .forwarding s).reply :=
  Knob.reads_reading place.knob (system.read place.knob s)

/-- A writing is answered by what looking for the file, opening it and writing to it come to. The
cases are those of the three calls in turn. -/
theorem writes_knob (on : Bool) :
    let r := (system.host place).make (.setForwarding on) s
    Knob.Writes system place on s r.reply r.state := by
  change Knob.Writes system place on s (system.writeKnob place on s).reply
    (system.writeKnob place on s).state
  cases hfound : system.contains place.knob s with
  | error cause =>
      rw [system.write_knob_of_unsearchable place hfound]
      exact .unsearchable hfound (Knob.refused_eq_iff.mp rfl)
  | ok there =>
      cases there with
      | false =>
          rw [system.write_knob_of_absent place hfound]
          exact .missing hfound
      | true =>
          obtain ⟨hreply, hstate⟩ := system.write_knob_of_there place hfound
          rw [hreply, hstate]
          rcases hopen : system.openFile place.knob Knob.openMode s with ⟨result, opened⟩
          cases result with
          | error cause =>
              rw [system.overwrite_of_unopened place hopen]
              exact .unopened hfound hopen (Knob.refused_eq_iff.mp rfl)
          | ok handle =>
              rcases hwrite : system.write handle (Knob.content on) opened with ⟨written, after⟩
              rw [system.overwrite_of_opened place hopen hwrite]
              cases written with
              | error cause => exact .unwritten hfound hopen hwrite (Knob.refused_eq_iff.mp rfl)
              | ok _ => exact .written hfound hopen hwrite

end System

/-! ## Files -/

namespace FileTree

variable {tree : FileTree} {cwd : Location} {path : String} {cause : OsError}

/-- Something that cannot be read is not there, or cannot be looked for, or is there. -/
theorem contains_of_read_error (h : tree.read cwd path = .error cause) :
    tree.contains cwd path = .ok false ∧ cause = .notFound ∨
      tree.contains cwd path = .error cause ∨ tree.contains cwd path = .ok true := by
  unfold contains
  cases hfind : tree.find cwd path with
  | error e =>
      unfold read at h
      rw [hfind] at h
      obtain rfl : e = cause := Except.error.inj h
      cases e with
      | notFound => exact .inl ⟨rfl, rfl⟩
      | _ => exact .inr (.inl rfl)
  | ok entry => exact .inr (.inr rfl)

/-- Nothing stands under a name exactly where there is nothing to read. -/
theorem contains_eq_false_iff :
    tree.contains cwd path = .ok false ↔ tree.read cwd path = .error .notFound := by
  unfold contains read
  cases hfind : tree.find cwd path with
  | error e => cases e <;> simp [bind, Except.bind]
  | ok entry => cases entry <;> simp [bind, Except.bind]

end FileTree

/-! ## Machines -/

namespace Machine

variable {machine : Machine} {place : Placement} {old : Bytes} {cause : OsError}

/-- What reading the file of the knob comes to. -/
def knobFile (machine : Machine) (place : Placement) : Except OsError Bytes :=
  machine.files.read machine.cwd place.knob

/-- A look at the knob. -/
def readKnob (machine : Machine) (place : Placement) : Response Machine Bool :=
  (system.host place).ask .forwarding machine

/-- A writing of the knob. -/
def writeKnob (machine : Machine) (place : Placement) (on : Bool) : Response Machine Unit :=
  (system.host place).make (.setForwarding on) machine

/-- A look is answered by what the file spells. -/
theorem read_knob_eq_iff {reply : Reply Bool} : (machine.readKnob place).reply = reply ↔
    Knob.Reads place.knob (machine.knobFile place) reply :=
  Knob.reading_eq_iff

/-- A knob that is a file is there and can be opened. It then holds nothing, and behind a writing
what was written. -/
theorem open_knob_of_file (h : machine.knobFile place = .ok old) :
    system.contains place.knob machine = .ok true ∧ ∃ handle opened,
      system.openFile place.knob Knob.openMode machine =
        (.ok handle, { machine with files := opened }) ∧
      machine.files.Rewritten machine.cwd place.knob [] opened ∧
      ∀ new, machine.files.Rewritten machine.cwd place.knob new (opened.write handle new) := by
  obtain ⟨executable, hfind⟩ := FileTree.find_of_read h
  have hmode : Knob.openMode.write = true := rfl
  obtain ⟨handle, opened, hopen, hkept, hwritten⟩ := opens_file hfind hmode
  refine ⟨FileTree.contains_of_find hfind, handle, opened, hopen, hkept, ?_⟩
  intro new
  have hnew := hwritten new
  rwa [OpenMode.written_of_truncate rfl] at hnew

/-- A knob that is a file is overwritten. -/
theorem write_knob_of_file (h : machine.knobFile place = .ok old) (on : Bool) :
    ∃ files, machine.files.Rewritten machine.cwd place.knob (Knob.content on) files ∧
      (machine.writeKnob place on).reply = .ok () ∧
      (machine.writeKnob place on).state = { machine with files } := by
  obtain ⟨hthere, handle, opened, hopen, -, hwritten⟩ := open_knob_of_file h
  obtain ⟨hreply, hstate⟩ := system.write_knob_of_there place hthere
  have hoverwrite : system.overwriteKnob place on machine =
      (.ok (), { machine with files := opened.write handle (Knob.content on) }) :=
    system.overwrite_of_opened place hopen rfl
  rw [hoverwrite] at hreply hstate
  exact ⟨_, hwritten (Knob.content on), hreply, hstate⟩

/-- Where the knob was opened but cannot be written to, it is left without content. -/
theorem write_knob_cut_short (h : machine.knobFile place = .ok old) (on : Bool) (cause : OsError) :
    let failing : System Machine :=
      { system with write := fun _ _ machine => (.error cause, machine) }
    let r := (failing.host place).make (.setForwarding on) machine
    r.reply = .error (Knob.refused place.knob cause) ∧ r.state.knobFile place = .ok [] := by
  intro failing r
  obtain ⟨hthere, handle, opened, hopen, hcut, -⟩ := open_knob_of_file h
  obtain ⟨hreply, hstate⟩ := failing.write_knob_of_there place hthere
  have hoverwrite : failing.overwriteKnob place on machine =
      (.error (Knob.refused place.knob cause), { machine with files := opened }) :=
    failing.overwrite_of_opened place hopen rfl
  rw [hoverwrite] at hreply hstate
  have hreply' : r.reply = .error (Knob.refused place.knob cause) := hreply
  have hstate' : r.state = { machine with files := opened } := hstate
  rw [hreply', hstate']
  exact ⟨rfl, hcut.content⟩

/-- One that is none is left as it is, and so is everything else: the mode makes no file. -/
theorem write_knob_refused (h : machine.knobFile place = .error cause) (on : Bool) :
    (machine.writeKnob place on).reply = .error (Knob.refused place.knob cause) ∧
      (machine.writeKnob place on).state = machine := by
  have hopen : system.openFile place.knob Knob.openMode machine = (.error cause, machine) := by
    change machine.openFile place.knob Knob.openMode = _
    unfold Machine.openFile
    rw [FileTree.open_refused h rfl rfl]
  change (system.writeKnob place on machine).reply = _ ∧
    (system.writeKnob place on machine).state = _
  rcases FileTree.contains_of_read_error h with ⟨hfound, rfl⟩ | hfound | hfound
  · rw [system.write_knob_of_absent place hfound]
    exact ⟨rfl, rfl⟩
  · rw [system.write_knob_of_unsearchable place hfound]
    exact ⟨rfl, rfl⟩
  · obtain ⟨hreply, hstate⟩ := system.write_knob_of_there place hfound
    rw [hreply, hstate, system.overwrite_of_unopened place hopen]
    exact ⟨rfl, rfl⟩

/-- A writing succeeds exactly where the knob is a file. -/
theorem write_knob_eq_ok_iff {on : Bool} : (machine.writeKnob place on).reply = .ok () ↔
    ∃ old, machine.knobFile place = .ok old := by
  cases hfile : machine.knobFile place with
  | ok old =>
      obtain ⟨-, -, hreply, -⟩ := write_knob_of_file hfile on
      exact iff_of_true hreply ⟨old, rfl⟩
  | error cause =>
      rw [(write_knob_refused hfile on).1]
      exact iff_of_false nofun nofun

/-- Where it is none, a writing ends with the error that the refusal stands for. -/
theorem write_knob_eq_error_iff {on : Bool} {error : HostError} :
    (machine.writeKnob place on).reply = .error error ↔
      ∃ cause, machine.knobFile place = .error cause ∧ Knob.RefusedFor place.knob cause error := by
  -- a knob that can be read can be written, so only an unreadable one gives an error
  cases hfile : machine.knobFile place with
  | ok old =>
      obtain ⟨-, -, hreply, -⟩ := write_knob_of_file hfile on
      rw [hreply]
      exact iff_of_false nofun nofun
  | error cause =>
      rw [(write_knob_refused hfile on).1, Except.error.injEq, Knob.refused_eq_iff]
      constructor
      · exact fun h => ⟨cause, rfl, h⟩
      · rintro ⟨other, hother, h⟩
        rwa [Except.error.inj hother]

end Machine

end GuestNat
