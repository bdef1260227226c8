import GuestNat.Proofs.KnobCalls
import GuestNat.Proofs.Traces

/-!
# The knob through a run

Whatever is done on a machine, the knob holds what was written to it last, and tells it to whoever
looks; a writing that fails leaves everything as it was.

* `Knob.behind`: what the file of the knob holds behind something that happened;
* `Knob.Answered`: a call about the knob is answered by what its file holds;
* `Machine.SameButKnob`: machines whose files differ in the content of the knob only;
* `Machine.keeps_knob`: one call, in any state of the files;
* `knob_through_run`: any plan, by induction on it;
* `knob_keeps_what_is_written`: both.
-/

namespace GuestNat

variable {α σ : Type}

namespace Knob

/-- What the file holds behind something that happened: a setting that was written, or else what it
held before. -/
def behind (file : Except OsError Bytes) : Occurrence → Except OsError Bytes
  | .made (.setForwarding on) (.ok ()) => .ok (content on)
  | _ => file

/-- What the file holds behind all that happened. -/
def behindAll (file : Except OsError Bytes) (trace : List Occurrence) : Except OsError Bytes :=
  trace.foldl behind file

/-- A writing succeeds exactly where the knob is a file. -/
inductive Takes (path : String) : Except OsError Bytes → Reply Unit → Prop
  | file {old : Bytes} : Takes path (.ok old) (.ok ())
  | refused {cause : OsError} {error : HostError} (h : RefusedFor path cause error) :
      Takes path (.error cause) (.error error)

/-- A call about the knob is answered by what its file holds. -/
def Answered (path : String) (file : Except OsError Bytes) : Occurrence → Prop
  | .asked .forwarding reply => Reads path file reply
  | .made (.setForwarding _) reply => Takes path file reply
  | _ => True

/-- Each call about the knob is answered by what its file holds at that time. -/
def AnsweredInTurn (path : String) : Except OsError Bytes → List Occurrence → Prop
  | _, [] => True
  | file, call :: trace => Answered path file call ∧ AnsweredInTurn path (behind file call) trace

section Traces

variable {path : String} {file : Except OsError Bytes} {t u : List Occurrence}

theorem behind_all_append (file : Except OsError Bytes) (t u : List Occurrence) :
    behindAll file (t ++ u) = behindAll (behindAll file t) u :=
  List.foldl_append

theorem answered_append : AnsweredInTurn path file (t ++ u) ↔
    AnsweredInTurn path file t ∧ AnsweredInTurn path (behindAll file t) u := by
  induction t generalizing file with
  | nil => exact (and_iff_right trivial).symm
  | cons call t ih =>
      rw [List.cons_append, AnsweredInTurn, AnsweredInTurn, ih, and_assoc]
      rfl

/-- So each single call is. -/
theorem AnsweredInTurn.call (h : AnsweredInTurn path file t) {before after : List Occurrence}
    {call : Occurrence} (hsplit : t = before ++ call :: after) :
    Answered path (behindAll file before) call := by
  rw [hsplit, answered_append] at h
  exact h.2.1

/-- Events say nothing about the file. -/
theorem behind_all_events (file : Except OsError Bytes) (events : List Event) :
    behindAll file (events.map .noted) = file := by
  induction events with
  | nil => rfl
  | cons event events ih => exact ih

theorem answered_events (events : List Event) : AnsweredInTurn path file (events.map .noted) := by
  induction events with
  | nil => trivial
  | cons event events ih => exact ⟨trivial, ih⟩

theorem behind_all_call {ρ : Type} (r : Response σ ρ) (call : Occurrence) :
    behindAll file (r.trace call) = behind file call := by
  unfold Response.trace
  rw [behind_all_append, behind_all_events]
  rfl

theorem answered_call {ρ : Type} {r : Response σ ρ} {call : Occurrence}
    (h : Answered path file call) : AnsweredInTurn path file (r.trace call) := by
  unfold Response.trace
  rw [answered_append, behind_all_events]
  exact ⟨answered_events r.events, h, trivial⟩

/-- What is not written to holds what it held. -/
theorem behind_all_of_no_writing (h : ∀ on, .made (.setForwarding on) (.ok ()) ∉ t) :
    behindAll file t = file := by
  induction t generalizing file with
  | nil => rfl
  | cons call t ih =>
      -- a call that is no successful write leaves the content as it was
      have hbehind : behind file call = file := by
        unfold behind
        split
        · next on => exact absurd List.mem_cons_self (h on)
        · rfl
      have hrest : ∀ on, .made (.setForwarding on) (.ok ()) ∉ t := fun on hmem =>
        h on (List.mem_cons_of_mem call hmem)
      change behindAll (behind file call) t = file
      rw [hbehind, ih hrest]

end Traces

end Knob

/-! ## One call -/

namespace Machine

variable {place : Placement} {machine after : Machine}

/-- The files of two machines differ in the content of the knob only, and not at all where the knob
is no file. -/
structure SameButKnob (place : Placement) (machine after : Machine) : Prop where
  cwd : after.cwd = machine.cwd
  /-- Nothing comes into being and nothing goes. -/
  outline : machine.files.SameOutline after.files
  elsewhere : ∀ location, machine.files.locate machine.cwd place.knob ≠ .ok location →
    after.files.entry? location = machine.files.entry? location
  untouched : ∀ cause, machine.knobFile place = .error cause → after.files = machine.files

theorem SameButKnob.of_files (hcwd : after.cwd = machine.cwd)
    (hfiles : after.files = machine.files) : SameButKnob place machine after where
  cwd := hcwd
  outline := fun _ => by rw [hfiles]
  elsewhere := fun _ _ => by rw [hfiles]
  untouched := fun _ _ => hfiles

theorem SameButKnob.refl (machine : Machine) : SameButKnob place machine machine :=
  .of_files rfl rfl

theorem SameButKnob.trans {later : Machine} (h : SameButKnob place machine after)
    (h' : SameButKnob place after later) : SameButKnob place machine later where
  cwd := h'.cwd.trans h.cwd
  outline := fun location => (h.outline location).trans (h'.outline location)
  elsewhere := by
    intro location hlocate
    -- the name of the knob leads to the same location in both trees
    have hlocate' : after.files.locate after.cwd place.knob ≠ .ok location := by
      rw [h.cwd, ← h.outline.locate]
      exact hlocate
    exact (h'.elsewhere location hlocate').trans (h.elsewhere location hlocate)
  untouched := by
    intro cause hfile
    have hfiles := h.untouched cause hfile
    have hfile' : after.knobFile place = .error cause := by
      unfold knobFile
      rwa [hfiles, h.cwd]
    exact (h'.untouched cause hfile').trans hfiles

/-- A program that is run leaves the files alone. -/
theorem files_of_start (machine : Machine) (program : String) (args : List String) :
    (machine.start program args).2.files = machine.files ∧
      (machine.start program args).2.cwd = machine.cwd := by
  unfold start
  split
  · exact ⟨rfl, rfl⟩
  · split
    · exact ⟨rfl, rfl⟩
    · exact ⟨rfl, rfl⟩

/-- What a call does to the knob. -/
structure KnobKept (place : Placement) (machine : Machine) (call : Occurrence) (after : Machine) :
    Prop where
  answered : Knob.Answered place.knob (machine.knobFile place) call
  file : after.knobFile place = Knob.behind (machine.knobFile place) call
  rest : SameButKnob place machine after

/-- A call that leaves the files alone keeps the knob, if it is answered by it or not about it. -/
theorem KnobKept.of_files {call : Occurrence} (hcwd : after.cwd = machine.cwd)
    (hfiles : after.files = machine.files)
    (hanswered : Knob.Answered place.knob (machine.knobFile place) call)
    (hbehind : Knob.behind (machine.knobFile place) call = machine.knobFile place) :
    KnobKept place machine call after where
  answered := hanswered
  file := by
    rw [hbehind]
    unfold knobFile
    rw [hcwd, hfiles]
  rest := .of_files hcwd hfiles

variable (place) (machine)

theorem ask_keeps_knob (question : Question) :
    let r := (system.host place).ask question machine
    KnobKept place machine (.asked question r.reply) r.state := by
  cases question with
  | forwarding => exact .of_files rfl rfl (system.reads_knob place machine) rfl
  | interface name => exact .of_files rfl rfl trivial rfl
  | rule rule =>
      obtain ⟨hfiles, hcwd⟩ := machine.files_of_start place.firewall
        (FirewallCommand.arguments rule .check)
      exact .of_files hcwd hfiles trivial rfl

theorem make_keeps_knob (change : Change) :
    let r := (system.host place).make change machine
    KnobKept place machine (.made change r.reply) r.state := by
  intro r
  cases change with
  | setForwarding on =>
      have hwrite : r = machine.writeKnob place on := rfl
      rw [hwrite]
      cases hfile : machine.knobFile place with
      | ok old =>
          obtain ⟨files, hrewritten, hreply, hstate⟩ := write_knob_of_file hfile on
          rw [hreply, hstate]
          refine ⟨?_, hrewritten.content, rfl, hrewritten.outline, hrewritten.elsewhere, ?_⟩
          · rw [hfile]
            exact .file
          · intro cause hcause
            rw [hfile] at hcause
            cases hcause
      | error cause =>
          obtain ⟨hreply, hstate⟩ := write_knob_refused hfile on
          rw [hreply, hstate]
          refine .of_files rfl rfl ?_ rfl
          rw [hfile]
          exact .refused (Knob.refused_eq_iff.mp rfl)
  -- the firewall program is run, which touches no file
  | append rule =>
      obtain ⟨hfiles, hcwd⟩ := machine.files_of_start place.firewall
        (FirewallCommand.arguments rule .append)
      exact .of_files hcwd hfiles trivial rfl
  | delete rule =>
      obtain ⟨hfiles, hcwd⟩ := machine.files_of_start place.firewall
        (FirewallCommand.arguments rule .delete)
      exact .of_files hcwd hfiles trivial rfl

/-- What calls about the knob come to on a machine, whatever stands under its name. -/
structure KeepsKnob (machine : Machine) (place : Placement) : Prop where
  /-- A writing succeeds exactly where the knob is a file, -/
  written_iff : ∀ on, (machine.writeKnob place on).reply = .ok () ↔
    ∃ old executable, machine.files.find machine.cwd place.knob = .ok (.file old executable)
  /-- and then the file holds the digit and a line feed and nothing else, which the next look
  finds, and all else is as it was. -/
  written : ∀ on, (machine.writeKnob place on).reply = .ok () →
    let after := (machine.writeKnob place on).state
    after.knobFile place = .ok [if on then 0x31 else 0x30, 0x0A] ∧
      (after.readKnob place).reply = .ok on ∧ SameButKnob place machine after
  /-- A writing that fails changes nothing. -/
  refused : ∀ on error, (machine.writeKnob place on).reply = .error error →
    (machine.writeKnob place on).state = machine
  /-- Only if the file is opened and what is written does not arrive, it is left without content. -/
  cut_short : ∀ on cause old, machine.knobFile place = .ok old →
    let failing : System Machine := { system with write := fun _ _ machine => (.error cause, machine) }
    let r := (failing.host place).make (.setForwarding on) machine
    r.reply = .error (Knob.refused place.knob cause) ∧ r.state.knobFile place = .ok []
  /-- The knob is said to be missing exactly where there is nothing under its name, by a writing -/
  missing_iff : ∀ on, (machine.writeKnob place on).reply = .error (Knob.missing place.knob) ↔
    machine.files.contains machine.cwd place.knob = .ok false
  /-- and by a look. -/
  missing_iff_read : (machine.readKnob place).reply = .error (Knob.missing place.knob) ↔
    machine.files.contains machine.cwd place.knob = .ok false
  /-- All refusals are told by both alike. -/
  refusals : ∀ cause, machine.knobFile place = .error cause → ∃ error,
    Knob.RefusedFor place.knob cause error ∧ (machine.readKnob place).reply = .error error ∧
      ∀ on, (machine.writeKnob place on).reply = .error error
  /-- A look finds a setting exactly where the file spells it, -/
  found_iff : ∀ on, (machine.readKnob place).reply = .ok on ↔
    ∃ content, machine.knobFile place = .ok content ∧ Knob.Spells content on
  /-- any other text is none of the platform's, -/
  other_text : ∀ text, machine.knobFile place = .ok (Text.Utf8.octets text) →
    (∀ on, ¬Knob.Spells (Text.Utf8.octets text) on) →
      ∃ detail, (machine.readKnob place).reply = .error (.unsupportedPlatform detail)
  /-- and it changes nothing. -/
  looked : (machine.readKnob place).state = machine

theorem keeps_knob : machine.KeepsKnob place where
  written_iff := by
    intro on
    rw [write_knob_eq_ok_iff]
    constructor
    · rintro ⟨old, hfile⟩
      exact ⟨old, FileTree.find_of_read hfile⟩
    · rintro ⟨old, executable, hfind⟩
      exact ⟨old, FileTree.read_of_find hfind⟩
  written := by
    intro on hreply after
    -- a write that succeeds went through a file, whose content is now the one written
    obtain ⟨old, hfile⟩ := write_knob_eq_ok_iff.mp hreply
    obtain ⟨files, hrewritten, -, hstate⟩ := write_knob_of_file hfile on
    have hafter : after.knobFile place = .ok (Knob.content on) := by
      have hstate' : after = { machine with files } := hstate
      rw [hstate']
      exact hrewritten.content
    have hrest := (make_keeps_knob place machine (.setForwarding on)).rest
    refine ⟨hafter, ?_, hrest⟩
    rw [read_knob_eq_iff, hafter]
    exact .setting (Knob.holds_iff_spells.mp (Knob.holds_content on))
  refused := by
    intro on error herror
    -- a write that fails found no file to open
    obtain ⟨cause, hfile, -⟩ := write_knob_eq_error_iff.mp herror
    exact (write_knob_refused hfile on).2
  cut_short := fun on cause old hfile => write_knob_cut_short hfile on cause
  missing_iff := by
    intro on
    rw [write_knob_eq_error_iff, FileTree.contains_eq_false_iff]
    -- of all causes only a missing file is told as a missing knob
    constructor
    · rintro ⟨cause, hfile, hrefused⟩
      rwa [← hrefused.found_nothing_iff.mp rfl]
    · exact fun hfile => ⟨.notFound, hfile, .notFound⟩
  missing_iff_read := by
    rw [read_knob_eq_iff, Knob.Reads.missing_iff, FileTree.contains_eq_false_iff]
    rfl
  refusals := by
    intro cause hfile
    -- reading and writing word the cause in the same way
    have hrefused : Knob.RefusedFor place.knob cause (Knob.refused place.knob cause) :=
      Knob.refused_eq_iff.mp rfl
    refine ⟨_, hrefused, ?_, fun on => (write_knob_refused hfile on).1⟩
    rw [read_knob_eq_iff, hfile]
    exact .refused hrefused
  found_iff := by
    intro on
    rw [read_knob_eq_iff]
    constructor
    · intro h
      cases hfile : machine.knobFile place with
      | error cause =>
          rw [hfile] at h
          cases h
      | ok content =>
          rw [hfile] at h
          cases h with
          | setting h => exact ⟨content, rfl, h⟩
    · rintro ⟨content, hfile, hspelled⟩
      rw [hfile]
      exact .setting hspelled
  other_text := by
    intro text hfile hother
    have hreads : ∃ detail, Knob.Reads place.knob (.ok (Text.Utf8.octets text))
        (.error (.unsupportedPlatform detail)) := ⟨_, .otherText hother⟩
    rw [← hfile] at hreads
    obtain ⟨detail, hdetail⟩ := hreads
    exact ⟨detail, read_knob_eq_iff.mpr hdetail⟩
  looked := rfl

end Machine

/-! ## Runs -/

/-- What something that has happened did to the knob. -/
structure Machine.KnobThrough (place : Placement) (machine : Machine) (trace : List Occurrence)
    (after : Machine) : Prop where
  answered : Knob.AnsweredInTurn place.knob (machine.knobFile place) trace
  file : after.knobFile place = Knob.behindAll (machine.knobFile place) trace
  rest : SameButKnob place machine after

/-- A call that keeps the knob, and what has happened behind it. -/
theorem Machine.KnobThrough.behind_call {ρ : Type} {place : Placement} {machine after : Machine}
    {r : Response Machine ρ} {call : Occurrence} {t : List Occurrence}
    (hcall : KnobKept place machine call r.state) (h : KnobThrough place r.state t after) :
    KnobThrough place machine (r.trace call ++ t) after where
  answered := by
    rw [Knob.answered_append, Knob.behind_all_call, ← hcall.file]
    exact ⟨Knob.answered_call hcall.answered, h.answered⟩
  file := by
    rw [Knob.behind_all_append, Knob.behind_all_call, ← hcall.file]
    exact h.file
  rest := hcall.rest.trans h.rest

/-- Every plan keeps the knob, by induction on the plan. -/
theorem knob_through_run (place : Placement) (plan : Plan α) (machine : Machine) :
    let run := plan.run (Machine.system.host place) machine
    machine.KnobThrough place run.trace run.state := by
  induction plan generalizing machine with
  | done value => exact ⟨trivial, rfl, .refl machine⟩
  | note event next ih =>
      obtain ⟨hanswered, hfile, hrest⟩ := ih machine
      exact ⟨⟨trivial, hanswered⟩, hfile, hrest⟩
  | ask question next ih =>
      exact .behind_call (machine.ask_keeps_knob place question) (ih _ _)
  | make change next ih =>
      exact .behind_call (machine.make_keeps_knob place change) (ih _ _)

/-- What a run tells of the knob, and what it leaves. -/
structure KnobHistory (place : Placement) (machine : Machine) (run : Run Machine α) : Prop where
  /-- Each call about the knob is answered by what its file holds at that time. -/
  answered : ∀ before call after, run.trace = before ++ call :: after →
    Knob.Answered place.knob (Knob.behindAll (machine.knobFile place) before) call
  /-- A look behind a successful writing finds what was written last. -/
  latest : ∀ before on between reply after,
    run.trace = before ++ .made (.setForwarding on) (.ok ()) ::
      (between ++ .asked .forwarding reply :: after) →
    (∀ other, .made (.setForwarding other) (.ok ()) ∉ between) → reply = .ok on
  /-- In the end the file holds what was written last, or what it held at first. -/
  file : run.state.knobFile place = Knob.behindAll (machine.knobFile place) run.trace
  /-- No other file has changed, and none at all where the knob is no file. -/
  rest : Machine.SameButKnob place machine run.state

theorem Machine.KnobThrough.history {place : Placement} {machine : Machine} {run : Run Machine α}
    (h : machine.KnobThrough place run.trace run.state) : KnobHistory place machine run where
  answered := fun _ _ _ => h.answered.call
  latest := by
    intro before on between reply after htrace hbetween
    have hsplit : run.trace = (before ++ .made (.setForwarding on) (.ok ()) :: between) ++
        .asked .forwarding reply :: after := by
      rw [htrace, List.append_assoc, List.cons_append]
    have hread := h.answered.call hsplit
    -- behind the writing the file holds the setting, and nothing is written between
    rw [Knob.behind_all_append] at hread
    change Knob.Reads place.knob (Knob.behindAll (.ok (Knob.content on)) between) reply at hread
    rw [Knob.behind_all_of_no_writing hbetween, ← Knob.reading_eq_iff,
      Knob.reading_of_holds (Knob.holds_content on)] at hread
    exact hread.symm
  file := h.file
  rest := h.rest

/-- **The knob keeps what is written to it.** On any system its calls are answered by what looking
for the file, reading it, opening it and writing to it come to. On a machine, whatever stands under
its name: a writing succeeds exactly where there is a file, which then holds the setting and nothing
else, and a writing that fails changes nothing and creates nothing; a look finds a setting exactly
where the file spells it; and in any run, with any calls in any order, a look behind a writing finds
what was written last. -/
theorem knob_keeps_what_is_written (system : System σ) (s : σ) (place : Placement)
    (machine : Machine) (plan : Plan α) :
    (Knob.Reads place.knob (system.read place.knob s)
        ((system.host place).ask .forwarding s).reply ∧
      ∀ on, Knob.Writes system place on s
        ((system.host place).make (.setForwarding on) s).reply
        ((system.host place).make (.setForwarding on) s).state) ∧
    machine.KeepsKnob place ∧
    KnobHistory place machine (plan.run (Machine.system.host place) machine) := by
  refine ⟨⟨system.reads_knob place s, fun on => system.writes_knob place s on⟩,
    machine.keeps_knob place, ?_⟩
  exact (knob_through_run place plan machine).history

/-- A knob with blanks of several kinds around the digit and more octets than are written, and one
below a file. -/
theorem knob_keeps_what_is_written_over_blanks :
    let padded : Bytes := Text.Utf8.octets "\u3000\u00850 \n\n"
    let files : FileTree := { entries := [(["knob"], .file padded false)] }
    let machine : Machine := { files }
    let plan : Plan (List (Reply Bool)) :=
      .ask .forwarding fun first => .make (.setForwarding true) fun _ =>
      .ask .forwarding fun second => .make (.setForwarding false) fun _ =>
      .ask .forwarding fun third => .done [first, second, third]
    let run := plan.run (Machine.system.host { knob := "/knob" }) machine
    let below := plan.run (Machine.system.host { knob := "/knob/below" }) machine
    let refusal : Reply Bool := .error (.io "Not a directory (os error 20)")
    run.value = [.ok false, .ok true, .ok false] ∧ below.value = [refusal, refusal, refusal] ∧
      KnobHistory { knob := "/knob" } machine run ∧
      KnobHistory { knob := "/knob/below" } machine below := by
  intro padded files machine plan run below refusal
  obtain ⟨-, -, hrun⟩ :=
    knob_keeps_what_is_written Machine.system machine { knob := "/knob" } machine plan
  obtain ⟨-, -, hbelow⟩ :=
    knob_keeps_what_is_written Machine.system machine { knob := "/knob/below" } machine plan
  exact ⟨by rfl, by rfl, hrun, hbelow⟩

end GuestNat
