import GuestNat.Host.System
import GuestNat.Proofs.Completion
import GuestNat.Proofs.Footprint
import GuestNat.Proofs.Words

/-!
# Systems that do as they are told

What is expected of the files and of the firewall command behind a host, and what the host then
answers to one call: the same as a host in memory that holds the same.

* `NatConfig.Usable`: configurations that a system takes without complaint;
* `Obeys`: the firewall command keeps a list of rules, the knob is a file that can be read and
  written, and the interfaces are fixed;
* `Depicts`: a host in memory holds what a system shows;
* `Obeys.ask`, `Obeys.make`: one call.

Nothing is expected of rules that no usable configuration has, nor of other programs and files.
-/

namespace GuestNat

/-! ## What a system takes -/

/-- An interface can have the name, and the name can be part of a path and of a command. -/
structure InterfaceName.Usable (name : String) : Prop where
  check : InterfaceName.check name = .ok ()
  no_nul : '\x00' ∉ name.toList

/-- A proper configuration without a NUL in the names of its interfaces. -/
structure NatConfig.Usable (config : NatConfig) : Prop where
  check : config.check = .ok ()
  no_nul : ∀ name ∈ [config.tap, config.uplink], '\x00' ∉ name.toList

/-- The rule is one of a usable configuration. -/
def Rule.Usable (rule : Rule) : Prop := ∃ config : NatConfig, config.Usable ∧ rule ∈ config.rules

theorem NatConfig.Usable.interface {config : NatConfig} (h : config.Usable) {name : String}
    (hname : name ∈ [config.tap, config.uplink]) : InterfaceName.Usable name :=
  ⟨config.check_names h.check name hname, h.no_nul name hname⟩

theorem Rule.Usable.plain {rule : Rule} (h : rule.Usable) : rule.Plain := by
  obtain ⟨config, husable, hrule⟩ := h
  exact config.plain_rules husable.check rule hrule

/-- The question is about a name or a rule that a system takes. -/
def Question.Usable : Question → Prop
  | .forwarding => True
  | .interface name => InterfaceName.Usable name
  | .rule wanted => wanted.Usable

/-- The change is about a rule that a system takes, if about any. -/
def Change.Usable (change : Change) : Prop := ∀ rule, change.rule? = some rule → rule.Usable

theorem NatConfig.Usable.question {config : NatConfig} (h : config.Usable) {question : Question}
    (hquestion : config.Asks question) : question.Usable := by
  cases question with
  | forwarding => trivial
  | interface name => exact h.interface hquestion
  | rule rule => exact ⟨config, h, hquestion⟩

/-! ## What a system does -/

/-- The line by which the firewall command says that no rule matches. -/
def noRuleLine : String := "iptables: Bad rule (does a matching rule exist in that chain?)."

namespace Outcome

def Succeeded (outcome : Outcome) : Prop := ∃ stderr, outcome = .exited 0 stderr

/-- The command says that no rule matches, with or without a line feed behind. -/
def FoundNone (outcome : Outcome) : Prop :=
  ∃ ending ∈ ["", "\n"], outcome = .exited 1 (Text.Utf8.ofAscii (noRuleLine ++ ending))

end Outcome

/-- The content of the knob stands for the setting. -/
def Knob.Holds (content : Bytes) (on : Bool) : Prop :=
  ∃ text, Text.Utf8.decode? content = some text ∧ Text.trim text = Knob.digit on

variable {σ : Type}

/-- A system keeps rules and a knob, and has interfaces. What its states show is left open: the
rules and the content of the knob. -/
structure Obeys (system : System σ) (place : Placement) (present : String → Bool)
    (Shows : σ → List Rule → Bytes → Prop) : Prop where
  /-- The firewall command appends a rule. -/
  appends : ∀ s rules knob rule, Shows s rules knob → rule.Usable →
    let run := system.start place.firewall (FirewallCommand.arguments rule .append) s
    run.1.Succeeded ∧ Shows run.2 (rules ++ [rule]) knob
  /-- It looks for a rule. -/
  checks : ∀ s rules knob rule, Shows s rules knob → rule.Usable →
    let run := system.start place.firewall (FirewallCommand.arguments rule .check) s
    (if rule ∈ rules then run.1.Succeeded else run.1.FoundNone) ∧ Shows run.2 rules knob
  /-- It takes the first equal rule away, if there is one. -/
  deletes : ∀ s rules knob rule, Shows s rules knob → rule.Usable →
    let run := system.start place.firewall (FirewallCommand.arguments rule .delete) s
    (if rule ∈ rules then run.1.Succeeded else run.1.FoundNone) ∧
      Shows run.2 (rules.erase rule) knob
  knob_there : ∀ s rules knob, Shows s rules knob → system.contains place.knob s = .ok true
  knob_read : ∀ s rules knob, Shows s rules knob → system.read place.knob s = .ok knob
  /-- The knob can be opened without what it held, and then takes what is written to it. -/
  knob_written : ∀ s rules knob content, Shows s rules knob →
    let opened := system.openFile place.knob { write := true, truncate := true } s
    ∃ handle, opened.1 = .ok handle ∧
      let written := system.write handle content opened.2
      written.1 = .ok () ∧ Shows written.2 rules content
  /-- The interfaces stay what they are. -/
  interface : ∀ s rules knob name, Shows s rules knob → InterfaceName.Usable name →
    system.contains (System.interfacePath place name) s = .ok (present name)

/-- A host in memory that refuses nothing holds what a state of the system shows. -/
structure Depicts (present : String → Bool) (Shows : σ → List Rule → Bytes → Prop) (s : σ)
    (memory : Rehearsal) : Prop where
  shown : ∃ knob, Shows s memory.rules knob ∧ Knob.Holds knob memory.forwarding
  interfaces : ∀ name, InterfaceName.Usable name → memory.hasInterface name = present name
  is_open : memory.Open

/-! ## Answers -/

theorem Knob.holds_content (on : Bool) : Knob.Holds (Knob.content on) on := by
  cases on with
  | true => exact ⟨"1\n", by decide, by decide⟩
  | false => exact ⟨"0\n", by decide, by decide⟩

/-- The knob is read as the setting that its content stands for. -/
theorem Knob.reading_of_holds {content : Bytes} {on : Bool} (h : Knob.Holds content on)
    (path : String) : Knob.reading path (.ok content) = .ok on := by
  obtain ⟨text, hdecode, htrim⟩ := h
  simp only [Knob.reading, hdecode, Knob.setting, htrim]
  cases on <;> rfl

section Writing

namespace System

variable (system : System σ) (place : Placement) {on : Bool} {s opened after : σ}
  {handle : Handle} {written : Except OsError Unit} {cause : OsError}

theorem overwrite_of_unopened
    (hopen : system.openFile place.knob Knob.openMode s = (.error cause, opened)) :
    system.overwriteKnob place on s = (.error (Knob.refused place.knob cause), opened) := by
  unfold overwriteKnob
  rw [hopen]

theorem overwrite_of_opened
    (hopen : system.openFile place.knob Knob.openMode s = (.ok handle, opened))
    (hwrite : system.write handle (Knob.content on) opened = (written, after)) :
    system.overwriteKnob place on s = (written.mapError (Knob.refused place.knob), after) := by
  unfold overwriteKnob
  rw [hopen]
  exact congrArg (fun r => (r.1.mapError (Knob.refused place.knob), r.2)) hwrite

/-- A knob that is not there is not opened. -/
theorem write_knob_of_absent (hthere : system.contains place.knob s = .ok false) :
    system.writeKnob place on s = { reply := .error (Knob.missing place.knob), state := s } := by
  unfold writeKnob
  rw [hthere]
  rfl

/-- Nor is one that cannot be looked for. -/
theorem write_knob_of_unsearchable (hthere : system.contains place.knob s = .error cause) :
    system.writeKnob place on s =
      { reply := .error (Knob.refused place.knob cause), state := s } := by
  unfold writeKnob
  rw [hthere]
  rfl

/-- A knob that is there is opened and written to. -/
theorem write_knob_of_there (hthere : system.contains place.knob s = .ok true) :
    (system.writeKnob place on s).reply = (system.overwriteKnob place on s).1 ∧
      (system.writeKnob place on s).state = (system.overwriteKnob place on s).2 := by
  unfold writeKnob
  rw [hthere]
  exact ⟨rfl, rfl⟩

end System

end Writing

namespace FirewallCommand

variable {outcome : Outcome} (program command : String)

theorem changeAnswer_of_succeeded (h : outcome.Succeeded) :
    changeAnswer program command outcome = .ok () := by
  obtain ⟨stderr, rfl⟩ := h
  rfl

theorem checkAnswer_of_succeeded (h : outcome.Succeeded) :
    checkAnswer program command outcome = .ok true := by
  obtain ⟨stderr, rfl⟩ := h
  rfl

/-- Status 1 is an answer if the words are right. -/
theorem checkAnswer_of_words {stderr : Bytes} (hwords : saysNoMatch (Text.Utf8.decodeLossy stderr))
    (hquiet : saysPermission (Text.Utf8.decodeLossy stderr) = false) :
    checkAnswer program command (.exited 1 stderr) = .ok false := by
  simp [checkAnswer, noMatchStatus, hwords, hquiet]

/-- The line is taken for an answer, not for an error. -/
theorem checkAnswer_of_found_none (h : outcome.FoundNone) :
    checkAnswer program command outcome = .ok false := by
  obtain ⟨ending, hending, rfl⟩ := h
  have hwords : ∀ ending ∈ ["", "\n"],
      saysNoMatch (Text.Utf8.decodeLossy (Text.Utf8.ofAscii (noRuleLine ++ ending))) = true := by
    decide +kernel
  have hquiet : ∀ ending ∈ ["", "\n"],
      saysPermission (Text.Utf8.decodeLossy (Text.Utf8.ofAscii (noRuleLine ++ ending))) =
        false := by
    decide +kernel
  exact checkAnswer_of_words program command (hwords ending hending) (hquiet ending hending)

end FirewallCommand

/-! ## One call -/

section Calls

variable {system : System σ} {place : Placement} {present : String → Bool}
  {Shows : σ → List Rule → Bytes → Prop} {s : σ} {memory : Rehearsal}

/-- A question is answered as in memory. -/
theorem Obeys.ask (h : Obeys system place present Shows) (hdepicts : Depicts present Shows s memory)
    {question : Question} (hquestion : question.Usable) :
    ((system.host place).ask question s).reply = .ok (memory.answer question) ∧
      Depicts present Shows ((system.host place).ask question s).state memory := by
  obtain ⟨⟨knob, hshows, hholds⟩, hinterfaces, hopen⟩ := hdepicts
  cases question with
  | forwarding =>
      refine ⟨?_, ⟨knob, hshows, hholds⟩, hinterfaces, hopen⟩
      change Knob.reading place.knob (system.read place.knob s) = _
      rw [h.knob_read s _ knob hshows]
      exact Knob.reading_of_holds hholds place.knob
  | interface name =>
      refine ⟨?_, ⟨knob, hshows, hholds⟩, hinterfaces, hopen⟩
      change (system.contains (System.interfacePath place name) s).mapError _ = _
      rw [h.interface s _ knob name hshows hquestion, ← hinterfaces name hquestion]
      rfl
  | rule rule =>
      -- both look for the rule among the same ones
      obtain ⟨houtcome, hshows'⟩ := h.checks s _ knob rule hshows hquestion
      refine ⟨?_, ⟨knob, hshows', hholds⟩, hinterfaces, hopen⟩
      change FirewallCommand.checkAnswer place.firewall _ _ = _
      rw [Rehearsal.answer_rule]
      by_cases hmem : rule ∈ memory.rules
      · rw [if_pos hmem] at houtcome
        rw [decide_eq_true hmem]
        exact FirewallCommand.checkAnswer_of_succeeded _ _ houtcome
      · rw [if_neg hmem] at houtcome
        rw [decide_eq_false hmem]
        exact FirewallCommand.checkAnswer_of_found_none _ _ houtcome

/-- A change that is accepted in memory is made by the system. -/
theorem Obeys.make (h : Obeys system place present Shows)
    (hdepicts : Depicts present Shows s memory) {change : Change} (hchange : change.Usable)
    (haccepts : memory.Accepts change) :
    ((system.host place).make change s).reply = .ok () ∧
      Depicts present Shows ((system.host place).make change s).state (memory.after change) := by
  obtain ⟨⟨knob, hshows, hholds⟩, hinterfaces, hopen⟩ := hdepicts
  cases change with
  | setForwarding on =>
      obtain ⟨handle, hopened, hwritten, hshows'⟩ :=
        h.knob_written s _ knob (Knob.content on) hshows
      have hoverwrite : system.overwriteKnob place on s = (.ok (), _) :=
        system.overwrite_of_opened place (Prod.ext hopened rfl) (Prod.ext hwritten rfl)
      obtain ⟨hreply, hstate⟩ := system.write_knob_of_there place (h.knob_there s _ knob hshows)
      change (system.writeKnob place on s).reply = _ ∧ Depicts present Shows
        (system.writeKnob place on s).state _
      rw [hreply, hstate, hoverwrite]
      exact ⟨rfl, ⟨_, hshows', Knob.holds_content on⟩, hinterfaces, hopen.after _⟩
  | append rule =>
      obtain ⟨houtcome, hshows'⟩ := h.appends s _ knob rule hshows (hchange rule rfl)
      exact ⟨FirewallCommand.changeAnswer_of_succeeded _ _ houtcome, ⟨knob, hshows', hholds⟩,
        hinterfaces, hopen.after _⟩
  | delete rule =>
      obtain ⟨houtcome, hshows'⟩ := h.deletes s _ knob rule hshows (hchange rule rfl)
      -- the memory accepts no deletion of a rule that is not there, so the command finds it
      have hmem : rule ∈ memory.rules := haccepts.2
      rw [if_pos hmem] at houtcome
      exact ⟨FirewallCommand.changeAnswer_of_succeeded _ _ houtcome, ⟨knob, hshows', hholds⟩,
        hinterfaces, hopen.after _⟩

end Calls

end GuestNat
