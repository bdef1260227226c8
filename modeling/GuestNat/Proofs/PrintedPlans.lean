import GuestNat.Proofs.OneNetwork
import GuestNat.Proofs.WatchedRuns

/-!
# Printed rules and plans

A rule and a change are shown as one line each. For the rules of a proper configuration the line
says everything: splitting it gives back the words that the firewall command is run with, and
different rules, changes and configurations are shown differently.

* `Change.command?`, `Change.words`: what the command is asked for by a change, and the words of the
  line that shows the change;
* `Change.words_text`, `Change.text_injective`: splitting gives these words, and they tell the
  change;
* `System.run_of_change`: the command is run with the words behind its name;
* `NatConfig.eq_of_rules`: a configuration is told by its rules;
* `printed_lines_tell`: all of it for proper configurations.
-/

namespace GuestNat

/-! ## Changes -/

/-- What the firewall command is asked to do by a change. -/
def Change.command? : Change → Option (Action × Rule)
  | setForwarding _ => none
  | append rule => some (.append, rule)
  | delete rule => some (.delete, rule)

/-- The words of the line that shows a change. -/
def Change.words : Change → List String
  | setForwarding on => ["write", Knob.digit on, "to", Knob.standardPath]
  | append rule => "iptables" :: rule.commandArgs Action.append.flag
  | delete rule => "iptables" :: rule.commandArgs Action.delete.flag

section Changes

variable {change other : Change} {action : Action} {rule : Rule}

theorem Action.isWord_flag (action : Action) : Text.IsWord action.flag := by
  cases action <;> decide

/-- The words handed to the firewall command for a plain rule are words. -/
theorem Rule.Plain.isWord_commandArgs (h : rule.Plain) (action : Action) :
    ∀ word ∈ rule.commandArgs action.flag, Text.IsWord word := by
  unfold Rule.commandArgs
  simp only [List.forall_mem_cons]
  exact ⟨by decide, rule.table.isWord_name, action.isWord_flag, h.chain, h.args⟩

/-- They tell the rule. -/
theorem Rule.commandArgs_injective {other : Rule} {flag : String}
    (h : rule.commandArgs flag = other.commandArgs flag) : rule = other := by
  unfold Rule.commandArgs at h
  simp only [List.cons.injEq, true_and] at h
  obtain ⟨htable, hchain, hargs⟩ := h
  cases rule
  cases other
  rw [Rule.mk.injEq]
  exact ⟨Table.name_injective htable, hchain, hargs⟩

/-- A change is shown by its words with spaces between them. -/
theorem Change.text_eq (change : Change) : change.text = Text.joinWords change.words := by
  have hcommand : ∀ rule : Rule, ∀ flag : String, "iptables " ++ Text.joinWords
      (rule.commandArgs flag) = Text.joinWords ("iptables" :: rule.commandArgs flag) := by
    intro rule flag
    unfold Rule.commandArgs
    rw [Text.joinWords_cons (w := "iptables") (List.cons_ne_nil _ _)]
    rfl
  cases change with
  | setForwarding on => cases on <;> decide
  | append rule => exact hcommand rule Action.append.flag
  | delete rule => exact hcommand rule Action.delete.flag

/-- Splitting the line gives the words back. -/
theorem Change.words_text (h : ∀ rule, change.rule? = some rule → rule.Plain) :
    Text.words change.text = change.words := by
  rw [change.text_eq]
  refine Text.words_joinWords ?_
  cases change with
  | setForwarding on => cases on <;> decide
  | append rule =>
      exact List.forall_mem_cons.mpr ⟨by decide, (h rule rfl).isWord_commandArgs .append⟩
  | delete rule =>
      exact List.forall_mem_cons.mpr ⟨by decide, (h rule rfl).isWord_commandArgs .delete⟩

/-- The words tell the change: the first one what is written or run, the third one of the command
what is done to the rule. -/
theorem Change.words_injective (h : change.words = other.words) : change = other := by
  -- the program's name or the action's flag tells the kinds of change apart
  cases change with
  | setForwarding on =>
      cases other with
      | setForwarding on' =>
          have hdigit : Knob.digit on = Knob.digit on' := by simpa [words] using h
          cases on <;> cases on' <;> simp_all [Knob.digit]
      | append rule => simp [words] at h
      | delete rule => simp [words] at h
  | append rule =>
      cases other with
      | setForwarding on => simp [words] at h
      | append rule' => exact congrArg _ (Rule.commandArgs_injective (List.cons.inj h).2)
      | delete rule' => simp [words, Rule.commandArgs, Action.flag] at h
  | delete rule =>
      cases other with
      | setForwarding on => simp [words] at h
      | append rule' => simp [words, Rule.commandArgs, Action.flag] at h
      | delete rule' => exact congrArg _ (Rule.commandArgs_injective (List.cons.inj h).2)

/-- So does the line. -/
theorem Change.text_injective (h : ∀ rule, change.rule? = some rule → rule.Plain)
    (h' : ∀ rule, other.rule? = some rule → rule.Plain) (htext : change.text = other.text) :
    change = other := by
  refine Change.words_injective ?_
  rw [← Change.words_text h, ← Change.words_text h', htext]

/-- A change about a rule is one run of the firewall command, with the words that show the change
behind its name. -/
theorem System.run_of_change {σ : Type} (system : System σ) (place : Placement) (change : Change)
    (h : change.command? = some (action, rule)) (s : σ) (runs : List ProgramRun) :
    change.words = "iptables" :: rule.commandArgs action.flag ∧
      ∃ outcome, ((system.watched.host place).make change (s, runs)).state.2 =
        runs ++ [⟨place.firewall, "-w" :: rule.commandArgs action.flag, outcome⟩] := by
  cases change with
  | setForwarding on => cases h
  | append appended =>
      cases h
      exact ⟨rfl, _, rfl⟩
  | delete deleted =>
      cases h
      exact ⟨rfl, _, rfl⟩

end Changes

/-! ## Configurations -/

/-- A change that runs with a configuration can show: to forwarding, or about one of its rules. -/
def NatConfig.Concerns (config : NatConfig) (change : Change) : Prop :=
  ∀ rule, change.rule? = some rule → rule ∈ config.rules

/-- A configuration is told by its rules. -/
theorem NatConfig.eq_of_rules {left right : NatConfig} (h : left.rules = right.rules) :
    left = right := by
  rw [left.rules_eq, right.rules_eq] at h
  simp only [List.cons.injEq, and_true] at h
  obtain ⟨hto, -, hmasquerade⟩ := h
  have htap : ["-o", left.tap, "-j", "ACCEPT"] = ["-o", right.tap, "-j", "ACCEPT"] :=
    congrArg Rule.args hto
  obtain ⟨hsubnet, huplink⟩ := masquerade_eq_iff.mp hmasquerade
  cases left
  cases right
  rw [NatConfig.mk.injEq]
  exact ⟨(List.cons.inj (List.cons.inj htap).2).1, huplink, hsubnet⟩

/-- The line of a rule, and those of the changes that are about it, consist of the words of the
rule, and with these the firewall command is run. -/
structure PrintedInFull (rule : Rule) : Prop where
  text : Text.words rule.text = "-t" :: rule.table.name :: rule.chain :: rule.args
  append : Text.words (Change.append rule).text = "iptables" :: rule.commandArgs "-A"
  delete : Text.words (Change.delete rule).text = "iptables" :: rule.commandArgs "-D"
  /-- The words behind the name of the command are handed to it behind `-w`. -/
  run : ∀ change ∈ [Change.append rule, Change.delete rule], ∀ {σ : Type} (system : System σ)
    (place : Placement) (s : σ) (runs : List ProgramRun), ∃ outcome,
      ((system.watched.host place).make change (s, runs)).state.2 =
        runs ++ [⟨place.firewall, "-w" :: (Text.words change.text).tail, outcome⟩]

/-- What is printed of two configurations is the same only where it is about the same. -/
structure ToldByLines (left right : NatConfig) : Prop where
  rules : ∀ rule ∈ left.rules, ∀ other ∈ right.rules, rule.text = other.text → rule = other
  changes : ∀ change other, left.Concerns change → right.Concerns other →
    change.text = other.text → change = other
  configs : left.rules.map Rule.text = right.rules.map Rule.text → left = right

theorem Rule.Plain.printed {rule : Rule} (h : rule.Plain) : PrintedInFull rule := by
  -- both changes of the rule are printed as the words that the program is run with
  have happend : Text.words (Change.append rule).text = (Change.append rule).words :=
    Change.words_text fun _ heq => Option.some.inj heq ▸ h
  have hdelete : Text.words (Change.delete rule).text = (Change.delete rule).words :=
    Change.words_text fun _ heq => Option.some.inj heq ▸ h
  refine ⟨h.words_text, happend, hdelete, ?_⟩
  intro change hchange σ system place s runs
  simp only [List.mem_cons, List.not_mem_nil, or_false] at hchange
  rcases hchange with rfl | rfl
  · obtain ⟨hwords, hrun⟩ := system.run_of_change place (.append rule) rfl s runs
    rw [happend, hwords]
    exact hrun
  · obtain ⟨hwords, hrun⟩ := system.run_of_change place (.delete rule) rfl s runs
    rw [hdelete, hwords]
    exact hrun

/-- **Printed lines tell what they are about.** For proper configurations, with any names that
interfaces can have: the line of each rule splits into the parts of the rule, and the line of a
planned change into the words that the firewall command is run with for it. Rules, changes and
configurations that are printed alike are the same. -/
theorem printed_lines_tell {left right : NatConfig} (hleft : left.check = .ok ())
    (hright : right.check = .ok ()) :
    (∀ rule ∈ left.rules, PrintedInFull rule) ∧ ToldByLines left right := by
  have hplain := left.plain_rules hleft
  have hplain' := right.plain_rules hright
  have hrules : ∀ rule ∈ left.rules, ∀ other ∈ right.rules, rule.text = other.text →
      rule = other :=
    fun rule hrule other hother => (hplain rule hrule).text_injective (hplain' other hother)
  refine ⟨fun rule hrule => (hplain rule hrule).printed, hrules, ?_, ?_⟩
  · intro change other hchange hother
    exact Change.text_injective (fun rule hrule => hplain rule (hchange rule hrule))
      fun rule hrule => hplain' rule (hother rule hrule)
  · -- texts that agree are those of the same rules, one by one
    intro htexts
    rw [left.rules_eq, right.rules_eq] at htexts hrules
    simp only [List.map_cons, List.map_nil, List.cons.injEq, and_true] at htexts
    obtain ⟨hto, hfrom, hmasquerade⟩ := htexts
    refine NatConfig.eq_of_rules ?_
    rw [left.rules_eq, right.rules_eq, hrules _ (by simp) _ (by simp) hto,
      hrules _ (by simp) _ (by simp) hfrom, hrules _ (by simp) _ (by simp) hmasquerade]

/-- Interfaces with the names of flags, and one with a name that is no ASCII. -/
theorem printed_lines_tell_of_flags :
    let left : NatConfig := { tap := "-o", uplink := "-j" }
    let right : NatConfig := { tap := "-j", uplink := "Gäste" }
    left.check = .ok () ∧ right.check = .ok () ∧
      Text.words (Change.delete (.acceptTo "-o")).text =
        ["iptables", "-t", "filter", "-D", "FORWARD", "-o", "-o", "-j", "ACCEPT"] ∧
      ToldByLines left right := by
  intro left right
  have hleft : left.check = .ok () := by decide +kernel
  have hright : right.check = .ok () := by decide +kernel
  obtain ⟨hprinted, htold⟩ := printed_lines_tell hleft hright
  exact ⟨hleft, hright, (hprinted (.acceptTo "-o") (by simp [left.rules_eq, left])).delete, htold⟩

end GuestNat
