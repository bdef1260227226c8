import GuestNat.Program.Execute
import GuestNat.Proofs.Commands
import GuestNat.Proofs.Completion
import GuestNat.Proofs.Footprint
import GuestNat.Proofs.Looking

/-!
# A host and the copy of it

A rehearsal works on a copy that is made from what a look at the host has found. The copy knows two
interfaces and three rules, each rule at most once; it has no other rules and no record of earlier
changes. Unless rules are deleted, that is all that a command can find out about.

* `Alike`: a host and a copy that agree about what there is to ask;
* `alike_copy`: a host and its copy are alike;
* `alike_lockstep`: and stay so as long as nothing is deleted;
* `execute_alike`: a command that deletes nothing comes to the same on both.
-/

namespace GuestNat

/-! ## Calls that delete nothing -/

/-- The changes that add to a host what a configuration is about. -/
def NatConfig.Adds (config : NatConfig) : Change → Prop
  | .setForwarding _ => True
  | .append rule => rule ∈ config.rules
  | .delete _ => False

section Calls

variable {config : NatConfig}

/-- Applying deletes nothing. -/
theorem within_apply (options : ApplyOptions) (privilege : Privilege) :
    (Setup.apply config options privilege).run.Within config.Asks config.Adds := by
  have hown := (Procedure.apply options).within_setup config privilege
  refine hown.mono (fun _ h => h.asks) ?_
  intro change hchange
  cases change with
  | setForwarding on => trivial
  | append rule => exact hchange
  | delete rule => exact hchange

/-- A command other than a removal deletes nothing. -/
theorem within_execute (privilege : Privilege) {command : Command}
    (h : ∀ disableForwarding, command ≠ .down disableForwarding) :
    (Program.execute privilege command config).run.Within config.Asks config.Adds := by
  cases command with
  | up options =>
      have hprocedure : (Command.up options).procedure? = some (.apply options) := rfl
      obtain ⟨context, hexecute⟩ := run_of_procedure hprocedure config privilege
      rw [hexecute]
      exact Plan.within_map _ (within_apply options privilege)
  | down disableForwarding => exact absurd rfl (h disableForwarding)
  | status =>
      rw [run_of_look]
      exact Plan.within_map _ within_probe

end Calls

/-! ## Agreement -/

/-- A host and a copy agree about forwarding, about the interfaces and about the presence of the
rules, and behind earlier changes the host has those of the copy. Neither refuses anything. -/
structure Alike (config : NatConfig) (earlier : List Change) (live copy : Rehearsal) : Prop where
  live_open : live.Open
  copy_open : copy.Open
  forwarding : live.forwarding = copy.forwarding
  interfaces : ∀ name ∈ [config.tap, config.uplink],
    live.hasInterface name = copy.hasInterface name
  rules : ∀ rule ∈ config.rules, rule ∈ live.rules ↔ rule ∈ copy.rules
  changes : live.changes = earlier ++ copy.changes

section Agreement

variable {config : NatConfig} {earlier : List Change} {live copy : Rehearsal}

theorem Alike.answer (h : Alike config earlier live copy) {question : Question}
    (hquestion : config.Asks question) : live.answer question = copy.answer question := by
  cases question with
  | forwarding => exact h.forwarding
  | interface name => exact h.interfaces name hquestion
  | rule rule =>
      rw [Rehearsal.answer_rule, Rehearsal.answer_rule]
      exact decide_eq_decide.mpr (h.rules rule hquestion)

/-- What both add, both have. -/
theorem Alike.after (h : Alike config earlier live copy) {change : Change}
    (hchange : config.Adds change) :
    Alike config earlier (live.after change) (copy.after change) where
  live_open := h.live_open.after change
  copy_open := h.copy_open.after change
  forwarding := by
    cases change with
    | setForwarding on => rfl
    | append rule => exact h.forwarding
    | delete rule => exact absurd hchange not_false
  interfaces := h.interfaces
  rules := by
    intro rule hrule
    cases change with
    | setForwarding on => exact h.rules rule hrule
    | append other =>
        change rule ∈ live.rules ++ [other] ↔ rule ∈ copy.rules ++ [other]
        rw [List.mem_append, List.mem_append, h.rules rule hrule]
    | delete other => exact absurd hchange not_false
  changes := by
    change live.changes ++ [change] = earlier ++ (copy.changes ++ [change])
    rw [h.changes, List.append_assoc]

/-- A host and its copy keep in step while nothing is deleted. -/
theorem alike_lockstep (config : NatConfig) (earlier : List Change) :
    Lockstep Rehearsal.host Rehearsal.host config.Asks config.Adds (Alike config earlier) where
  ask := by
    intro question live copy hquestion halike
    exact ⟨congrArg Except.ok (halike.answer hquestion), halike⟩
  make := by
    intro change live copy hchange halike
    -- an open host can refuse a deletion only, and `up` makes none
    have hnodelete : ∀ rule, change ≠ .delete rule := by
      rintro rule rfl
      exact hchange
    have hlive : live.Accepts change :=
      halike.live_open.accepts fun rule hrule => absurd hrule (hnodelete rule)
    have hcopy : copy.Accepts change :=
      halike.copy_open.accepts fun rule hrule => absurd hrule (hnodelete rule)
    rw [live.make_of_accepts hlive, copy.make_of_accepts hcopy]
    exact ⟨rfl, halike.after hchange⟩

/-- A command that deletes nothing comes to the same on both and changes both alike. -/
theorem execute_alike (h : Alike config earlier live copy) (privilege : Privilege)
    {command : Command} (hcommand : ∀ disableForwarding, command ≠ .down disableForwarding) :
    ((Program.execute privilege command config).run.run Rehearsal.host live).value =
        ((Program.execute privilege command config).run.run Rehearsal.host copy).value ∧
      Alike config earlier
        ((Program.execute privilege command config).run.run Rehearsal.host live).state
        ((Program.execute privilege command config).run.run Rehearsal.host copy).state :=
  (alike_lockstep config earlier).run_alike (within_execute privilege hcommand) h

end Agreement

/-! ## The copy -/

section Copy

variable {config : NatConfig} {live : Rehearsal}

/-- The copy that a rehearsal works on. -/
def Rehearsal.copy (live : Rehearsal) (config : NatConfig) : Rehearsal :=
  .ofStatus (live.status config)

/-- The copy has the rules of the configuration that are there, each of them once. -/
theorem Rehearsal.copy_rules (live : Rehearsal) (config : NatConfig) :
    (live.copy config).rules = config.rules.filter (· ∈ live.rules) := by
  -- the copy is read off the statuses of the steps that have a rule, one by one
  have hsteps : ∀ steps : List Step,
      ((steps.filterMap fun step => (step.rule config).map fun rule =>
        (⟨step, rule, some (live.answer (.rule rule))⟩ : RuleStatus)).filter
          (·.present = some true)).map (·.rule) =
        (steps.filterMap (·.rule config)).filter (· ∈ live.rules) := by
    intro steps
    induction steps with
    | nil => rfl
    | cons step steps ih =>
        cases hrule : step.rule config with
        | none =>
            rw [List.filterMap_cons_none hrule, List.filterMap_cons_none (by rw [hrule]; rfl)]
            exact ih
        | some rule =>
            rw [List.filterMap_cons_some hrule, List.filterMap_cons_some (by rw [hrule]; rfl)]
            by_cases hmem : rule ∈ live.rules
            · have hanswer : live.answer (.rule rule) = true := by
                rw [answer_rule]
                exact decide_eq_true hmem
              rw [List.filter_cons_of_pos (by simp [hanswer]), List.map_cons, ih]
              exact (List.filter_cons_of_pos (by simpa using hmem)).symm
            · have hanswer : live.answer (.rule rule) = false := by
                rw [answer_rule]
                exact decide_eq_false hmem
              rw [List.filter_cons_of_neg (by simp [hanswer]), ih]
              exact (List.filter_cons_of_neg (by simpa using hmem)).symm
  exact hsteps Step.applying

theorem Rehearsal.copy_interface (live : Rehearsal) {name : String}
    (h : name ∈ [config.tap, config.uplink]) :
    (live.copy config).hasInterface name = live.hasInterface name := by
  -- likewise the interfaces: those whose look-up did not say that they are missing
  have hnames : ∀ names : List String,
      ((names.map fun name => (name, some (live.hasInterface name))).filter
        (·.2 ≠ some false)).map (·.1) = names.filter live.hasInterface := by
    intro names
    induction names with
    | nil => rfl
    | cons name names ih =>
        cases hname : live.hasInterface name <;> simp [hname, ← ih]
  have hcopy : (live.copy config).hasInterface name =
      ([config.tap, config.uplink].filter live.hasInterface).contains name :=
    congrArg (List.contains · name) (hnames [config.tap, config.uplink])
  rw [hcopy, List.contains_eq_mem]
  cases hname : live.hasInterface name with
  | true => exact decide_eq_true (List.mem_filter.mpr ⟨h, hname⟩)
  | false =>
      refine decide_eq_false ?_
      intro hmem
      rw [(List.mem_filter.mp hmem).2] at hname
      cases hname

/-- A host that refuses nothing and its copy are alike, with all changes of the host as earlier
ones. -/
theorem alike_copy (h : live.Open) : Alike config live.changes live (live.copy config) where
  live_open := h
  copy_open := ⟨rfl, rfl⟩
  forwarding := by simp [Rehearsal.copy, Rehearsal.ofStatus, Rehearsal.status]
  interfaces := fun _ hname => (live.copy_interface hname).symm
  rules := by
    intro rule hrule
    rw [live.copy_rules, List.mem_filter]
    simp [hrule]
  changes := (List.append_nil live.changes).symm

end Copy

end GuestNat
