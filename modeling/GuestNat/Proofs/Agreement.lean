import GuestNat.Proofs.FailFast
import GuestNat.Proofs.Rehearsing

/-!
# When commands take the setup to be in place

Applying, removing and looking each go through the rules and the interfaces in their own way. On a
host in memory they agree about what it takes for the setup to be in place.

* `CameToEnd`: all that a run of a procedure has done once it comes to its end;
* `installed_after_applying`, `rules_gone_after_removing`: applying leaves every rule there, and
  removing leaves none, unless there were more copies than it takes away;
* `Rehearsal.NothingToAdd`: applying again would add nothing;
* `commands_agree`: what a look finds behind either procedure, and when it finds all in place.
-/

namespace GuestNat

variable {σ : Type} {config : NatConfig}

/-! ## Runs that come to their end -/

/-- What has happened in a run of a procedure that comes to its end with a report. -/
structure CameToEnd (procedure : Procedure) (config : NatConfig) (before after : Rehearsal)
    (report : Report) (trace : List Occurrence) : Prop where
  check : config.check = .ok ()
  reported : report = procedure.report config before procedure.steps
  serves : ∀ step ∈ procedure.steps, procedure.Serves config before step
  made : madeIn trace = procedure.effects config before procedure.steps
  after_eq : after = before.afterAll (procedure.effects config before procedure.steps)

/-- Only with a proper configuration and with privilege does a procedure come to its end, and then
it has taken its whole effect. -/
theorem Procedure.ends_report {host : Host σ} {memory : σ → Rehearsal} (h : Mirrors host memory)
    (procedure : Procedure) (config : NatConfig) (privilege : Privilege) (s : σ) :
    (procedure.setup config privilege).run.Ends host s fun v s' t =>
      ∀ report, v = .ok report →
        CameToEnd procedure config (memory s) (memory s') report t := by
  cases hcheck : config.check with
  | error fault =>
      refine (procedure.ends_refused hcheck privilege).mono ?_
      rintro v s' t ⟨rfl, -⟩ report hreport
      cases hreport
  | ok _ =>
      cases privilege with
      | unprivileged =>
          refine (procedure.ends_denied hcheck).mono ?_
          rintro v s' t ⟨⟨first, _, -, rfl⟩, -⟩ report hreport
          cases hreport
      | elevated =>
          have htook := procedure.took_report (s := s) h hcheck
          have hmemory := h.memory_of_run (procedure.setup config .elevated).run s
          unfold Plan.Ends at htook ⊢
          intro report hreport
          rw [hreport] at htook
          obtain ⟨⟨hreported, hserves⟩, hafter⟩ := htook
          refine ⟨hcheck, hreported, hserves, ?_, hafter⟩
          -- the log tells which changes were made
          have hlog := congrArg Rehearsal.changes (hmemory.symm.trans hafter)
          rw [Rehearsal.changes_after_all, Rehearsal.changes_after_all] at hlog
          exact List.append_cancel_left hlog

/-! ## What they leave -/

/-- Behind applying, forwarding is on and every rule is there. -/
theorem installed_after_applying (config : NatConfig) (options : ApplyOptions)
    (before : Rehearsal) :
    let after := before.afterAll ((Procedure.apply options).effects config before Step.applying)
    after.forwarding = true ∧ ∀ rule ∈ config.rules, rule ∈ after.rules := by
  cases hidempotent : options.idempotent with
  | true =>
      rw [Procedure.effects_of_ensuring config options before hidempotent]
      obtain ⟨hrules, hforwarding⟩ := before.after_applying (config.missing before.rules)
      refine ⟨hforwarding, ?_⟩
      intro rule hrule
      rw [hrules, ← List.count_pos_iff, config.count_append_missing hrule]
      -- a rule is missing at most once, so one copy stands behind the run whatever stood before
      exact Nat.lt_of_lt_of_le Nat.one_pos (Nat.le_max_right _ 1)
  | false =>
      rw [Procedure.effects_of_adding config options before hidempotent]
      obtain ⟨hrules, hforwarding⟩ := before.after_applying config.rules
      refine ⟨hforwarding, ?_⟩
      intro rule hrule
      rw [hrules]
      exact List.mem_append_right before.rules hrule

/-- Where nothing is appended, each deletion of a rule leaves one copy of it fewer. -/
theorem Rehearsal.count_after_deletions {host : Rehearsal} {changes : List Change} {rule : Rule}
    (h : ∀ change ∈ changes, ∀ other, change ≠ .append other) :
    (host.afterAll changes).rules.count rule =
      host.rules.count rule - changes.count (.delete rule) := by
  induction changes generalizing host with
  | nil => rfl
  | cons change changes ih =>
      -- the deletions behind `change` meet the host it leaves: only a deletion of `rule` itself
      -- takes from its count
      rw [after_all_cons, ih fun c hc => h c (List.mem_cons_of_mem change hc), List.count_cons]
      cases change with
      | setForwarding on => simp [after, Change.onRules]
      | append other => exact absurd rfl (h (.append other) List.mem_cons_self other)
      | delete other =>
          by_cases heq : other = rule
          · subst heq
            simp [after, Change.onRules, Nat.sub_sub, Nat.add_comm]
          · simp [after, Change.onRules, heq, List.count_erase_of_ne (Ne.symm heq)]

/-- Removing appends nothing. -/
theorem removing_appends_nothing (config : NatConfig) (host : Rehearsal)
    (disableForwarding : Bool) :
    ∀ change ∈ (Procedure.teardown disableForwarding).effects config host Step.removing,
      ∀ rule, change ≠ .append rule := by
  rintro change hchange rule rfl
  rw [effects_of_removing] at hchange
  cases disableForwarding <;> simp at hchange

/-- It deletes the rules of the configuration and no other ones. -/
theorem count_effects_of_removing (config : NatConfig) (host : Rehearsal)
    (disableForwarding : Bool) (rule : Rule) :
    ((Procedure.teardown disableForwarding).effects config host Step.removing).count
        (.delete rule) = if rule ∈ config.rules then removalsOf host rule else 0 := by
  have heffects : (Procedure.teardown disableForwarding).effects config host Step.removing =
      deletionsOf config.rules.reverse (removalsOf host) (switchOff disableForwarding) :=
    effects_of_removing config host disableForwarding
  have hothers := switch_off_deletes_nothing disableForwarding
  rw [heffects]
  by_cases hrule : rule ∈ config.rules
  · rw [if_pos hrule, count_deletions (List.nodup_reverse.mpr config.nodup_rules) hothers
      (List.mem_reverse.mpr hrule)]
  · have hnot : rule ∉ config.rules.reverse := fun h => hrule (List.mem_reverse.mp h)
    rw [if_neg hrule, List.count_eq_zero_of_not_mem (delete_not_mem_deletions hothers hnot)]

/-- Behind removing no rule is there, unless there were more copies of one than it takes away. -/
theorem rules_gone_after_removing (config : NatConfig) (disableForwarding : Bool)
    {before : Rehearsal}
    (hfew : ∀ rule ∈ config.rules, before.rules.count rule ≤ Setup.maxRemovals) :
    ∀ rule ∈ config.rules, rule ∉ (before.afterAll
      ((Procedure.teardown disableForwarding).effects config before Step.removing)).rules := by
  intro rule hrule
  have hcopies := hfew rule hrule
  rw [← List.count_eq_zero,
    Rehearsal.count_after_deletions (removing_appends_nothing config before disableForwarding),
    count_effects_of_removing, if_pos hrule]
  unfold removalsOf
  omega

/-- What applying insists on, all of its steps together, are both interfaces. -/
theorem has_interfaces_of_serves {options : ApplyOptions} {host : Rehearsal}
    (h : ∀ step ∈ Step.applying, (Procedure.apply options).Serves config host step)
    (hverify : options.verifyInterfaces) : host.HasInterfaces config := by
  have htap := h .acceptToTap (by decide) hverify config.tap List.mem_cons_self
  have huplink := h .masquerade (by decide) hverify config.uplink List.mem_cons_self
  exact List.forall_mem_cons.mpr ⟨htap, List.forall_mem_singleton.mpr huplink⟩

/-! ## Commands -/

namespace Rehearsal

/-- The exit status of a command that is carried out on a host in memory. -/
def exitCode (host : Rehearsal) (privilege : Privilege) (command : Command)
    (config : NatConfig) : Nat :=
  (Program.finish
    ((Program.execute privilege command config).run.run Rehearsal.host host).value).exitCode

/-- What a look at a host in memory makes of it. -/
def health (host : Rehearsal) (config : NatConfig) : Health :=
  ((Status.probe config).run Rehearsal.host host).value.health

/-- Applying that looks for the rules and insists on the interfaces succeeds, changes nothing but
forwarding and reports every rule as there already, as far as it is not kept from it. -/
def NothingToAdd (host : Rehearsal) (config : NatConfig) : Prop :=
  let free : Rehearsal := { host with allowance := none, refused := [] }
  let run := (Setup.up config true true).run.run Rehearsal.host free
  ∃ report, run.value = .ok report ∧
    (∀ change ∈ madeIn run.trace, change = .setForwarding true) ∧
    ∀ step ∈ [.acceptToTap, .acceptFromTap, .masquerade],
      report.outcome? step = some .alreadyPresent

variable (host : Rehearsal) (config : NatConfig)

theorem health_eq : host.health config = (host.status config).health :=
  congrArg Status.health (ends_probe config host).1

/-- The exit status of a look is 0 if it finds the setup in place, and else 3. -/
theorem exit_code_of_look (privilege : Privilege) :
    host.exitCode privilege .status config =
      if host.health config = .configured then Program.success else Program.notConfigured := by
  have hends : (Program.execute privilege .status config).run.Ends Rehearsal.host host
      fun v _ _ => (Program.finish v).exitCode =
        if (host.status config).health = .configured then Program.success
        else Program.notConfigured := by
    rw [run_of_look]
    refine Plan.ends_map.mpr ?_
    refine (ends_probe config host).mono ?_
    rintro status s' - ⟨rfl, rfl⟩
    rfl
  rw [health_eq]
  exact hends

theorem exit_code_of_look_eq_success_iff (privilege : Privilege) :
    host.exitCode privilege .status config = Program.success ↔
      host.health config = .configured := by
  rw [exit_code_of_look]
  split <;> simp_all [Program.success, Program.notConfigured]

end Rehearsal

section Execute

variable {command : Command}

/-- A command that succeeds has brought its procedure to its end. -/
theorem ends_execute_report (procedure : Procedure)
    (hprocedure : command.procedure? = some procedure) (privilege : Privilege) (host : Rehearsal) :
    (Program.execute privilege command config).run.Ends Rehearsal.host host fun v s' t =>
      v.result.isOk → ∃ report, CameToEnd procedure config host s' report t := by
  obtain ⟨context, hexecute⟩ := run_of_procedure hprocedure config privilege
  rw [hexecute]
  refine Plan.ends_map.mpr ?_
  refine (procedure.ends_report mirrors_rehearsal config privilege host).mono ?_
  intro v s' t hv
  cases v with
  | error e => exact fun hok => absurd hok Bool.false_ne_true
  | ok report => exact fun _ => ⟨report, hv report rfl⟩

end Execute

/-- Behind applying that succeeds, a look finds all in place but perhaps the interfaces, and those
as well if applying insisted on them. -/
theorem ends_up (privilege : Privilege) (options : ApplyOptions) (host : Rehearsal) :
    (Program.execute privilege (.up options) config).run.Ends Rehearsal.host host fun v s' _ =>
      (Program.finish v).exitCode = Program.success →
        (s'.health config = .configured ↔ s'.HasInterfaces config) ∧
          (options.verifyInterfaces → s'.HasInterfaces config) := by
  refine (ends_execute_report (.apply options) rfl privilege host).mono ?_
  intro v s' t hv hexit
  cases hresult : v.result with
  | error failure => exact absurd hexit (Program.exit_code_ne_success hresult)
  | ok exitCode =>
      rw [hresult] at hv
      obtain ⟨report, hrun⟩ := hv rfl
      have hafter : s' = _ := hrun.after_eq
      obtain ⟨hforwarding, hrules⟩ := installed_after_applying config options host
      have hall : s'.forwarding = true ∧ ∀ rule ∈ config.rules, rule ∈ s'.rules := by
        rw [hafter]
        exact ⟨hforwarding, hrules⟩
      constructor
      · rw [Rehearsal.health_eq, Rehearsal.health_configured_iff]
        exact ⟨fun h => h.2.2, fun h => ⟨hall.1, hall.2, h⟩⟩
      · intro hverify
        have hbefore : host.HasInterfaces config := has_interfaces_of_serves hrun.serves hverify
        intro name hname
        rw [hafter, Rehearsal.hasInterface, Rehearsal.interfaces_after_all]
        exact hbefore name hname

/-- Where the interfaces are there, nothing is to be added exactly if all rules are there. -/
theorem nothing_to_add_iff (hcheck : config.check = .ok ()) {host : Rehearsal}
    (hinterfaces : host.HasInterfaces config) :
    host.NothingToAdd config ↔ ∀ rule ∈ config.rules, rule ∈ host.rules := by
  let procedure := Procedure.apply { idempotent := true, verifyInterfaces := true }
  -- `NothingToAdd` lets every change through, so the run is read off a host with no limits
  let free : Rehearsal := { host with allowance := none, refused := [] }
  have hcompletes : Completes (procedure.setup config .elevated) free :=
    procedure_completes procedure hcheck ⟨rfl, rfl⟩ fun _ => hinterfaces
  obtain ⟨⟨report, hreport⟩, -⟩ := hcompletes
  have hrun := procedure.ends_report mirrors_rehearsal config .elevated free report hreport
  have hmade : madeIn ((procedure.setup config .elevated).run.run Rehearsal.host free).trace =
      .setForwarding true :: (config.missing host.rules).map .append :=
    hrun.made.trans (Procedure.effects_of_ensuring config _ free rfl)
  have hreported : report =
      Step.applying.map fun step => (step, procedure.outcome config free step) :=
    hrun.reported.trans (procedure.report_of_steps config free)
  constructor
  · rintro ⟨-, -, hchanges, -⟩ rule hrule
    -- a missing rule would be appended, and the only change of the run is the forwarding one
    by_contra hnot
    have hmissing : rule ∈ config.missing host.rules :=
      List.mem_filter.mpr ⟨hrule, decide_eq_true hnot⟩
    have happended : .append rule ∈ madeIn
        ((procedure.setup config .elevated).run.run Rehearsal.host free).trace := by
      rw [hmade]
      exact List.mem_cons_of_mem _ (List.mem_map_of_mem hmissing)
    cases hchanges _ happended
  · intro hall
    have hnone : config.missing host.rules = [] := by
      unfold NatConfig.missing
      simpa [List.filter_eq_nil_iff] using hall
    refine ⟨report, hreport, ?_, ?_⟩
    · intro change hchange
      have hchange' : change ∈ madeIn
          ((procedure.setup config .elevated).run.run Rehearsal.host free).trace := hchange
      rw [hmade, hnone] at hchange'
      exact List.mem_singleton.mp hchange'
    · -- every rule step found its rule in place, so each of the three outcomes says so
      rw [config.rules_eq] at hall
      rw [hreported]
      simp_all [Report.outcome?, Step.applying, Procedure.outcome, Step.rule, procedure, free]

/-- Behind removing that comes to its end on a host with no more copies than it takes away, a look
finds no rule. -/
theorem ends_down_report (privilege : Privilege) (disableForwarding : Bool) {host : Rehearsal}
    (hfew : ∀ rule ∈ config.rules, host.rules.count rule ≤ Setup.maxRemovals) :
    (Setup.teardown config disableForwarding privilege).run.Ends Rehearsal.host host fun v s' _ =>
      ∀ report, v = .ok report → s'.health config =
        if s'.forwarding then .partly (.ruleMissing (.acceptTo config.tap)) else .unconfigured := by
  refine ((Procedure.teardown disableForwarding).ends_report mirrors_rehearsal config privilege
    host).mono ?_
  intro v s' t hv report hreport
  have hafter : s' = _ := (hv report hreport).after_eq
  have hgone : ∀ rule ∈ config.rules, rule ∉ s'.rules := by
    rw [hafter]
    exact rules_gone_after_removing config disableForwarding hfew
  rw [Rehearsal.health_eq]
  exact s'.health_of_no_rules config hgone

/-- The ways in which commands agree about a host in memory, whatever the privilege of each. -/
structure CommandsAgree (config : NatConfig) (host : Rehearsal) : Prop where
  /-- Behind applying that succeeds, a look finds the setup in place exactly if both interfaces are
  there, and they are if applying insisted on them. -/
  applied : ∀ privilege viewer options,
    let up := (Program.execute privilege (.up options) config).run.run Rehearsal.host host
    (Program.finish up.value).exitCode = 0 →
      (up.state.exitCode viewer .status config = 0 ↔ up.state.HasInterfaces config) ∧
      (up.state.health config = .configured ↔ up.state.HasInterfaces config) ∧
      (options.verifyInterfaces → up.state.HasInterfaces config)
  /-- A look finds the setup in place exactly if forwarding is on, both interfaces are there and
  applying again would add nothing. -/
  in_place : ∀ viewer, host.exitCode viewer .status config = 0 ↔
    host.forwarding = true ∧ host.HasInterfaces config ∧ host.NothingToAdd config
  /-- Behind removing that comes to its end, a look finds the setup not in place, unless there were
  more copies of a rule than it takes away: only forwarding can be left. -/
  removed : ∀ privilege viewer disableForwarding report,
    let down := (Setup.teardown config disableForwarding privilege).run.run Rehearsal.host host
    (∀ rule ∈ config.rules, host.rules.count rule ≤ 64) → down.value = .ok report →
      down.state.exitCode viewer .status config = 3 ∧
      down.state.health config =
        if down.state.forwarding then .partly (.ruleMissing (.acceptTo config.tap))
        else .unconfigured

/-- **Commands agree about the setup.** On any host in memory, with any rules, interfaces and
earlier changes, and whatever it refuses, applying, removing and looking agree about when the setup
of a proper configuration is in place. -/
theorem commands_agree (hcheck : config.check = .ok ()) (host : Rehearsal) :
    CommandsAgree config host where
  applied := by
    intro privilege viewer options up hexit
    obtain ⟨hhealth, hverified⟩ := ends_up privilege options host hexit
    have hlook := up.state.exit_code_of_look_eq_success_iff config viewer
    exact ⟨hlook.trans hhealth, hhealth, hverified⟩
  in_place := by
    intro viewer
    change host.exitCode viewer .status config = Program.success ↔ _
    rw [Rehearsal.exit_code_of_look_eq_success_iff, Rehearsal.health_eq,
      Rehearsal.health_configured_iff]
    constructor
    · rintro ⟨hforwarding, hrules, hinterfaces⟩
      exact ⟨hforwarding, hinterfaces, (nothing_to_add_iff hcheck hinterfaces).mpr hrules⟩
    · rintro ⟨hforwarding, hinterfaces, hnothing⟩
      exact ⟨hforwarding, (nothing_to_add_iff hcheck hinterfaces).mp hnothing, hinterfaces⟩
  removed := by
    intro privilege viewer disableForwarding report down hfew hreport
    have hhealth := ends_down_report privilege disableForwarding hfew report hreport
    refine ⟨?_, hhealth⟩
    rw [Rehearsal.exit_code_of_look, hhealth]
    split <;> rfl

/-- Applying that does not insist on the interfaces succeeds where the uplink is missing, and a look
behind it takes the setup not to be in place. -/
theorem commands_agree_without_uplink :
    let config : NatConfig := {}
    let host : Rehearsal :=
      { rules := [⟨.filter, "INPUT", ["-j", "DROP"]⟩, .acceptTo config.tap]
        interfaces := some ["tap0"], allowance := some 3 }
    let options : ApplyOptions := { idempotent := true, verifyInterfaces := false }
    let up := (Program.execute .elevated (.up options) config).run.run Rehearsal.host host
    (Program.finish up.value).exitCode = 0 ∧
      up.state.exitCode .unprivileged .status config = 3 ∧ ¬ up.state.HasInterfaces config ∧
      CommandsAgree config host := by
  intro config host options up
  have hagree : CommandsAgree config host := commands_agree (by decide +kernel) host
  have hexit : (Program.finish up.value).exitCode = 0 := by decide +kernel
  have hlook : up.state.exitCode .unprivileged .status config = 3 := by decide +kernel
  refine ⟨hexit, hlook, ?_, hagree⟩
  intro hinterfaces
  have hzero := (hagree.applied .elevated .unprivileged options hexit).1.mpr hinterfaces
  rw [hlook] at hzero
  cases hzero

end GuestNat
