import GuestNat.Proofs.Agreement
import GuestNat.Proofs.Frame

/-!
# Interrupted removals converge

Removals may fail anywhere, any number of times. None of them adds a copy of a rule, and once one of
them comes to its end on a host with no more copies than it takes away, the rules of the
configuration are gone and all other rules stand as they stood in the beginning.

* `ThinnedOut`: what one removal preserves, and therefore any number of them. It does not say how
  many copies are left, so it does not matter where a removal breaks off;
* `Cleared`: no rule of the configuration is left, and removals find nothing more to delete;
* `interrupted_removals_converge`: what removals in turn come to.
-/

namespace GuestNat

variable {σ : Type} {host : Host σ} {memory : σ → Rehearsal} {s : σ} {config : NatConfig}

/-- A run of removing with privilege. -/
def Setup.down (config : NatConfig) (disableForwarding : Bool) : Setup Report :=
  Setup.teardown config disableForwarding .elevated

/-- Such runs in turn; each of them may or may not switch forwarding off. -/
def Setup.downInTurn (config : NatConfig) (disableForwarding : List Bool) :
    Plan (List (Except SetupError Report)) :=
  Setup.inTurn (disableForwarding.map (Setup.down config))

/-! ## What every run preserves -/

/-- Rules have only been taken away, and none but those of the configuration. -/
structure ThinnedOut (config : NatConfig) (before after : Rehearsal) : Prop where
  sublist : after.rules.Sublist before.rules
  others : after.rules.filter (· ∉ config.rules) = before.rules.filter (· ∉ config.rules)

theorem ThinnedOut.refl (host : Rehearsal) : ThinnedOut config host host :=
  ⟨List.Sublist.refl host.rules, rfl⟩

theorem ThinnedOut.trans {before between after : Rehearsal}
    (hfirst : ThinnedOut config before between) (hsecond : ThinnedOut config between after) :
    ThinnedOut config before after :=
  ⟨hsecond.sublist.trans hfirst.sublist, hsecond.others.trans hfirst.others⟩

/-- Once the rules of the configuration are gone, the others are all that is left. -/
theorem ThinnedOut.rules_of_gone {before after : Rehearsal} (h : ThinnedOut config before after)
    (hgone : ∀ rule ∈ config.rules, rule ∉ after.rules) :
    after.rules = before.rules.filter (· ∉ config.rules) := by
  have hforeign : after.rules.filter (· ∉ config.rules) = after.rules := by
    rw [List.filter_eq_self]
    intro rule hrule
    have hnot : rule ∉ config.rules := fun hown => hgone rule hown hrule
    exact decide_eq_true hnot
  exact hforeign.symm.trans h.others

/-- Rules that are gone stay gone. -/
theorem ThinnedOut.gone {before after : Rehearsal} (h : ThinnedOut config before after)
    (hgone : ∀ rule ∈ config.rules, rule ∉ before.rules) :
    ∀ rule ∈ config.rules, rule ∉ after.rules :=
  fun rule hrule hmem => hgone rule hrule (h.sublist.mem hmem)

/-- Where nothing is appended, rules are only taken away. -/
theorem Rehearsal.sublist_after_all {host : Rehearsal} {changes : List Change}
    (h : ∀ change ∈ changes, ∀ rule, change ≠ .append rule) :
    (host.afterAll changes).rules.Sublist host.rules := by
  induction changes generalizing host with
  | nil => exact List.Sublist.refl host.rules
  | cons change changes ih =>
      have hrest : ((host.after change).afterAll changes).rules.Sublist (host.after change).rules :=
        ih fun c hc => h c (List.mem_cons_of_mem change hc)
      refine hrest.trans ?_
      cases change with
      | setForwarding on => exact List.Sublist.refl host.rules
      | append rule => exact absurd rfl (h (.append rule) List.mem_cons_self rule)
      | delete rule => exact List.erase_sublist

/-- A removal only takes rules of its configuration away, wherever it fails. -/
theorem ends_thinned_out (h : Mirrors host memory) (disableForwarding : Bool) :
    (Setup.down config disableForwarding).run.Ends host s fun _ s' _ =>
      ThinnedOut config (memory s) (memory s') := by
  let procedure := Procedure.teardown disableForwarding
  have hmemory := h.memory_of_run (procedure.setup config .elevated).run s
  have hmade := (procedure.within_setup config .elevated).made host s
  unfold Plan.Ends
  constructor
  · -- nothing is appended, so what is left of the rules stands in its old order
    have hnone : ∀ change ∈ madeIn ((procedure.setup config .elevated).run.run host s).trace,
        ∀ rule, change ≠ .append rule := by
      rintro _ hchange rule rfl
      exact hmade _ hchange
    exact hmemory ▸ Rehearsal.sublist_after_all hnone
  · -- and only the configuration's own rules are deleted, so all others are left
    have hown : ∀ change ∈ madeIn ((procedure.setup config .elevated).run.run host s).trace,
        ∀ rule, change.rule? = some rule → decide (rule ∉ config.rules) = false := by
      intro change hchange rule hrule
      have hmem : rule ∈ config.rules := (hmade change hchange).rule_mem hrule
      simp [hmem]
    exact hmemory ▸ Rehearsal.filter_rules_after_all hown

/-- What one removal preserves is preserved by all of them, by induction on the runs. -/
theorem ends_thinned_out_in_turn (h : Mirrors host memory) (disableForwarding : List Bool) :
    (Setup.downInTurn config disableForwarding).Ends host s fun _ s' _ =>
      ThinnedOut config (memory s) (memory s') := by
  induction disableForwarding generalizing s with
  | nil => exact Plan.ends_pure.mpr (ThinnedOut.refl (memory s))
  | cons first others ih =>
      refine Setup.ends_in_turn_cons.mpr ?_
      refine (ends_thinned_out h first).mono ?_
      intro value s' _ hfirst
      refine ih.mono ?_
      intro values s'' _ hothers
      exact hfirst.trans hothers

/-! ## What a run that comes to its end leaves -/

/-- Behind a removal that comes to its end, no rule of the configuration is there, unless there were
more copies than it takes away. -/
theorem ends_clearing (h : Mirrors host memory) (disableForwarding : Bool)
    (hfew : ∀ rule ∈ config.rules, (memory s).rules.count rule ≤ Setup.maxRemovals) :
    (Setup.down config disableForwarding).run.Ends host s fun v s' _ =>
      ∀ report, v = .ok report → ∀ rule ∈ config.rules, rule ∉ (memory s').rules := by
  let procedure := Procedure.teardown disableForwarding
  refine (procedure.ends_report h config .elevated s).mono ?_
  intro v s' t hv report hreport
  have hafter : memory s' = _ := (hv report hreport).after_eq
  rw [hafter]
  exact rules_gone_after_removing config disableForwarding hfew

/-- What a removal reports that finds no rule. -/
def nothingFound (disableForwarding : Bool) : Report :=
  [(.removeMasquerade, .notPresent), (.removeAcceptFromTap, .notPresent),
    (.removeAcceptToTap, .notPresent),
    (.disableForwarding, if disableForwarding then .applied else .skipped)]

theorem report_of_no_rules {host : Rehearsal} (disableForwarding : Bool)
    (hgone : ∀ rule ∈ config.rules, rule ∉ host.rules) :
    (Procedure.teardown disableForwarding).report config host Step.removing =
      nothingFound disableForwarding := by
  have hcopies : ∀ rule ∈ config.rules, host.rules.count rule = 0 :=
    fun rule hrule => List.count_eq_zero_of_not_mem (hgone rule hrule)
  have hsteps : (Procedure.teardown disableForwarding).report config host Step.removing =
      Step.removing.map fun step =>
        (step, (Procedure.teardown disableForwarding).outcome config host step) :=
    (Procedure.teardown disableForwarding).report_of_steps config host
  rw [config.rules_eq] at hcopies
  rw [hsteps]
  simp_all [Step.removing, Procedure.outcome, Step.rule, nothingFound]

/-- Such a report stands for no deletion. -/
theorem delete_not_mem_changes_nothing_found (disableForwarding : Bool) (rule : Rule) :
    .delete rule ∉ (nothingFound disableForwarding).changes config := by
  cases disableForwarding <;>
    simp [nothingFound, Report.changes, StepOutcome.changes, Step.addition, Step.rule]

/-- Where no rule of the configuration is there, a removal that comes to its end says so and asks
for no deletion. -/
theorem ends_finding_nothing (h : Mirrors host memory) (disableForwarding : Bool)
    (hgone : ∀ rule ∈ config.rules, rule ∉ (memory s).rules) :
    (Setup.down config disableForwarding).run.Ends host s fun v _ t =>
      ∀ report, v = .ok report →
        report = nothingFound disableForwarding ∧ ∀ rule, .delete rule ∉ changesOf t := by
  let procedure := Procedure.teardown disableForwarding
  have hended := procedure.ends_report h config .elevated s
  have hfinished : (procedure.setup config .elevated).run.Ends host s _ :=
    procedure.ends_all_finished config
  unfold Plan.Ends at hended hfinished ⊢
  intro report hreport
  have hreported : report = nothingFound disableForwarding :=
    (hended report hreport).reported.trans (report_of_no_rules disableForwarding hgone)
  have hchanges := (hfinished report hreport).changes
  refine ⟨hreported, ?_⟩
  intro rule hdelete
  have hasked : .delete rule ∈ report.changes config := hchanges ▸ hdelete
  rw [hreported] at hasked
  exact delete_not_mem_changes_nothing_found disableForwarding rule hasked

/-! ## Runs in turn -/

/-- Setups in turn end with the last one, in the state that the others have left. -/
theorem Setup.ends_in_turn_concat {α : Type} {setups : List (Setup α)} {last : Setup α}
    {Q : List (Except SetupError α) → σ → Prop} :
    (inTurn (setups ++ [last])).Ends host s (fun values s' _ => Q values s') ↔
      (inTurn setups).Ends host s fun values s' _ =>
        last.run.Ends host s' fun value s'' _ => Q (values ++ [value]) s'' := by
  induction setups generalizing s Q with
  | nil =>
      rw [List.nil_append, ends_in_turn_cons]
      rfl
  | cons first others ih =>
      rw [List.cons_append, ends_in_turn_cons, ends_in_turn_cons]
      simp only [ih, List.cons_append]

/-- The state behind some removals. -/
def Setup.afterDown (config : NatConfig) (host : Host σ) (disableForwarding : List Bool) (s : σ) :
    σ :=
  ((Setup.downInTurn config disableForwarding).run host s).state

/-- The rules of a configuration are gone from a state, and the others stand as they stood in
another one. -/
structure Cleared (config : NatConfig) (host : Host σ) (memory : σ → Rehearsal)
    (first last : σ) : Prop where
  rules : (memory last).rules = (memory first).rules.filter (· ∉ config.rules)
  /-- Behind any further removals, one that comes to its end reports that no rule was there, asks
  for no deletion and leaves the rules as they are. -/
  stays : ∀ later disableForwarding report,
    let s := Setup.afterDown config host later last
    let run := (Setup.down config disableForwarding).run.run host s
    run.value = .ok report →
      report = [(.removeMasquerade, .notPresent), (.removeAcceptFromTap, .notPresent),
        (.removeAcceptToTap, .notPresent),
        (.disableForwarding, if disableForwarding then .applied else .skipped)] ∧
      (∀ rule, .delete rule ∉ changesOf run.trace) ∧
      (memory run.state).rules = (memory last).rules

/-- A state without rules of the configuration is cleared of them for good. -/
theorem cleared_of_gone (h : Mirrors host memory) {first last : σ}
    (hthinned : ThinnedOut config (memory first) (memory last))
    (hgone : ∀ rule ∈ config.rules, rule ∉ (memory last).rules) :
    Cleared config host memory first last where
  rules := hthinned.rules_of_gone hgone
  stays := by
    intro later disableForwarding report s run hreport
    -- the rules stay away during any later removals, so the last of them finds none either
    have hlater : ThinnedOut config (memory last) (memory s) := ends_thinned_out_in_turn h later
    have hrun : ThinnedOut config (memory s) (memory run.state) :=
      ends_thinned_out h disableForwarding
    have hgone' : ∀ rule ∈ config.rules, rule ∉ (memory s).rules := hlater.gone hgone
    obtain ⟨hreported, hnone⟩ := ends_finding_nothing h disableForwarding hgone' report hreport
    refine ⟨hreported, hnone, ?_⟩
    have hlast : (memory last).rules = (memory last).rules.filter (· ∉ config.rules) :=
      (ThinnedOut.refl (memory last)).rules_of_gone hgone
    rw [(hlater.trans hrun).rules_of_gone (hrun.gone hgone'), ← hlast]

/-- What removals of a configuration in turn come to, from the state that they start in. -/
structure RemovalsConverge (config : NatConfig) (host : Host σ) (memory : σ → Rehearsal)
    (first : σ) : Prop where
  /-- Whatever becomes of it, no removal leaves more copies of any rule than it has found. -/
  never_adds : ∀ earlier disableForwarding rule,
    let s := Setup.afterDown config host earlier first
    let run := (Setup.down config disableForwarding).run.run host s
    (memory run.state).rules.count rule ≤ (memory s).rules.count rule
  /-- If the last one comes to its end, and has found no more copies than one removal takes away,
  then the rules of the configuration are gone. -/
  clears : ∀ earlier last report,
    let s := Setup.afterDown config host earlier first
    let removals := (Setup.downInTurn config (earlier ++ [last])).run host first
    removals.value.getLast? = some (.ok report) →
      (∀ rule ∈ config.rules, (memory s).rules.count rule ≤ 64) →
        Cleared config host memory first removals.state
  /-- A removal comes to its end where no change is refused. -/
  possible : ∀ disableForwarding (start : Rehearsal), start.Open →
    ∃ report,
      ((Setup.down config disableForwarding).run.run Rehearsal.host start).value = .ok report

/-- **Interrupted removals converge.** Removals may fail at any call, on any host that its failures
leave as it is. None of them adds a copy of a rule. Once one comes to its end that has found no more
copies of any rule than it takes away, the rules are those from the beginning without the ones of
the configuration, wherever the removals before it broke off, and further removals find nothing. -/
theorem interrupted_removals_converge (hmirrors : Mirrors host memory)
    (hcheck : config.check = .ok ()) (first : σ) : RemovalsConverge config host memory first where
  never_adds := by
    intro earlier disableForwarding rule s run
    have hthinned : ThinnedOut config (memory s) (memory run.state) :=
      ends_thinned_out hmirrors disableForwarding
    exact hthinned.sublist.count_le rule
  clears := by
    intro earlier last report s removals hlast hfew
    let values := ((Setup.downInTurn config earlier).run host first).value
    -- the last removal starts where the others have ended
    have hrun : (Setup.down config last).run.Ends host s fun value s' _ =>
        (values ++ [value]).getLast? = some (.ok report) →
          ∀ rule ∈ config.rules, rule ∉ (memory s').rules := by
      refine (ends_clearing hmirrors last hfew).mono ?_
      intro value s' _ hvalue hgetLast
      rw [List.getLast?_concat] at hgetLast
      exact hvalue report (Option.some.inj hgetLast)
    have hclearing : (Setup.downInTurn config (earlier ++ [last])).Ends host first
        fun values s' _ => values.getLast? = some (.ok report) →
          ∀ rule ∈ config.rules, rule ∉ (memory s').rules := by
      unfold Setup.downInTurn
      rw [List.map_append]
      exact Setup.ends_in_turn_concat.mpr hrun
    have hthinned : ThinnedOut config (memory first) (memory removals.state) :=
      ends_thinned_out_in_turn hmirrors (earlier ++ [last])
    exact cleared_of_gone hmirrors hthinned (hclearing hlast)
  possible := by
    intro disableForwarding start hopen
    exact (ends_on_open hcheck (.teardown disableForwarding) hopen trivial).1

/-- Removals on a host with copies of two rules between foreign ones: the first removal fails at its
second deletion, the second one at its fourth look, and the last one goes on there. -/
theorem interrupted_removals_converge_behind_faults :
    let config : NatConfig := {}
    let input : Rule := ⟨.filter, "INPUT", ["-j", "DROP"]⟩
    let output : Rule := ⟨.nat, "POSTROUTING", ["-j", "ACCEPT"]⟩
    let outbound : Rule := .acceptTo config.tap
    let masquerade : Rule := .masquerade config.subnet config.uplink
    let host := Faulty.host [⟨.deleteRule, some 2, .permissionDenied⟩,
      ⟨.askRule, some 4, .io "broken"⟩] Rehearsal.host
    let first : Faulty Rehearsal :=
      { state := { rules := [outbound, input, masquerade, masquerade, outbound, output,
        masquerade] } }
    let removals := (Setup.downInTurn config [false, true, true]).run host first
    removals.value.map (·.isOk) = [false, false, true] ∧
      (Setup.afterDown config host [false, true] first).state.rules =
        [outbound, input, outbound, output, masquerade] ∧
      Cleared config host (·.state) first removals.state ∧
      removals.state.state.rules = [input, output] := by
  intro config input output outbound masquerade host first removals
  have hconverge : RemovalsConverge config host (·.state) first :=
    interrupted_removals_converge (mirrors_faulty _ mirrors_rehearsal) (by decide +kernel) first
  have hlast : removals.value.getLast? = some (.ok [(.removeMasquerade, .removed 1),
      (.removeAcceptFromTap, .notPresent), (.removeAcceptToTap, .removed 2),
      (.disableForwarding, .applied)]) := by
    decide +kernel
  have hfew : ∀ rule ∈ config.rules,
      (Setup.afterDown config host [false, true] first).state.rules.count rule ≤ 64 := by
    decide +kernel
  exact ⟨by decide +kernel, by decide +kernel,
    hconverge.clears [false, true] true _ hlast hfew, by decide +kernel⟩

end GuestNat
