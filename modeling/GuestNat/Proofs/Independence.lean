import GuestNat.Proofs.Effects
import Mathlib.Data.List.Nodup

/-!
# Steps do not get in each other's way

The three rules of a configuration differ, whatever its interfaces and its subnet are. So no step
touches what another one looks at, and the effect of a procedure is that of its steps side by side.

* `NatConfig.nodup_rules`: the rules differ;
* `Change.filter_on_rules`, `Rehearsal.filter_rules_after_all`: changes about some rules keep the
  others, their order and their number;
* `Procedure.effect_congr`, `Procedure.outcome_congr`: a step looks at the copies of its own rule
  only;
* `Procedure.effects_of_steps`, `Procedure.report_of_steps`: each step has the effect and comes to
  what it would on its own.
-/

namespace GuestNat

/-! ## The rules of a configuration -/

namespace NatConfig

variable (config : NatConfig)

/-- The rules of a configuration, in the order in which they are added. -/
def rules : List Rule := Step.applying.filterMap (·.rule config)

theorem rules_eq : config.rules =
    [.acceptTo config.tap, .acceptFrom config.tap, .masquerade config.subnet config.uplink] :=
  rfl

/-- They are removed in the opposite order. -/
theorem removing_rules : Step.removing.filterMap (·.rule config) = config.rules.reverse := rfl

/-- The first two rules differ in the flag in front of the interface, and the third one stands in
another table. -/
theorem nodup_rules : config.rules.Nodup := by
  simp [rules_eq, Rule.acceptTo, Rule.acceptFrom, Rule.masquerade]

end NatConfig

theorem Procedure.nodup_rules (procedure : Procedure) (config : NatConfig) :
    (procedure.steps.filterMap (·.rule config)).Nodup := by
  cases procedure with
  | apply options => exact config.nodup_rules
  | teardown disableForwarding =>
      change (Step.removing.filterMap (·.rule config)).Nodup
      rw [config.removing_rules, List.nodup_reverse]
      exact config.nodup_rules

/-! ## What a step touches -/

/-- A rule is among those of the one host or of the other alike when there are as many copies. -/
theorem Rehearsal.mem_rules_iff {host other : Rehearsal} {rule : Rule}
    (h : host.rules.count rule = other.rules.count rule) :
    rule ∈ host.rules ↔ rule ∈ other.rules := by
  rw [← List.count_pos_iff, h, List.count_pos_iff]

/-- The rule that a change is about. -/
def Change.rule? : Change → Option Rule
  | setForwarding _ => none
  | append rule | delete rule => some rule

/-- Changes about other rules leave the copies of a rule as many as they are. -/
theorem Rehearsal.count_after_all {host : Rehearsal} {changes : List Change} {rule : Rule}
    (h : ∀ change ∈ changes, change.rule? ≠ some rule) :
    (host.afterAll changes).rules.count rule = host.rules.count rule := by
  induction changes generalizing host with
  | nil => rfl
  | cons change changes ih =>
      have hchange : change.rule? ≠ some rule := h change List.mem_cons_self
      have hrest := fun c hc => h c (List.mem_cons_of_mem change hc)
      rw [after_all_cons, ih hrest]
      -- adding or deleting another rule leaves the count alone
      cases change with
      | setForwarding on => rfl
      | append other =>
          have hne : other ≠ rule := fun heq => hchange (congrArg some heq)
          simp [after, Change.onRules, hne]
      | delete other =>
          have hne : other ≠ rule := fun heq => hchange (congrArg some heq)
          exact List.count_erase_of_ne hne.symm

/-- A change leaves the rules of a kind that its own rule is not of. -/
theorem Change.filter_on_rules {change : Change} {kind : Rule → Bool} (rules : List Rule)
    (h : ∀ rule, change.rule? = some rule → kind rule = false) :
    (change.onRules rules).filter kind = rules.filter kind := by
  cases change with
  | setForwarding on => rfl
  | append rule =>
      have hkind : kind rule = false := h rule rfl
      simp [onRules, hkind]
  | delete rule =>
      have hkind : kind rule = false := h rule rfl
      -- the rule deleted is not of the kind, so the deletion and the filter commute
      have hnot : rule ∉ rules.filter kind := by
        simp [List.mem_filter, hkind]
      unfold onRules
      rw [← List.erase_filter, List.erase_of_not_mem hnot]

/-- Where the rules of a kind are the same, they are so behind any change. -/
theorem Change.filter_on_rules_congr (change : Change) {rules others : List Rule}
    {kind : Rule → Bool} (h : rules.filter kind = others.filter kind) :
    (change.onRules rules).filter kind = (change.onRules others).filter kind := by
  cases change with
  | setForwarding on => exact h
  | append rule =>
      unfold onRules
      rw [List.filter_append, List.filter_append, h]
  | delete rule =>
      unfold onRules
      rw [← List.erase_filter, ← List.erase_filter, h]

/-- Changes about other rules leave the rules of a kind in their order and number. -/
theorem Rehearsal.filter_rules_after_all {host : Rehearsal} {changes : List Change}
    {kind : Rule → Bool}
    (h : ∀ change ∈ changes, ∀ rule, change.rule? = some rule → kind rule = false) :
    (host.afterAll changes).rules.filter kind = host.rules.filter kind := by
  induction changes generalizing host with
  | nil => rfl
  | cons change changes ih =>
      rw [after_all_cons, ih fun c hc => h c (List.mem_cons_of_mem change hc)]
      exact Change.filter_on_rules host.rules (h change List.mem_cons_self)

namespace Procedure

variable {config : NatConfig} {memory other : Rehearsal} {step : Step} {steps : List Step}

/-- The changes of a step are about its own rule. -/
theorem rule_of_effect (procedure : Procedure) {change : Change}
    (h : change ∈ procedure.effect config memory step) : change.rule? = step.rule config := by
  -- a step changes its own rule, or the forwarding when it has none
  cases procedure with
  | apply options =>
      unfold effect at h
      cases hrule : step.rule config with
      | none =>
          rw [hrule] at h
          rw [List.mem_singleton.mp h]
          rfl
      | some rule =>
          rw [hrule] at h
          dsimp only at h
          split at h
          · exact absurd h List.not_mem_nil
          · rw [List.mem_singleton.mp h]
            rfl
  | teardown disableForwarding =>
      unfold effect at h
      cases hrule : step.rule config with
      | none =>
          rw [hrule] at h
          dsimp only at h
          split at h
          · rw [List.mem_singleton.mp h]
            rfl
          · exact absurd h List.not_mem_nil
      | some rule =>
          rw [hrule] at h
          rw [List.eq_of_mem_replicate h]
          rfl

/-- What a step does depends on how often its rule is there, and on nothing else. -/
theorem effect_congr (procedure : Procedure)
    (h : ∀ rule, step.rule config = some rule →
      memory.rules.count rule = other.rules.count rule) :
    procedure.effect config memory step = procedure.effect config other step := by
  unfold effect
  cases hrule : step.rule config with
  | none => rfl
  | some rule =>
      have hcount := h rule hrule
      have hmem : rule ∈ memory.rules ↔ rule ∈ other.rules := Rehearsal.mem_rules_iff hcount
      cases procedure with
      | apply options => simp only [hmem]
      | teardown disableForwarding => simp only [hcount]

/-- So does what it comes to. -/
theorem outcome_congr (procedure : Procedure)
    (h : ∀ rule, step.rule config = some rule →
      memory.rules.count rule = other.rules.count rule) :
    procedure.outcome config memory step = procedure.outcome config other step := by
  unfold outcome
  cases hrule : step.rule config with
  | none => rfl
  | some rule =>
      have hcount := h rule hrule
      have hmem : rule ∈ memory.rules ↔ rule ∈ other.rules := Rehearsal.mem_rules_iff hcount
      cases procedure with
      | apply options => simp only [hmem]
      | teardown disableForwarding => simp only [hcount]

/-- With different rules, a step leaves the copies of the later steps' rules as they are. -/
theorem count_behind_step (procedure : Procedure)
    (hnodup : ((step :: steps).filterMap (·.rule config)).Nodup) {later : Step}
    (hlater : later ∈ steps) {rule : Rule} (hrule : later.rule config = some rule) :
    (memory.afterAll (procedure.effect config memory step)).rules.count rule =
      memory.rules.count rule := by
  refine Rehearsal.count_after_all ?_
  intro change hchange heq
  -- a change about the rule of the later step belongs to a step with the same rule
  rw [procedure.rule_of_effect hchange] at heq
  rw [List.filterMap_cons_some heq, List.nodup_cons] at hnodup
  exact hnodup.1 (List.mem_filterMap.mpr ⟨later, hlater, hrule⟩)

theorem nodup_rules_of_cons (hnodup : ((step :: steps).filterMap (·.rule config)).Nodup) :
    (steps.filterMap (·.rule config)).Nodup :=
  hnodup.sublist ((List.sublist_cons_self step steps).filterMap _)

/-- With different rules, each step has the effect that it would have on its own. -/
theorem effects_eq_flatMap (procedure : Procedure)
    (hnodup : (steps.filterMap (·.rule config)).Nodup) :
    procedure.effects config memory steps = steps.flatMap (procedure.effect config memory) := by
  induction steps generalizing memory with
  | nil => rfl
  | cons step steps ih =>
      unfold effects
      dsimp only
      -- the later steps have the effect on what this step leaves that they would have without it
      rw [ih (nodup_rules_of_cons hnodup), List.flatMap_cons]
      congr 1
      refine List.flatMap_congr ?_
      intro later hlater
      exact procedure.effect_congr fun _ hrule =>
        procedure.count_behind_step hnodup hlater hrule

/-- With different rules, each step comes to what it would on its own. -/
theorem report_eq_map (procedure : Procedure) (hnodup : (steps.filterMap (·.rule config)).Nodup) :
    procedure.report config memory steps =
      steps.map fun step => (step, procedure.outcome config memory step) := by
  induction steps generalizing memory with
  | nil => rfl
  | cons step steps ih =>
      unfold report
      -- the induction reports on the host behind `step`; no later step's rule has changed there
      rw [ih (nodup_rules_of_cons hnodup), List.map_cons]
      congr 1
      refine List.map_congr_left ?_
      intro later hlater
      congr 1
      exact procedure.outcome_congr fun _ hrule =>
        procedure.count_behind_step hnodup hlater hrule

/-- So it is for every procedure and every configuration. -/
theorem effects_of_steps (procedure : Procedure) (config : NatConfig) (memory : Rehearsal) :
    procedure.effects config memory procedure.steps =
      procedure.steps.flatMap (procedure.effect config memory) :=
  procedure.effects_eq_flatMap (procedure.nodup_rules config)

theorem report_of_steps (procedure : Procedure) (config : NatConfig) (memory : Rehearsal) :
    procedure.report config memory procedure.steps =
      procedure.steps.map fun step => (step, procedure.outcome config memory step) :=
  procedure.report_eq_map (procedure.nodup_rules config)

end Procedure

end GuestNat
