import GuestNat.Proofs.Agreement
import GuestNat.Proofs.ExactRuns

/-!
# Removal in full

On a host in memory that has no allowance, a removal comes to its end, whatever rules there are and
whatever the host refuses to append. All of it is settled: the report, the rules that are left, the
changes that are recorded, and the rules that it gives up on.

* `withoutFirst`: rules without the first copies of each;
* `rules_after_deletions`: what any deletions leave;
* `does_removing`: what the steps of removing do, by induction on the steps;
* `removal_in_full`: all that a removal does.
-/

namespace GuestNat

/-! ## First copies -/

/-- The rules without the first copies of each, so many of them as the number says. -/
def withoutFirst (number : Rule → Nat) : List Rule → List Rule
  | [] => []
  | rule :: rules =>
    if number rule = 0 then rule :: withoutFirst number rules
    else withoutFirst (Function.update number rule (number rule - 1)) rules

section FirstCopies

variable {number : Rule → Nat} {rules : List Rule} {rule : Rule}

theorem without_first_of_zero (h : ∀ rule, number rule = 0) :
    withoutFirst number rules = rules := by
  induction rules with
  | nil => rfl
  | cons rule rules ih => rw [withoutFirst, if_pos (h rule), ih]

/-- To delete a rule beforehand is to take one more copy of it. -/
theorem without_first_erase : withoutFirst number (rules.erase rule) =
    withoutFirst (Function.update number rule (number rule + 1)) rules := by
  induction rules generalizing number with
  | nil => rfl
  | cons first rules ih =>
      by_cases hfirst : first = rule
      · subst hfirst
        rw [List.erase_cons_head, withoutFirst, Function.update_self,
          if_neg (Nat.succ_ne_zero _), Nat.add_sub_cancel, Function.update_idem,
          Function.update_eq_self]
      · -- the first rule stays or goes, whatever becomes of the other one
        rw [List.erase_cons_tail (by simpa using hfirst), withoutFirst, withoutFirst,
          Function.update_of_ne hfirst, ih, ih, Function.update_of_ne (Ne.symm hfirst),
          Function.update_comm hfirst]

/-- Deletions, among them some of rules that are not there, take as many first copies of each rule
as there are deletions of it. -/
theorem rules_after_deletions {changes : List Change}
    (h : ∀ change ∈ changes, ∀ rule, change ≠ .append rule) :
    changes.foldl Change.onRules rules =
      withoutFirst (fun rule => changes.count (.delete rule)) rules := by
  induction changes generalizing rules with
  | nil => exact (without_first_of_zero fun _ => rfl).symm
  | cons change changes ih =>
      rw [List.foldl_cons, ih fun c hc => h c (List.mem_cons_of_mem change hc)]
      cases change with
      | setForwarding on => simp [Change.onRules]
      | append rule => exact absurd rfl (h (.append rule) List.mem_cons_self rule)
      | delete rule =>
          rw [Change.onRules, without_first_erase]
          congr 1
          funext other
          -- one more copy of `rule` goes from the front, and of the other rules as many as before
          by_cases hother : other = rule
          · subst hother
            simp
          · simp [hother, Ne.symm hother]

/-- Deletions do not turn forwarding. -/
theorem forwarding_after_deletions {changes : List Change} (forwarding : Bool)
    (h : ∀ change ∈ changes, change.isDeletion) :
    changes.foldl Change.onForwarding forwarding = forwarding := by
  induction changes with
  | nil => rfl
  | cons change changes ih =>
      rw [List.foldl_cons]
      cases change with
      | setForwarding on => cases h (.setForwarding on) List.mem_cons_self
      | append rule => cases h (.append rule) List.mem_cons_self
      | delete rule => exact ih fun c hc => h c (List.mem_cons_of_mem _ hc)

end FirstCopies

/-! ## The steps of removing -/

section Steps

variable {config : NatConfig} {s : Rehearsal} {step : Step}

/-- The rule of a step is given up on if there are more copies of it than are taken away. -/
def Rehearsal.beyondLimit (host : Rehearsal) (config : NatConfig) (step : Step) :
    List (Rule × Nat) :=
  match step.rule config with
  | none => []
  | some rule =>
    if Setup.maxRemovals < host.rules.count rule then [(rule, Setup.maxRemovals)] else []

theorem does_teardown_step (hfree : s.allowance = none) (disableForwarding : Bool) :
    let procedure := Procedure.teardown disableForwarding
    Does (procedure.act config .elevated step) s (.ok (procedure.outcome config s step))
      (procedure.effect config s step) (s.beyondLimit config step) := by
  intro procedure
  change Does (Setup.teardownStep config disableForwarding .elevated step) s _ _ _
  unfold Setup.teardownStep
  refine does_then (does_pure ()) ?_
  unfold procedure Procedure.outcome Procedure.effect Rehearsal.beyondLimit
  -- the step without a rule switches forwarding, or is skipped when not told to
  cases step.rule config with
  | none =>
      cases disableForwarding with
      | true =>
          have haccepts : s.Accepts (.setForwarding false) := by
            refine ⟨?_, trivial⟩
            unfold Rehearsal.isDenied
            rw [hfree]
          exact does_before_pure (fun _ => StepOutcome.applied) (does_make haccepts)
      | false => exact does_pure StepOutcome.skipped
  | some rule =>
      have hremoved := does_remove_copies hfree step rule Setup.maxRemovals 0
      rw [Nat.zero_add, Nat.zero_add] at hremoved
      exact does_before_pure _ hremoved

/-- Steps of removing with different rules come to their end one after the other, by induction on
the steps: none of them gets in the way of a later one. -/
theorem does_removing (hfree : s.allowance = none) (disableForwarding : Bool) {steps : List Step}
    (hnodup : (steps.filterMap (·.rule config)).Nodup) :
    let procedure := Procedure.teardown disableForwarding
    Does (Setup.perform (procedure.act config .elevated) steps) s
      (.ok (procedure.report config s steps)) (procedure.effects config s steps)
      (steps.flatMap (s.beyondLimit config)) := by
  intro procedure
  induction steps generalizing s with
  | nil => exact does_pure []
  | cons step steps ih =>
      let own := procedure.effect config s step
      have hfree' : (s.afterAll own).allowance = none := by
        rw [Rehearsal.after_all_eq]
        exact hfree
      -- this step's deletions are of its own rule, so the later ones find as many copies as before
      have hbeyond : steps.flatMap ((s.afterAll own).beyondLimit config) =
          steps.flatMap (s.beyondLimit config) := by
        refine List.flatMap_congr ?_
        intro later hlater
        unfold Rehearsal.beyondLimit
        cases hrule : later.rule config with
        | none => rfl
        | some rule =>
            dsimp only
            rw [procedure.count_behind_step hnodup hlater hrule]
      have hrest := ih hfree' (Procedure.nodup_rules_of_cons hnodup)
      rw [hbeyond] at hrest
      exact does_perform_cons (does_teardown_step hfree disableForwarding) hrest

end Steps

/-! ## The whole removal -/

/-- All that a removal does on a host in memory. -/
structure RemovedInFull (config : NatConfig) (disableForwarding : Bool) (host : Rehearsal)
    (run : Run Rehearsal (Except SetupError Report)) : Prop where
  report :
    let outcome := fun rule => StepOutcome.ofRemovals (min 64 (host.rules.count rule))
    run.value = .ok [
      (.removeMasquerade, outcome (.masquerade config.subnet config.uplink)),
      (.removeAcceptFromTap, outcome (.acceptFrom config.tap)),
      (.removeAcceptToTap, outcome (.acceptTo config.tap)),
      (.disableForwarding, if disableForwarding then .applied else .skipped)]
  /-- The first copies of each rule of the configuration are gone, and all else stands in order. -/
  rules : run.state.rules = withoutFirst
    (fun rule => if rule ∈ config.rules then min 64 (host.rules.count rule) else 0) host.rules
  forwarding : run.state.forwarding = if disableForwarding then false else host.forwarding
  /-- The record shows the deletions of each rule in turn, and the switch behind them. -/
  changes :
    let deletions := fun rule =>
      List.replicate (min 64 (host.rules.count rule)) (Change.delete rule)
    run.state.changes = host.changes ++ deletions (.masquerade config.subnet config.uplink) ++
      deletions (.acceptFrom config.tap) ++ deletions (.acceptTo config.tap) ++
      if disableForwarding then [.setForwarding false] else []
  /-- Nothing else of the host has changed. -/
  others : run.state.interfaces = host.interfaces ∧ run.state.allowance = host.allowance ∧
    run.state.refused = host.refused
  /-- A rule is given up on, behind as many deletions as the limit allows, exactly if copies of it
  are left. -/
  givesUp : ∀ rule removals, .givingUp rule removals ∈ run.events ↔
    removals = 64 ∧ rule ∈ config.rules ∧ rule ∈ run.state.rules

section Removal

variable {config : NatConfig} {host : Rehearsal}

/-- A rule of the configuration is left over exactly if there were more copies than the limit. -/
theorem mem_left_over_iff (disableForwarding : Bool) {rule : Rule} (hrule : rule ∈ config.rules) :
    rule ∈ (host.afterAll
        ((Procedure.teardown disableForwarding).effects config host Step.removing)).rules ↔
      Setup.maxRemovals < host.rules.count rule := by
  rw [← List.count_pos_iff,
    Rehearsal.count_after_deletions (removing_appends_nothing config host disableForwarding),
    count_effects_of_removing, if_pos hrule]
  unfold removalsOf
  omega

/-- The rules that the steps of removing give up on. -/
theorem mem_beyond_limit_iff {rule : Rule} {removals : Nat} :
    (rule, removals) ∈ Step.removing.flatMap (host.beyondLimit config) ↔
      removals = Setup.maxRemovals ∧ rule ∈ config.rules ∧
        Setup.maxRemovals < host.rules.count rule := by
  -- each step warns of its own rule only
  have hstep : ∀ step, (rule, removals) ∈ host.beyondLimit config step ↔
      removals = Setup.maxRemovals ∧ step.rule config = some rule ∧
        Setup.maxRemovals < host.rules.count rule := by
    intro step
    unfold Rehearsal.beyondLimit
    cases step.rule config with
    | none => simp
    | some own =>
        dsimp only
        constructor
        · intro hmem
          split at hmem
          · next hlimit =>
              obtain ⟨rfl, rfl⟩ := Prod.mk.inj (List.mem_singleton.mp hmem)
              exact ⟨rfl, rfl, hlimit⟩
          · exact absurd hmem List.not_mem_nil
        · rintro ⟨rfl, hown, hlimit⟩
          obtain rfl := Option.some.inj hown
          rw [if_pos hlimit]
          exact List.mem_singleton_self _
  have hrules : rule ∈ config.rules ↔ ∃ step ∈ Step.removing, step.rule config = some rule := by
    rw [← List.mem_reverse, ← config.removing_rules, List.mem_filterMap]
  simp only [List.mem_flatMap, hstep, hrules]
  constructor
  · rintro ⟨step, hmem, hremovals, hrule, hlimit⟩
    exact ⟨hremovals, ⟨step, hmem, hrule⟩, hlimit⟩
  · rintro ⟨hremovals, ⟨step, hmem, hrule⟩, hlimit⟩
    exact ⟨step, hmem, hremovals, hrule, hlimit⟩

/-- **A removal in full.** On any host in memory without an allowance, with any rules, interfaces,
earlier changes and refused rules, a removal with a proper configuration and with privilege comes to
its end. It takes the first copies of the three rules away, at most 64 of each, and nothing else;
report, record and log tell just that. -/
theorem removal_in_full (hcheck : config.check = .ok ()) (hfree : host.allowance = none)
    (disableForwarding : Bool) :
    RemovedInFull config disableForwarding host
      ((Setup.teardown config disableForwarding .elevated).run.run Rehearsal.host host) := by
  let procedure := Procedure.teardown disableForwarding
  let run := (procedure.setup config .elevated).run.run Rehearsal.host host
  -- value, state and log of the run, each from the host at the start
  have hdoes : Does (procedure.setup config .elevated) host _ _ _ :=
    procedure.does_setup hcheck
      (does_removing hfree disableForwarding (procedure.nodup_rules config))
  have hvalue : run.value = .ok (procedure.report config host Step.removing) := hdoes.1
  have hstate : run.state = host.afterAll (procedure.effects config host Step.removing) :=
    hdoes.2.1
  have hgivenUp : givenUpIn run.trace = Step.removing.flatMap (host.beyondLimit config) :=
    hdoes.2.2
  have hreport : procedure.report config host Step.removing =
      Step.removing.map fun step => (step, procedure.outcome config host step) :=
    procedure.report_of_steps config host
  have hrecord := Rehearsal.after_all_eq host (procedure.effects config host Step.removing)
  rw [← hstate] at hrecord
  refine ⟨?_, ?_, ?_, ?_, ?_, ?_⟩
  · refine hvalue.trans ?_
    rw [hreport]
    simp [Step.removing, procedure, Procedure.outcome, Step.rule, StepOutcome.ofRemovals,
      Setup.maxRemovals]
  · change run.state.rules = _
    rw [hrecord]
    dsimp only
    rw [rules_after_deletions (removing_appends_nothing config host disableForwarding)]
    simp only [count_effects_of_removing]
    rfl
  · change run.state.forwarding = _
    have hdeletions : ∀ change ∈ config.rules.reverse.flatMap fun rule =>
        List.replicate (min Setup.maxRemovals (host.rules.count rule)) (Change.delete rule),
        change.isDeletion := by
      intro change hchange
      obtain ⟨rule, -, hreplicate⟩ := List.mem_flatMap.mp hchange
      rw [List.eq_of_mem_replicate hreplicate]
      rfl
    rw [hrecord, effects_of_removing]
    dsimp only
    rw [List.foldl_append, forwarding_after_deletions host.forwarding hdeletions]
    cases disableForwarding <;> rfl
  · change run.state.changes = _
    rw [hrecord, effects_of_removing]
    simp [NatConfig.rules_eq, Setup.maxRemovals]
  · change run.state.interfaces = _ ∧ run.state.allowance = _ ∧ run.state.refused = _
    rw [hrecord]
    exact ⟨rfl, rfl, rfl⟩
  · intro rule removals
    rw [← mem_given_up_iff]
    change (rule, removals) ∈ givenUpIn run.trace ↔ _ ∧ _ ∧ rule ∈ run.state.rules
    rw [hgivenUp, mem_beyond_limit_iff, hstate]
    constructor
    · rintro ⟨hremovals, hrule, hlimit⟩
      exact ⟨hremovals, hrule, (mem_left_over_iff disableForwarding hrule).mpr hlimit⟩
    · rintro ⟨hremovals, hrule, hleft⟩
      exact ⟨hremovals, hrule, (mem_left_over_iff disableForwarding hrule).mp hleft⟩

/-- One copy more than the limit allows of a rule that the host refuses to append, between foreign
rules and copies of another one. -/
theorem removal_in_full_beyond_limit :
    let config : NatConfig := {}
    let input : Rule := ⟨.filter, "INPUT", ["-j", "DROP"]⟩
    let outbound : Rule := .acceptTo config.tap
    let masquerade : Rule := .masquerade config.subnet config.uplink
    let host : Rehearsal :=
      { forwarding := true
        rules := outbound :: input :: List.replicate 65 masquerade ++ [input, outbound]
        interfaces := some [], changes := [.append input], refused := [masquerade] }
    let run := (Setup.teardown config true .elevated).run.run Rehearsal.host host
    run.value = .ok [(.removeMasquerade, .removed 64), (.removeAcceptFromTap, .notPresent),
        (.removeAcceptToTap, .removed 2), (.disableForwarding, .applied)] ∧
      run.state.rules = [input, masquerade, input] ∧ run.state.changes.length = 68 ∧
      .givingUp masquerade 64 ∈ run.events ∧ RemovedInFull config true host run := by
  intro config input outbound masquerade host run
  have hcheck : config.check = .ok () := by decide +kernel
  have hremoved : RemovedInFull config true host run := removal_in_full hcheck rfl true
  have hrules : run.state.rules = [input, masquerade, input] := by
    rw [hremoved.rules]
    decide +kernel
  have hleft : masquerade ∈ run.state.rules := by simp [hrules]
  have hmem : masquerade ∈ config.rules := by simp [config.rules_eq, masquerade]
  refine ⟨?_, hrules, ?_, (hremoved.givesUp masquerade 64).mpr ⟨rfl, hmem, hleft⟩, hremoved⟩
  · rw [hremoved.report]
    decide +kernel
  · rw [hremoved.changes]
    decide +kernel

end Removal

end GuestNat
