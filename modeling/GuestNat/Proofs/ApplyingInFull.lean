import GuestNat.Proofs.Applying
import GuestNat.Proofs.ExactRuns
import Mathlib.Data.List.Induction

/-!
# Applying in full

On a host in memory, a run of applying is settled in full by what the host is at the start: which
steps add something, which step is the first one that cannot be done and why, and what the steps
before it leave.

* `Step.isNeeded`: whether a step makes its change, from the rules there are at the start;
* `Rehearsal.obstacle?`: why a step cannot be done behind other ones, with the reasons in the order
  in which they are looked for;
* `obstacle_behind_step`: the reasons are the same from the start and from behind a step;
* `does_applying`: what clear steps do, and what happens behind them, by induction on the steps;
* `applying_in_full`: all that applying does.
-/

namespace GuestNat

/-- Whether a step of applying makes its change on a host that has these rules. -/
def Step.isNeeded (config : NatConfig) (options : ApplyOptions) (rules : List Rule)
    (step : Step) : Bool :=
  match step.rule config with
  | none => true
  | some rule => !(options.idempotent && rules.contains rule)

/-- The interfaces that a step of applying insists on. -/
def Step.demands (config : NatConfig) (options : ApplyOptions) (step : Step) : List String :=
  if options.verifyInterfaces then step.interfaces config else []

namespace Rehearsal

/-- Why the host would refuse to turn forwarding or to append a rule, when so many more changes have
been made before. -/
def refusal? (host : Rehearsal) (made : Nat) (change : Change) : Option HostError :=
  if host.allowance.any (· ≤ host.changes.length + made) then some .permissionDenied
  else
    match change with
    | .append rule =>
      if rule ∈ host.refused then
        some (.ruleRejected (Change.append rule).text "rejected by test configurator")
      else none
    | .setForwarding _ | .delete _ => none

/-- Why a step of applying cannot be done on a host behind other steps, if there is a reason: one of
its interfaces is missing, or its change is refused. A step that is not needed makes no change. -/
def obstacle? (host : Rehearsal) (config : NatConfig) (options : ApplyOptions) (done : List Step)
    (step : Step) : Option HostError :=
  match (step.demands config options).find? (!host.hasInterface ·) with
  | some name => some (.interfaceNotFound name)
  | none =>
    if step.isNeeded config options host.rules then
      host.refusal? (done.countP (·.isNeeded config options host.rules)) (step.addition config)
    else none

/-- Nothing keeps the steps from being done in turn. -/
def IsClear (host : Rehearsal) (config : NatConfig) (options : ApplyOptions) (steps : List Step) :
    Prop :=
  ∀ done step, done ++ [step] <+: steps → host.obstacle? config options done step = none

/-- The host behind the first steps of applying: forwarding is on and the rules of the needed steps
are added. Before the first step the host is as it was. -/
def behind (host : Rehearsal) (config : NatConfig) (options : ApplyOptions) :
    List Step → Rehearsal
  | [] => host
  | done =>
    let added := (done.filter (·.isNeeded config options host.rules)).filterMap (·.rule config)
    { host with
      forwarding := true
      rules := host.rules ++ added
      changes := host.changes ++ .setForwarding true :: added.map .append }

end Rehearsal

section Steps

variable {config : NatConfig} {options : ApplyOptions} {s : Rehearsal} {step : Step}
  {steps done rest : List Step}

/-! ## One step -/

namespace Step

/-- A step of applying without a rule switches forwarding on. -/
theorem addition_of_no_rule (hstep : step ∈ applying) (hrule : step.rule config = none) :
    step.addition config = .setForwarding true := by
  cases step with
  | enableForwarding => rfl
  | disableForwarding => simp [applying] at hstep
  | _ => cases hrule

/-- No step adds something by a deletion. -/
theorem addition_ne_delete (config : NatConfig) (step : Step) (rule : Rule) :
    step.addition config ≠ .delete rule := by
  unfold addition
  cases step.rule config <;> exact Change.noConfusion

/-- A step of applying has its effect if it is needed. -/
theorem effect_of_applying (options : ApplyOptions) (s : Rehearsal) (hstep : step ∈ applying) :
    (Procedure.apply options).effect config s step =
      if step.isNeeded config options s.rules then [step.addition config] else [] := by
  unfold isNeeded Procedure.effect
  cases hrule : step.rule config with
  | none => exact congrArg ([·]) (addition_of_no_rule hstep hrule).symm
  | some rule =>
      unfold addition
      cases hidempotent : options.idempotent <;> by_cases hmem : rule ∈ s.rules <;>
        simp [hrule, hidempotent, hmem]

theorem outcome_of_applying (config : NatConfig) (options : ApplyOptions) (s : Rehearsal)
    (step : Step) : (Procedure.apply options).outcome config s step =
      if step.isNeeded config options s.rules then .applied else .alreadyPresent := by
  unfold isNeeded Procedure.outcome
  cases step.rule config with
  | none => rfl
  | some rule =>
      cases hidempotent : options.idempotent <;> by_cases hmem : rule ∈ s.rules <;>
        simp [hidempotent, hmem]

/-- Whether a step is needed depends on the copies of its own rule. -/
theorem needed_congr {other : Rehearsal}
    (h : ∀ rule, step.rule config = some rule → s.rules.count rule = other.rules.count rule) :
    step.isNeeded config options s.rules = step.isNeeded config options other.rules := by
  unfold isNeeded
  cases hrule : step.rule config with
  | none => rfl
  | some rule =>
      have hmem : rule ∈ s.rules ↔ rule ∈ other.rules :=
        Rehearsal.mem_rules_iff (h rule hrule)
      simp [hmem]

end Step

/-- The host refuses a change for this reason, or it accepts the change. -/
theorem Rehearsal.apply_eq_refusal {change : Change} (hchange : ∀ rule, change ≠ .delete rule) :
    s.apply change = match s.refusal? 0 change with
      | none => .ok (s.after change)
      | some cause => .error cause := by
  have hdenied : s.allowance.any (· ≤ s.changes.length + 0) = s.isDenied := by
    unfold isDenied
    cases s.allowance <;> rfl
  unfold refusal? apply
  rw [hdenied]
  -- the allowance is looked at before the list of refused rules, as `apply` does
  cases s.isDenied with
  | true => rfl
  | false =>
      cases change with
      | setForwarding on => rfl
      | append rule =>
          by_cases hrefused : rule ∈ s.refused <;>
            simp [hrefused, after, Change.onForwarding, Change.onRules]
      | delete rule => exact absurd rfl (hchange rule)

/-- A step that is needed makes its change behind the interfaces. -/
theorem does_needed_step (hstep : step ∈ Step.applying)
    (hdemands : (step.demands config options).find? (!s.hasInterface ·) = none)
    (hneeded : step.isNeeded config options s.rules = true)
    {v : Except SetupError StepOutcome} {changes : List Change}
    (hmake : Does (Setup.make step (step.addition config) >>= fun _ => pure .applied) s v
      changes []) :
    Does (Setup.applyStep config options .elevated step) s v changes [] := by
  unfold Setup.applyStep
  refine does_then (does_pure ()) ?_
  unfold Step.isNeeded at hneeded
  cases hrule : step.rule config with
  | none =>
      rw [Step.addition_of_no_rule hstep hrule] at hmake
      exact hmake
  | some rule =>
      have haddition : step.addition config = .append rule := by simp [Step.addition, hrule]
      rw [haddition] at hmake
      rw [hrule] at hneeded
      -- the interfaces are there; what is left is the look at the rule, made only when idempotent
      refine does_then (does_interfaces hdemands) ?_
      unfold Setup.addRule Setup.isInstalled
      cases hidempotent : options.idempotent with
      | true =>
          have hanswer : s.answer (.rule rule) = false := by
            simpa [hidempotent, Rehearsal.answer_rule] using hneeded
          refine does_then (does_ask (.rule rule)) ?_
          rw [hanswer]
          exact hmake
      | false => exact does_then (does_pure false) hmake

/-- A step that is not needed finds its rule behind the interfaces. -/
theorem does_needless_step
    (hdemands : (step.demands config options).find? (!s.hasInterface ·) = none)
    (hneeded : step.isNeeded config options s.rules = false) :
    Does (Setup.applyStep config options .elevated step) s (.ok .alreadyPresent) [] [] := by
  unfold Setup.applyStep
  refine does_then (does_pure ()) ?_
  unfold Step.isNeeded at hneeded
  cases hrule : step.rule config with
  -- a step without a rule is never needless
  | none => simp [hrule] at hneeded
  | some rule =>
      rw [hrule] at hneeded
      obtain ⟨hidempotent, hmem⟩ : options.idempotent = true ∧ s.rules.contains rule = true := by
        simpa using hneeded
      have hanswer : s.answer (.rule rule) = true := hmem
      refine does_then (does_interfaces hdemands) ?_
      unfold Setup.addRule Setup.isInstalled
      rw [hidempotent]
      refine does_then (does_ask (.rule rule)) ?_
      rw [hanswer]
      exact does_then (does_note rfl) (does_pure StepOutcome.alreadyPresent)

/-- A step with a missing interface ends there. -/
theorem does_unserved_step {name : String}
    (h : (step.demands config options).find? (!s.hasInterface ·) = some name) :
    Does (Setup.applyStep config options .elevated step) s
      (.error (.stepFailed step (.interfaceNotFound name))) [] [] := by
  unfold Setup.applyStep
  refine does_then (does_pure ()) ?_
  cases hrule : step.rule config with
  | none =>
      -- without a rule there are no interfaces to insist on
      have hnone : step.demands config options = [] := by
        unfold Step.demands
        cases step <;> simp_all [Step.rule, Step.interfaces]
      rw [hnone] at h
      cases h
  | some rule => exact does_stop (does_missing_interface h)

/-- A step without an obstacle comes to its end. -/
theorem does_clear_step (hstep : step ∈ Step.applying)
    (h : s.obstacle? config options [] step = none) :
    Does (Setup.applyStep config options .elevated step) s
      (.ok ((Procedure.apply options).outcome config s step))
      ((Procedure.apply options).effect config s step) [] := by
  rw [Step.outcome_of_applying, Step.effect_of_applying options s hstep]
  unfold Rehearsal.obstacle? at h
  -- no obstacle: the interfaces are there, and the change is either needless or accepted
  cases hdemands : (step.demands config options).find? (!s.hasInterface ·) with
  | some name => simp [hdemands] at h
  | none =>
      cases hneeded : step.isNeeded config options s.rules with
      | false => exact does_needless_step hdemands hneeded
      | true =>
          have hrefusal : s.refusal? 0 (step.addition config) = none := by
            simpa [hdemands, hneeded] using h
          have happly := Rehearsal.apply_eq_refusal (s := s) (step.addition_ne_delete config)
          rw [hrefusal] at happly
          have haccepts := ((s.apply_eq_ok_iff _).mp happly).1
          exact does_needed_step hstep hdemands hneeded
            (does_before_pure (fun _ => StepOutcome.applied) (does_make haccepts))

/-- A step with an obstacle fails with it and changes nothing. -/
theorem does_hindered_step (hstep : step ∈ Step.applying) {cause : HostError}
    (h : s.obstacle? config options [] step = some cause) :
    Does (Setup.applyStep config options .elevated step) s
      (.error (.stepFailed step cause)) [] [] := by
  unfold Rehearsal.obstacle? at h
  -- an interface hinders before the change does: without it the step makes no call
  cases hdemands : (step.demands config options).find? (!s.hasInterface ·) with
  | some name =>
      rw [hdemands] at h
      obtain rfl := Option.some.inj h
      exact does_unserved_step hdemands
  | none =>
      cases hneeded : step.isNeeded config options s.rules with
      | false => simp [hdemands, hneeded] at h
      | true =>
          have hrefusal : s.refusal? 0 (step.addition config) = some cause := by
            simpa [hdemands, hneeded] using h
          have happly := Rehearsal.apply_eq_refusal (s := s) (step.addition_ne_delete config)
          rw [hrefusal] at happly
          exact does_needed_step hstep hdemands hneeded (does_stop (does_refused happly))

/-! ## Steps in turn -/

/-- Changes made before use up the allowance. -/
theorem Rehearsal.refusal_after_all (changes : List Change) (made : Nat) (change : Change) :
    (s.afterAll changes).refusal? made change = s.refusal? (changes.length + made) change := by
  rw [after_all_eq]
  unfold refusal?
  simp [Nat.add_assoc]

/-- Steps with different rules meet the obstacles behind a step that they meet from the start. -/
theorem Rehearsal.obstacle_behind_step (hstep : step ∈ Step.applying)
    (hnodup : ((step :: steps).filterMap (·.rule config)).Nodup) {later : Step}
    (hdone : done ++ [later] <+: steps) :
    (s.afterAll ((Procedure.apply options).effect config s step)).obstacle? config options done
      later = s.obstacle? config options (step :: done) later := by
  let own := (Procedure.apply options).effect config s step
  -- `step` adds its own rule only, which no later step of the run shares, so none of them is
  -- needed any less; its change is the one more that the allowance is charged with
  have hneeded : ∀ other ∈ done ++ [later],
      other.isNeeded config options (s.afterAll own).rules =
        other.isNeeded config options s.rules := by
    intro other hother
    refine Step.needed_congr ?_
    intro rule hrule
    exact (Procedure.apply options).count_behind_step hnodup (hdone.subset hother) hrule
  have hinterfaces : (s.afterAll own).hasInterface = s.hasInterface := by
    funext name
    unfold hasInterface
    rw [interfaces_after_all]
  have hown : own.length = if step.isNeeded config options s.rules then 1 else 0 := by
    unfold own
    rw [Step.effect_of_applying options s hstep]
    split <;> rfl
  have hcount : done.countP (·.isNeeded config options (s.afterAll own).rules) =
      done.countP (·.isNeeded config options s.rules) := by
    refine List.countP_congr ?_
    intro other hother
    rw [hneeded other (List.mem_append_left _ hother)]
  unfold obstacle?
  rw [hinterfaces, hneeded later (by simp), hcount, refusal_after_all, hown, List.countP_cons,
    Nat.add_comm]

/-- So they do behind several steps. -/
theorem Rehearsal.obstacle_behind (hsteps : ∀ step ∈ done, step ∈ Step.applying)
    (hnodup : ((done ++ [step]).filterMap (·.rule config)).Nodup) :
    (s.afterAll ((Procedure.apply options).effects config s done)).obstacle? config options []
      step = s.obstacle? config options done step := by
  induction done generalizing s with
  | nil => rfl
  | cons first done ih =>
      rw [Procedure.effects, after_all_append,
        ih (fun later hlater => hsteps later (List.mem_cons_of_mem first hlater))
          (Procedure.nodup_rules_of_cons hnodup)]
      exact obstacle_behind_step (hsteps first List.mem_cons_self) hnodup List.prefix_rfl

/-- Steps in turn that are clear are done, and then what comes behind them. The induction is on
those steps, and each of them leaves the others as clear as they were. -/
theorem does_applying (hsteps : ∀ step ∈ done, step ∈ Step.applying)
    (hnodup : (done.filterMap (·.rule config)).Nodup) (hclear : s.IsClear config options done)
    {v : Except SetupError Report} {changes : List Change} :
    let procedure := Procedure.apply options
    Does (Setup.perform (procedure.act config .elevated) rest)
      (s.afterAll (procedure.effects config s done)) v changes [] →
    Does (Setup.perform (procedure.act config .elevated) (done ++ rest)) s
      (v.map (procedure.report config s done ++ ·)) (procedure.effects config s done ++ changes)
      [] := by
  intro procedure hrest
  induction done generalizing s with
  | nil =>
    cases v <;> exact hrest
  | cons step done ih =>
      have hstep : step ∈ Step.applying := hsteps step List.mem_cons_self
      have hact := does_clear_step hstep (hclear [] step (by simp))
      -- seen from behind `step`, the steps still to come are as clear as they were before it
      have hclear' : (s.afterAll (procedure.effect config s step)).IsClear config options done := by
        intro before later hbefore
        rw [Rehearsal.obstacle_behind_step hstep hnodup hbefore]
        exact hclear (step :: before) later (by simpa using hbefore)
      rw [Procedure.effects, Rehearsal.after_all_append] at hrest
      have htail := ih (fun later hlater => hsteps later (List.mem_cons_of_mem step hlater))
        (Procedure.nodup_rules_of_cons hnodup) hclear' hrest
      have hcons : Does (Setup.perform (procedure.act config .elevated) (step :: (done ++ rest))) s
          _ _ _ := does_perform_cons hact htail
      rw [Procedure.effects, Procedure.report, List.append_assoc]
      cases v <;> exact hcons

theorem Rehearsal.is_clear_nil (host : Rehearsal) : host.IsClear config options [] := by
  intro done step hinitial
  simp at hinitial

/-- One more step is clear if it has no obstacle behind the others. -/
theorem Rehearsal.is_clear_concat {host : Rehearsal} :
    host.IsClear config options (steps ++ [step]) ↔
      host.IsClear config options steps ∧ host.obstacle? config options steps step = none := by
  constructor
  · intro hclear
    exact ⟨fun done other hinitial => hclear done other (hinitial.trans (List.prefix_append ..)),
      hclear steps step List.prefix_rfl⟩
  · rintro ⟨hclear, hlast⟩ done other hinitial
    obtain heq | hinitial := List.prefix_concat_iff.mp hinitial
    · obtain ⟨rfl, hstep⟩ := List.append_inj' heq rfl
      obtain rfl := List.singleton_inj.mp hstep
      exact hlast
    · exact hclear done other hinitial

/-- Steps in turn are clear, or there is a first one that is not. -/
theorem Rehearsal.clear_or_hindered (host : Rehearsal) (config : NatConfig)
    (options : ApplyOptions) (steps : List Step) :
    host.IsClear config options steps ∨ ∃ done step rest cause, steps = done ++ step :: rest ∧
      host.IsClear config options done ∧ host.obstacle? config options done step = some cause := by
  induction steps using List.reverseRecOn with
  | nil => exact .inl host.is_clear_nil
  | append_singleton steps last ih =>
      obtain hclear | ⟨done, step, rest, cause, rfl, hclear, hobstacle⟩ := ih
      · cases hlast : host.obstacle? config options steps last with
        | some cause => exact .inr ⟨steps, last, [], cause, rfl, hclear, hlast⟩
        | none => exact .inl (is_clear_concat.mpr ⟨hclear, hlast⟩)
      · exact .inr ⟨done, step, rest ++ [last], cause, by simp, hclear, hobstacle⟩

/-! ## What the steps leave -/

/-- The host behind the switch and the rules that are added. -/
theorem Rehearsal.after_all_of_applying (host : Rehearsal) (added : List Rule) :
    host.afterAll (.setForwarding true :: added.map .append) =
      { host with
        forwarding := true
        rules := host.rules ++ added
        changes := host.changes ++ .setForwarding true :: added.map .append } := by
  obtain ⟨hrules, hforwarding⟩ := host.after_applying added
  rw [rules_after_all] at hrules
  rw [forwarding_after_all] at hforwarding
  rw [after_all_eq, hrules, hforwarding]

/-- Steps with rules add the rules of the needed ones. -/
theorem effects_of_rule_steps (hsteps : ∀ step ∈ steps, ∃ rule, step.rule config = some rule)
    (happlying : ∀ step ∈ steps, step ∈ Step.applying) :
    steps.flatMap ((Procedure.apply options).effect config s) =
      ((steps.filter (·.isNeeded config options s.rules)).filterMap (·.rule config)).map
        .append := by
  induction steps with
  | nil => rfl
  | cons step steps ih =>
      obtain ⟨rule, hrule⟩ := hsteps step List.mem_cons_self
      have haddition : step.addition config = .append rule := by simp [Step.addition, hrule]
      have hrest := ih (fun later hlater => hsteps later (List.mem_cons_of_mem step hlater))
        (fun later hlater => happlying later (List.mem_cons_of_mem step hlater))
      rw [List.flatMap_cons, hrest,
        Step.effect_of_applying options s (happlying step List.mem_cons_self), haddition]
      cases hneeded : step.isNeeded config options s.rules <;> simp [hneeded, hrule]

/-- The effects of the first steps of applying leave the host that stands behind them. -/
theorem Rehearsal.after_effects_of_applying (hsteps : done <+: Step.applying)
    (hnodup : (done.filterMap (·.rule config)).Nodup) :
    s.afterAll ((Procedure.apply options).effects config s done) =
      s.behind config options done := by
  rw [(Procedure.apply options).effects_eq_flatMap hnodup]
  cases done with
  | nil => rfl
  | cons first done =>
      -- the first step is the switch, and all steps behind it have rules
      obtain ⟨rfl, hdone⟩ := List.cons_prefix_cons.mp hsteps
      have hrules : ∀ step ∈ done, ∃ rule, step.rule config = some rule := by
        intro step hstep
        have hmem := hdone.subset hstep
        cases step <;> simp_all [Step.rule]
      have happlying : ∀ step ∈ done, step ∈ Step.applying :=
        fun step hstep => hsteps.subset (List.mem_cons_of_mem _ hstep)
      have hfirst : (Procedure.apply options).effect config s .enableForwarding =
          [.setForwarding true] := rfl
      rw [List.flatMap_cons, effects_of_rule_steps hrules happlying, hfirst, List.singleton_append,
        after_all_of_applying]
      rfl

end Steps

/-! ## The whole of applying -/

/-- All that applying does on a host in memory. -/
structure AppliedInFull (config : NatConfig) (options : ApplyOptions) (host : Rehearsal)
    (run : Run Rehearsal (Except SetupError Report)) : Prop where
  /-- The first step with an obstacle fails with it, and the steps before it stay done. -/
  stops : ∀ done step rest cause, Step.applying = done ++ step :: rest →
    host.IsClear config options done → host.obstacle? config options done step = some cause →
    run.value = .error (.stepFailed step cause) ∧ run.state = host.behind config options done
  /-- Without an obstacle all steps are done. -/
  finishes : host.IsClear config options Step.applying →
    run.value = .ok (Step.applying.map fun step =>
      (step, if step.isNeeded config options host.rules then .applied else .alreadyPresent)) ∧
    run.state = host.behind config options Step.applying
  /-- There is no other way. -/
  decided : host.IsClear config options Step.applying ∨
    ∃ done step rest cause, Step.applying = done ++ step :: rest ∧
      host.IsClear config options done ∧ host.obstacle? config options done step = some cause

/-- **Applying in full.** On any host in memory, with any rules, interfaces, earlier changes,
allowance and refused rules, and with any options, applying with a proper configuration and with
privilege ends at the first step that has an obstacle at the start, or does all steps if none has.
The host is then as the steps that were done leave it. -/
theorem applying_in_full {config : NatConfig} (hcheck : config.check = .ok ())
    (options : ApplyOptions) (host : Rehearsal) :
    AppliedInFull config options host
      ((Setup.apply config options .elevated).run.run Rehearsal.host host) := by
  let procedure := Procedure.apply options
  let run := (procedure.setup config .elevated).run.run Rehearsal.host host
  have hnodup : ∀ {done}, done <+: Step.applying → (done.filterMap (·.rule config)).Nodup :=
    fun hdone => (procedure.nodup_rules config).sublist (hdone.sublist.filterMap _)
  -- what clear first steps do, and what happens behind them
  have hfront : ∀ {done rest v}, Step.applying = done ++ rest → host.IsClear config options done →
      Does (Setup.perform (procedure.act config .elevated) rest)
        (host.afterAll (procedure.effects config host done)) v [] [] →
      run.value = v.map (procedure.report config host done ++ ·) ∧
        run.state = host.behind config options done := by
    intro done rest v hsteps hclear hrest
    have hdone : done <+: Step.applying := ⟨rest, hsteps.symm⟩
    have hperform :=
      does_applying (fun step hstep => hdone.subset hstep) (hnodup hdone) hclear hrest
    rw [← hsteps] at hperform
    obtain ⟨hvalue, hstate, -⟩ := procedure.does_setup hcheck hperform
    rw [List.append_nil, Rehearsal.after_effects_of_applying hdone (hnodup hdone)] at hstate
    exact ⟨hvalue, hstate⟩
  refine ⟨?_, ?_, host.clear_or_hindered config options Step.applying⟩
  · -- the obstacle from the start is the one that the step meets behind the others
    intro done step rest cause hsteps hclear hobstacle
    have hinitial : done ++ [step] <+: Step.applying := ⟨rest, by simp [hsteps]⟩
    have happlying : ∀ other ∈ done ++ [step], other ∈ Step.applying :=
      fun other hother => hinitial.subset hother
    rw [← Rehearsal.obstacle_behind (fun other hother => happlying other (by simp [hother]))
      (hnodup hinitial)] at hobstacle
    exact hfront hsteps hclear
      (does_perform_stop (does_hindered_step (happlying step (by simp)) hobstacle))
  · intro hclear
    obtain ⟨hvalue, hstate⟩ := hfront (List.append_nil _).symm hclear (does_pure [])
    refine ⟨hvalue.trans ?_, hstate⟩
    have hreport : procedure.report config host Step.applying = _ :=
      procedure.report_of_steps config host
    change Except.ok (procedure.report config host Step.applying ++ []) = _
    rw [List.append_nil, hreport]
    simp only [procedure, Step.outcome_of_applying]
    rfl

/-- An allowance that three changes use up, one of them from before. The rule that is there already
can still be passed, and the last step is denied before its rule could be refused. -/
theorem applying_in_full_denied :
    let config : NatConfig := {}
    let options : ApplyOptions := { idempotent := true, verifyInterfaces := true }
    let input : Rule := ⟨.filter, "INPUT", ["-j", "DROP"]⟩
    let host : Rehearsal :=
      { rules := [.acceptFrom config.tap, input], interfaces := some [config.uplink, config.tap]
        changes := [.append input], allowance := some 3
        refused := [.masquerade config.subnet config.uplink] }
    let run := (Setup.apply config options .elevated).run.run Rehearsal.host host
    run.value = .error (.stepFailed .masquerade .permissionDenied) ∧ run.state.forwarding = true ∧
      run.state.rules = [.acceptFrom config.tap, input, .acceptTo config.tap] ∧
      run.state.changes =
        [.append input, .setForwarding true, .append (.acceptTo config.tap)] ∧
      AppliedInFull config options host run := by
  intro config options input host run
  have hcheck : config.check = .ok () := by decide +kernel
  have happlied : AppliedInFull config options host run := applying_in_full hcheck options host
  have hclear : host.IsClear config options ([] ++ [.enableForwarding] ++ [.acceptToTap] ++
      [.acceptFromTap]) := by
    refine Rehearsal.is_clear_concat.mpr ⟨?_, by decide +kernel⟩
    refine Rehearsal.is_clear_concat.mpr ⟨?_, by decide +kernel⟩
    exact Rehearsal.is_clear_concat.mpr ⟨host.is_clear_nil, by decide +kernel⟩
  obtain ⟨hvalue, hstate⟩ := happlied.stops _ .masquerade [] .permissionDenied rfl hclear
    (by decide +kernel)
  rw [hstate]
  exact ⟨hvalue, rfl, by decide +kernel, by decide +kernel, happlied⟩

end GuestNat
