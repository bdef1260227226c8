import GuestNat.Proofs.FailFast
import GuestNat.Proofs.Memory
import GuestNat.Proofs.Sessions

/-!
# What operations leave alone

Whatever fails, an operation touches nothing but what its configuration is about. The argument reads
the changes that were made off the trace: they are among those that the operation may ask for, and
the memory behind the run is what they leave of it.

* `Plan.Within.made`: what was made is what may be asked for;
* `Rehearsal.turned_by`: forwarding is only turned by a change that turns it;
* `ends_switch_off`: removing switches forwarding off only once all its steps are done;
* `sessions_leave_the_rest`: the frame of every operation of a session and of the whole session.
-/

namespace GuestNat

variable {α σ : Type}

/-! ## Changes and what they are about -/

/-- Only changes that may be asked for are made, whatever the host replies. -/
theorem Plan.Within.made {asks : Question → Prop} {makes : Change → Prop} {plan : Plan α}
    (h : plan.Within asks makes) (host : Host σ) (s : σ) :
    ∀ change ∈ madeIn (plan.run host s).trace, makes change := by
  induction plan generalizing s with
  | done a => exact fun _ hmem => absurd hmem List.not_mem_nil
  | note event next ih => exact ih h s
  | ask question next ih =>
      have hown := made_in_ask (host.ask question s) question
      unfold Response.trace at hown
      intro change hchange
      unfold Plan.run Run.after at hchange
      dsimp only at hchange
      rw [made_in_append, hown] at hchange
      exact ih _ (h.2 _) _ change hchange
  | make asked next ih =>
      have hown := made_in_make (host.make asked s) asked
      unfold Response.trace at hown
      intro change hchange
      unfold Plan.run Run.after at hchange
      dsimp only at hchange
      rw [made_in_append, hown] at hchange
      -- it is this change, let through by the host, or one made behind it
      rcases List.mem_append.mp hchange with hfirst | hlater
      · cases hreply : (host.make asked s).reply with
        | ok _ =>
            rw [hreply] at hfirst
            rw [List.mem_singleton.mp hfirst]
            exact h.1
        | error e =>
            rw [hreply] at hfirst
            exact absurd hfirst List.not_mem_nil
      · exact ih _ (h.2 _) _ change hlater

/-- Forwarding is not turned but by a change that turns it so. -/
theorem Rehearsal.turned_by {host : Rehearsal} {changes : List Change} {on : Bool}
    (hbefore : host.forwarding ≠ on) (hafter : (host.afterAll changes).forwarding = on) :
    .setForwarding on ∈ changes := by
  induction changes generalizing host with
  | nil => exact absurd hafter hbefore
  | cons change changes ih =>
      -- the setting is reached by the first change already, or by one of the rest
      by_cases hturned : (host.after change).forwarding = on
      · cases change with
        | setForwarding on' =>
            have heq : on' = on := hturned
            rw [heq]
            exact List.mem_cons_self
        | append rule => exact absurd hturned hbefore
        | delete rule => exact absurd hturned hbefore
      · exact List.mem_cons_of_mem change (ih hturned hafter)

variable {config : NatConfig}

/-! ## Switching off -/

section SwitchOff

variable {host : Host σ} {s : σ} {step : Step} {on : Bool}

/-- A step with a rule does not turn forwarding. -/
theorem turn_not_mem_changes {rule : Rule} (hrule : step.rule config = some rule)
    (outcome : StepOutcome) : .setForwarding on ∉ outcome.changes config step := by
  cases outcome <;> simp [StepOutcome.changes, Step.addition, Step.deletions, hrule]

theorem turn_not_mem_deletions (copies : Nat) :
    .setForwarding on ∉ step.deletions config copies := by
  unfold Step.deletions
  cases step.rule config <;> simp

/-- Before the last step of removing, forwarding is not turned. -/
theorem InOrder.turns_last {disableForwarding : Bool} {e : SetupError} {t : List Occurrence}
    (h : InOrder (.teardown disableForwarding) config Step.removing (.error e) t) :
    .setForwarding on ∉ madeIn t := by
  obtain ⟨step, done, begun, last, cause, hstopped⟩ := h
  obtain ⟨rest, hsteps⟩ := hstopped.inTurn
  obtain ⟨copies, hbegun⟩ := hstopped.broken.begun
  have hstop := hstopped.stop
  -- the call that failed made nothing, so all that was made is among what was asked for before
  have hlast : madeIn [last] = [] := by
    cases last with
    | noted event => cases hstop
    | asked question reply => rfl
    | made change reply =>
        cases reply with
        | ok _ => cases hstop
        | error e => rfl
  have hmade : madeIn t ⊆ changesOf (done ++ begun) := by
    rw [← made_of_calls, hstopped.calls, made_in_append, hlast, List.append_nil]
    exact made_subset_changes (done ++ begun)
  -- and those calls were made by finished steps, which are not the last one, and by deletions
  have hfront : ∀ finished ∈ finishedIn t, ∃ rule, finished.1.rule config = some rule := by
    intro finished hfinished
    have hmem : finished.1 ∈ Step.removing.dropLast := by
      rw [hsteps, List.dropLast_append_cons]
      exact List.mem_append_left _ (List.mem_map_of_mem hfinished)
    have hrules : ∀ step ∈ Step.removing.dropLast, ∃ rule, step.rule config = some rule := by
      simp [Step.removing, Step.rule]
    exact hrules finished.1 hmem
  intro hturn
  have hasked := hmade hturn
  rw [changes_of_append, hstopped.done.changes, hbegun] at hasked
  rcases List.mem_append.mp hasked with hfinished | hbegun'
  · obtain ⟨finished, hmem, hchange⟩ := List.mem_flatMap.mp hfinished
    obtain ⟨rule, hrule⟩ := hfront finished hmem
    exact turn_not_mem_changes hrule finished.2 hchange
  · exact turn_not_mem_deletions copies hbegun'

/-- Removing turns forwarding only if all of its steps are done. -/
theorem ends_switch_off (disableForwarding : Bool) (privilege : Privilege) (on : Bool) :
    ((Procedure.teardown disableForwarding).setup config privilege).run.Ends host s fun v _ t =>
      .setForwarding on ∈ madeIn t →
        ∃ report, v = .ok report ∧ report.map (·.1) = Step.removing ∧ finishedIn t = report := by
  cases hcheck : config.check with
  | error fault =>
      refine ((Procedure.teardown disableForwarding).ends_refused hcheck privilege).mono ?_
      rintro v s' t ⟨-, rfl⟩ hturn
      exact absurd hturn List.not_mem_nil
  | ok _ =>
      cases privilege with
      | elevated =>
          refine (Procedure.ends_in_order _ hcheck).mono ?_
          intro v s' t hv hturn
          -- switching forwarding is the last step, so a run that does it has failed nowhere
          cases v with
          | ok report => exact ⟨report, rfl, hv.inTurn, hv.finished⟩
          | error e => exact absurd hturn hv.turns_last
      | unprivileged =>
          refine ((Procedure.teardown disableForwarding).ends_denied hcheck).mono ?_
          rintro v s' t ⟨-, hcalls, -⟩ hturn
          rw [← made_of_calls, hcalls] at hturn
          exact absurd hturn List.not_mem_nil

end SwitchOff

/-! ## Operations and sessions -/

/-- What an operation leaves alone, given the memory before and behind it, its answer and its
trace. -/
structure LeavesTheRest (operation : Operation) (before after : Rehearsal) (answer : Answer)
    (trace : List Occurrence) : Prop where
  /-- The rules of others, in their order and number. -/
  rules : after.rules.filter (· ∉ operation.config.rules) =
    before.rules.filter (· ∉ operation.config.rules)
  interfaces : after.interfaces = before.interfaces
  /-- Only applying switches forwarding on. -/
  switched_on : before.forwarding = false → after.forwarding = true →
    ∃ options config privilege, operation = .setup (.apply options) config privilege
  /-- Only removing switches it off, if it is told to and has finished all its steps. -/
  switched_off : before.forwarding = true → after.forwarding = false →
    ∃ config privilege report, operation = .setup (.teardown true) config privilege ∧
      answer = .ended (.ok report) ∧ report.map (·.1) = Step.removing ∧ finishedIn trace = report
  /-- Looks and rehearsals leave everything as it is, the record of the changes included. -/
  asking : operation.OnlyAsks → after = before

section Frame

variable {host : Host σ} {memory : σ → Rehearsal}

theorem operation_leaves_the_rest (h : Mirrors host memory) (operation : Operation) (s : σ) :
    operation.plan.Ends host s fun answer s' t =>
      LeavesTheRest operation (memory s) (memory s') answer t := by
  have hmemory := h.memory_of_run operation.plan s
  have hmade := operation.within_plan.made host s
  unfold Plan.Ends
  refine ⟨?_, ?_, ?_, ?_, ?_⟩
  · rw [hmemory]
    refine Rehearsal.filter_rules_after_all ?_
    intro change hchange rule hrule
    have hown := (hmade change hchange).rule_mem hrule
    simp [hown]
  · rw [hmemory, Rehearsal.interfaces_after_all]
  · intro hbefore hafter
    rw [hmemory] at hafter
    have hon := hmade _ (Rehearsal.turned_by (by simp [hbefore]) hafter)
    cases operation with
    | look config => exact absurd hon not_false
    | rehearsal command config => exact absurd hon not_false
    | setup procedure config privilege =>
        cases procedure with
        | apply options => exact ⟨options, config, privilege, rfl⟩
        | teardown disableForwarding => cases hon.2
  · intro hbefore hafter
    rw [hmemory] at hafter
    have hturn := Rehearsal.turned_by (by simp [hbefore]) hafter
    have hoff := hmade _ hturn
    cases operation with
    | look config => exact absurd hoff not_false
    | rehearsal command config => exact absurd hoff not_false
    | setup procedure config privilege =>
        cases procedure with
        | apply options => exact absurd hoff Bool.false_ne_true
        | teardown disableForwarding =>
            obtain rfl : disableForwarding = true := hoff.1
            have hends : (Operation.setup (.teardown true) config privilege).plan.Ends host s
                fun answer _ t => .setForwarding false ∈ madeIn t →
                  ∃ report, answer = .ended (.ok report) ∧ report.map (·.1) = Step.removing ∧
                    finishedIn t = report := by
              refine Plan.ends_map.mpr ((ends_switch_off true privilege false).mono ?_)
              intro v s' t hv hturn
              obtain ⟨report, rfl, hsteps, hfinished⟩ := hv hturn
              exact ⟨report, rfl, hsteps, hfinished⟩
            obtain ⟨report, hanswer, hsteps, hfinished⟩ := hends hturn
            exact ⟨config, privilege, report, rfl, hanswer, hsteps, hfinished⟩
  · intro hasks
    -- nothing may be asked for, so nothing was made
    have hnone : madeIn (operation.plan.run host s).trace = [] := by
      rw [List.eq_nil_iff_forall_not_mem]
      intro change hchange
      have hmakes := hmade change hchange
      cases operation with
      | setup procedure config privilege => exact hasks
      | look config => exact hmakes
      | rehearsal command config => exact hmakes
    rw [hmemory, hnone, Rehearsal.after_all_nil]

/-- So the rules of any kind that the configuration has none of stay as they are. -/
theorem LeavesTheRest.rules_of_kind {operation : Operation} {before after : Rehearsal}
    {answer : Answer} {trace : List Occurrence}
    (h : LeavesTheRest operation before after answer trace)
    {kind : Rule → Bool} (hkind : ∀ rule ∈ operation.config.rules, kind rule = false) :
    after.rules.filter kind = before.rules.filter kind := by
  have hall : ∀ rules : List Rule,
      (rules.filter (· ∉ operation.config.rules)).filter kind = rules.filter kind := by
    intro rules
    rw [List.filter_filter]
    refine List.filter_congr ?_
    intro rule _
    by_cases hrule : rule ∈ operation.config.rules <;> simp [hrule, hkind]
  rw [← hall after.rules, h.rules, hall]

/-- What a session leaves alone, from the state that it starts in. -/
structure SessionLeavesTheRest (host : Host σ) (memory : σ → Rehearsal)
    (operations : List Operation) (first : σ) : Prop where
  /-- Every operation leaves alone what it is not about, in the state that the earlier ones have
  left. -/
  each : ∀ earlier operation later, operations = earlier ++ operation :: later →
    let s := ((Operation.inTurn earlier).run host first).state
    let run := operation.plan.run host s
    LeavesTheRest operation (memory s) (memory run.state) run.value run.trace
  /-- The rules of a kind that none of the configurations has any of stay in their order and
  number. -/
  rules : ∀ kind : Rule → Bool,
    (∀ operation ∈ operations, ∀ rule ∈ operation.config.rules, kind rule = false) →
      (memory ((Operation.inTurn operations).run host first).state).rules.filter kind =
        (memory first).rules.filter kind
  interfaces : (memory ((Operation.inTurn operations).run host first).state).interfaces =
    (memory first).interfaces
  /-- Forwarding only comes on in a session that applies, and only goes off in one that removes and
  is told to switch it off. -/
  switched_on : (memory first).forwarding = false →
    (memory ((Operation.inTurn operations).run host first).state).forwarding = true →
      ∃ options config privilege, .setup (.apply options) config privilege ∈ operations
  switched_off : (memory first).forwarding = true →
    (memory ((Operation.inTurn operations).run host first).state).forwarding = false →
      ∃ config privilege, .setup (.teardown true) config privilege ∈ operations
  /-- A session of looks and rehearsals leaves everything as it is. -/
  asking : (∀ operation ∈ operations, operation.OnlyAsks) →
    memory ((Operation.inTurn operations).run host first).state = memory first

/-- What every operation leaves alone, all of them do, by induction on the operations. -/
theorem ends_session (h : Mirrors host memory) (operations : List Operation) (s : σ) :
    (Operation.inTurn operations).Ends host s fun _ s' _ =>
      (∀ kind : Rule → Bool,
        (∀ operation ∈ operations, ∀ rule ∈ operation.config.rules, kind rule = false) →
          (memory s').rules.filter kind = (memory s).rules.filter kind) ∧
      (memory s').interfaces = (memory s).interfaces ∧
      ((memory s).forwarding = false → (memory s').forwarding = true →
        ∃ options config privilege, .setup (.apply options) config privilege ∈ operations) ∧
      ((memory s).forwarding = true → (memory s').forwarding = false →
        ∃ config privilege, .setup (.teardown true) config privilege ∈ operations) ∧
      ((∀ operation ∈ operations, operation.OnlyAsks) → memory s' = memory s) := by
  -- each part composes along the session: what one operation keeps, the rest keep of it
  induction operations generalizing s with
  | nil =>
      refine Plan.ends_pure.mpr ⟨fun _ _ => rfl, rfl, ?_, ?_, fun _ => rfl⟩
      · intro hoff hon
        rw [hoff] at hon
        cases hon
      · intro hon hoff
        rw [hon] at hoff
        cases hoff
  | cons operation operations ih =>
      refine Operation.ends_in_turn_cons.mpr ?_
      refine (operation_leaves_the_rest h operation s).mono ?_
      intro answer s' t hfirst
      refine (ih s').mono ?_
      rintro answers s'' - ⟨hrules, hinterfaces, hon, hoff, hasking⟩
      refine ⟨?_, hinterfaces.trans hfirst.interfaces, ?_, ?_, ?_⟩
      · intro kind hkind
        rw [hrules kind fun o ho => hkind o (List.mem_cons_of_mem operation ho)]
        exact hfirst.rules_of_kind (hkind operation List.mem_cons_self)
      · -- forwarding came on in the first operation or behind it
        intro hbefore hafter
        cases hbetween : (memory s').forwarding with
        | true =>
            obtain ⟨options, config, privilege, rfl⟩ := hfirst.switched_on hbefore hbetween
            exact ⟨options, config, privilege, List.mem_cons_self⟩
        | false =>
            obtain ⟨options, config, privilege, hmem⟩ := hon hbetween hafter
            exact ⟨options, config, privilege, List.mem_cons_of_mem operation hmem⟩
      · intro hbefore hafter
        cases hbetween : (memory s').forwarding with
        | false =>
            obtain ⟨config, privilege, -, rfl, -⟩ := hfirst.switched_off hbefore hbetween
            exact ⟨config, privilege, List.mem_cons_self⟩
        | true =>
            obtain ⟨config, privilege, hmem⟩ := hoff hbetween hafter
            exact ⟨config, privilege, List.mem_cons_of_mem operation hmem⟩
      · intro hasks
        rw [hasking fun o ho => hasks o (List.mem_cons_of_mem operation ho)]
        exact hfirst.asking (hasks operation List.mem_cons_self)

/-- **Operations leave the rest alone.** In any session on a host in memory, whichever calls fail,
every procedure keeps the rules of others in their order and number, no operation changes the
interfaces, forwarding comes on only by applying and goes off only by removing that was told to and
has finished all its steps, and looks and rehearsals change nothing. -/
theorem sessions_leave_the_rest (h : Mirrors host memory) (operations : List Operation)
    (first : σ) : SessionLeavesTheRest host memory operations first := by
  obtain ⟨hrules, hinterfaces, hon, hoff, hasking⟩ := ends_session h operations first
  exact ⟨fun earlier operation _ _ => operation_leaves_the_rest h operation _, hrules, hinterfaces,
    hon, hoff, hasking⟩

/-- A session between two foreign rules: the first removal fails at its second deletion, and only
the one behind it switches forwarding off. -/
theorem sessions_leave_the_rest_behind_fault :
    let config : NatConfig := {}
    let input : Rule := ⟨.filter, "INPUT", ["-j", "DROP"]⟩
    let output : Rule := ⟨.nat, "POSTROUTING", ["-j", "ACCEPT"]⟩
    let removal : Operation := .setup (.teardown true) config .elevated
    let earlier : List Operation := [.setup (.apply {}) config .elevated,
      .rehearsal (.down true) config, .look config, removal]
    let host := Faulty.host [⟨.deleteRule, some 2, .permissionDenied⟩] Rehearsal.host
    let first : Faulty Rehearsal :=
      { state := { rules := [input, .acceptFrom config.tap, output] } }
    let between := ((Operation.inTurn earlier).run host first).state.state
    let last := ((Operation.inTurn (earlier ++ [removal])).run host first).state.state
    (between.forwarding, between.rules) =
        (true, [input, .acceptFrom config.tap, output, .acceptTo config.tap,
          .acceptFrom config.tap]) ∧
      (last.forwarding, last.rules) = (false, [input, output]) ∧
      SessionLeavesTheRest host (·.state) (earlier ++ [removal]) first := by
  intro config input output removal earlier host first between last
  exact ⟨by decide +kernel, by decide +kernel,
    sessions_leave_the_rest (mirrors_faulty _ mirrors_rehearsal) (earlier ++ [removal]) first⟩

end Frame

end GuestNat
