import GuestNat.Proofs.ExitCodes
import GuestNat.Proofs.RemovalLoop
import Mathlib.Algebra.BigOperators.Group.List.Basic

/-!
# The calls of a removal

How many calls a removal makes on any host, and what its report tells of them.

* `AllTookAway`, `ends_teardown`: the calls behind the outcome of each step that is finished;
* `calls_of_teardown`, `looks_of_teardown`, `deletions_of_teardown`, `switches_of_teardown`: which
  calls there are at all, and how many of them at most;
* `KeepsLimits`, `removal_keeps_limits`: all of this for every run.
-/

namespace GuestNat

variable {σ : Type}

/-! ## Steps -/

section Steps

variable {config : NatConfig} {step : Step} {rule : Rule} {steps : List Step}

/-- A step that is finished has made these calls for its rule. -/
theorem ends_teardown_step (host : Host σ) (s : σ) (disableForwarding : Bool)
    (hrule : step.rule config = some rule) :
    (Setup.teardownStep config disableForwarding .elevated step).run.Ends host s fun v _ t =>
      ∀ outcome, v = .ok outcome → TookAway rule outcome (callsAbout rule t) := by
  unfold Setup.teardownStep
  rw [hrule]
  change (Setup.removeCopies step rule Setup.maxRemovals 0 >>= fun removed =>
    pure (StepOutcome.ofRemovals removed)).run.Ends host s _
  refine Setup.ends_of_parts (ends_as_loop (Nat.zero_add _)) ?_ ?_
  · -- the loop starts at none removed, so its count is the number of copies taken away
    intro n s' t hloop
    obtain ⟨copies, left, hn, hle, hleft, hcalls⟩ := hloop.calls (Nat.zero_le _)
    obtain rfl : n = copies := by omega
    refine Setup.ends_pure.mpr ?_
    rintro outcome hv
    obtain rfl := Except.ok.inj hv
    rw [List.append_nil, hcalls]
    exact .copies hle hleft
  · intro e s' t _ outcome hv
    cases hv

/-- A step with another rule can make no call about this one. -/
theorem at_most_other (disableForwarding : Bool) (privilege : Privilege)
    (hrule : step.rule config ≠ some rule) :
    (Setup.teardownStep config disableForwarding privilege step).run.AtMost
      (·.rule? = some rule) (·.rule? = some rule) 0 := by
  refine (at_most_teardown_step disableForwarding privilege).mono (Nat.le_of_eq ?_)
  unfold Step.removalLimit
  cases hown : step.rule config with
  | none => simp [Change.rule?]
  | some own =>
      have hne : own ≠ rule := fun heq => hrule (heq ▸ hown)
      simp [Rule.removalLimit, Question.rule?, Change.rule?, hne]

/-- A step makes no call about the rule of another one. -/
theorem calls_about_other (host : Host σ) (s : σ) (disableForwarding : Bool)
    (privilege : Privilege) (hrule : step.rule config ≠ some rule) :
    (Setup.teardownStep config disableForwarding privilege step).run.Ends host s fun _ _ t =>
      callsAbout rule t = [] :=
  calls_about_of_counted
    (Nat.le_zero.mp ((at_most_other disableForwarding privilege hrule).count_le host s))

/-- Steps in turn make no call about a rule that none of them has. -/
theorem calls_about_others (host : Host σ) (s : σ) (disableForwarding : Bool)
    (privilege : Privilege) (hrule : ∀ step ∈ steps, step.rule config ≠ some rule) :
    (Setup.perform (Setup.teardownStep config disableForwarding privilege) steps).run.Ends host s
      fun _ _ t => callsAbout rule t = [] := by
  have hnone := (at_most_perform fun step hstep =>
    at_most_other disableForwarding privilege (hrule step hstep)).count_le host s
  rw [List.sum_map_zero] at hnone
  exact calls_about_of_counted (Nat.le_zero.mp hnone)

/-- What is reported as finished is found in the trace. -/
theorem mem_of_finished {outcome : StepOutcome} {t : List Occurrence}
    (h : (step, outcome) ∈ finishedIn t) : .noted (.stepFinished step outcome) ∈ t := by
  obtain ⟨o, ho, hfin⟩ := List.mem_filterMap.mp h
  cases o with
  | noted event =>
      cases event with
      | stepFinished reported done =>
          obtain ⟨rfl, rfl⟩ := Prod.mk.inj (Option.some.inj hfin)
          exact ho
      | _ => cases hfin
  | _ => cases hfin

theorem finished_event_inj {first : Step} {outcome reported : StepOutcome}
    (h : Occurrence.noted (.stepFinished first outcome) = .noted (.stepFinished step reported)) :
    step = first ∧ reported = outcome := by
  injection h with hevent
  injection hevent with hstep houtcome
  exact ⟨hstep.symm, houtcome.symm⟩

/-- Behind a part without any, the first report of a finished step comes before all others. -/
theorem split_at_finished {first : Step} {outcome reported : StepOutcome}
    {t u before after : List Occurrence} (hfin : finishedIn t = [])
    (h : t ++ .noted (.stepFinished first outcome) :: u =
      before ++ .noted (.stepFinished step reported) :: after) :
    before = t ∧ step = first ∧ reported = outcome ∧ after = u ∨
      ∃ between, before = t ++ .noted (.stepFinished first outcome) :: between ∧
        u = between ++ .noted (.stepFinished step reported) :: after := by
  rcases List.append_eq_append_iff.mp h with ⟨between, hbefore, hrest⟩ | ⟨between, ht, hrest⟩
  · cases between with
    | nil =>
        obtain ⟨hsame, rfl⟩ := List.cons.inj hrest
        obtain ⟨rfl, rfl⟩ := finished_event_inj hsame
        rw [List.append_nil] at hbefore
        exact .inl ⟨hbefore, rfl, rfl, rfl⟩
    | cons o between =>
        obtain ⟨rfl, rfl⟩ := List.cons.inj hrest
        exact .inr ⟨between, hbefore, rfl⟩
  · cases between with
    | nil =>
        obtain ⟨hsame, rfl⟩ := List.cons.inj hrest
        obtain ⟨rfl, rfl⟩ := finished_event_inj hsame.symm
        rw [List.append_nil] at ht
        exact .inl ⟨ht.symm, rfl, rfl, rfl⟩
    | cons o between =>
        -- the report would stand in the part that has none
        obtain ⟨rfl, -⟩ := List.cons.inj hrest
        rw [ht, finished_in_append] at hfin
        cases (List.append_eq_nil_iff.mp hfin).2

/-- Each step has made these calls for its rule when it is reported as finished, and makes none
behind it. -/
def AllTookAway (config : NatConfig) (steps : List Step) (trace : List Occurrence) : Prop :=
  ∀ before after step outcome rule,
    trace = before ++ .noted (.stepFinished step outcome) :: after → step.rule config = some rule →
      step ∈ steps ∧ TookAway rule outcome (callsAbout rule before) ∧ callsAbout rule after = []

theorem all_took_away_of_none {t : List Occurrence} (hfin : finishedIn t = []) :
    AllTookAway config steps t := by
  rintro before after step outcome rule rfl
  rw [finished_in_append] at hfin
  cases (List.append_eq_nil_iff.mp hfin).2

/-- A finished step in front of others with other rules. -/
theorem AllTookAway.cons {outcome : StepOutcome} {t u : List Occurrence}
    (hnodup : ((step :: steps).filterMap (·.rule config)).Nodup) (hfin : finishedIn t = [])
    (hown : ∀ rule, step.rule config = some rule → TookAway rule outcome (callsAbout rule t))
    (hother : ∀ rule, step.rule config ≠ some rule → callsAbout rule t = [])
    (hbehind : ∀ rule, (∀ later ∈ steps, later.rule config ≠ some rule) → callsAbout rule u = [])
    (hrest : AllTookAway config steps u) :
    AllTookAway config (step :: steps) (t ++ .noted (.stepFinished step outcome) :: u) := by
  intro before after found reported rule hsplit hrule
  -- a rule belongs to one of the steps only
  have hdisjoint :
      step.rule config = some rule → ∀ later ∈ steps, later.rule config ≠ some rule := by
    intro hstep later hlater hsame
    rw [List.filterMap_cons_some hstep, List.nodup_cons] at hnodup
    exact hnodup.1 (List.mem_filterMap.mpr ⟨later, hlater, hsame⟩)
  rcases split_at_finished hfin hsplit with ⟨rfl, rfl, rfl, rfl⟩ | ⟨between, rfl, hu⟩
  · exact ⟨List.mem_cons_self, hown rule hrule, hbehind rule (hdisjoint hrule)⟩
  · obtain ⟨hsteps, htook, hnone⟩ := hrest between after found reported rule hu hrule
    have hne : step.rule config ≠ some rule := fun hstep => hdisjoint hstep found hsteps hrule
    refine ⟨List.mem_cons_of_mem step hsteps, ?_, hnone⟩
    have hcalls : callsAbout rule (t ++ .noted (.stepFinished step outcome) :: between) =
        callsAbout rule t ++ callsAbout rule between :=
      calls_about_append t _
    rw [hcalls, hother rule hne, List.nil_append]
    exact htook

/-- An announcement in front changes nothing of this. -/
theorem AllTookAway.announced {event : Event} {t : List Occurrence}
    (hevent : (Occurrence.noted event).finished? = none) (h : AllTookAway config steps t) :
    AllTookAway config steps (.noted event :: t) := by
  intro before after step outcome rule hsplit hrule
  cases before with
  | nil =>
      obtain ⟨hsame, -⟩ := List.cons.inj hsplit
      rw [hsame] at hevent
      cases hevent
  | cons o before =>
      obtain ⟨rfl, rfl⟩ := List.cons.inj hsplit
      exact h before after step outcome rule rfl hrule

/-- What the trace of one step shows of its own rule and of others. -/
theorem ends_teardown_step_apart (host : Host σ) (s : σ) (disableForwarding : Bool)
    (hstep : step ∈ Step.removing) :
    (Setup.teardownStep config disableForwarding .elevated step).run.Ends host s fun v _ t =>
      finishedIn t = [] ∧
        (∀ outcome rule, v = .ok outcome → step.rule config = some rule →
          TookAway rule outcome (callsAbout rule t)) ∧
        ∀ rule, step.rule config ≠ some rule → callsAbout rule t = [] := by
  refine ⟨?_, ?_, fun rule => calls_about_other host s disableForwarding .elevated⟩
  · have horderly : ((Procedure.teardown disableForwarding).act config .elevated step).run.Ends
        host s _ := Procedure.orderly_act _ hstep
    exact horderly.mono fun _ _ _ hv => hv.finished
  · intro outcome rule hv hrule
    exact ends_teardown_step host s disableForwarding hrule outcome hv

/-- So it is for steps in turn, as far as they come. The induction is on the steps. -/
theorem ends_taking_away (host : Host σ) (s : σ) (disableForwarding : Bool)
    (hsteps : ∀ step ∈ steps, step ∈ Step.removing)
    (hnodup : (steps.filterMap (·.rule config)).Nodup) :
    (Setup.perform (Setup.teardownStep config disableForwarding .elevated) steps).run.Ends host s
      fun _ _ t => AllTookAway config steps t := by
  induction steps generalizing s with
  | nil => exact Setup.ends_pure.mpr (all_took_away_of_none rfl)
  | cons step steps ih =>
      unfold Setup.perform
      refine Setup.ends_of_parts (ends_teardown_step_apart host s disableForwarding
        (hsteps step List.mem_cons_self)) ?_ ?_
      · rintro outcome s' t ⟨hfin, hown, hother⟩
        rw [Plan.ends_except_bind, Setup.ends_note]
        dsimp only
        rw [Plan.ends_except_bind]
        have hrest := ih s' (fun later hlater => hsteps later (List.mem_cons_of_mem step hlater))
          (Procedure.nodup_rules_of_cons hnodup)
        have hbehind : (Setup.perform (Setup.teardownStep config disableForwarding .elevated)
            steps).run.Ends host s' fun _ _ u => ∀ rule,
              (∀ later ∈ steps, later.rule config ≠ some rule) → callsAbout rule u = [] :=
          fun rule => calls_about_others host s' disableForwarding .elevated
        refine Plan.Ends.mono (P := fun _ _ u => AllTookAway config steps u ∧ ∀ rule,
          (∀ later ∈ steps, later.rule config ≠ some rule) → callsAbout rule u = [])
          ⟨hrest, hbehind⟩ ?_
        rintro v s'' u ⟨hlater, hnone⟩
        have hcons : AllTookAway config (step :: steps)
            (t ++ .noted (.stepFinished step outcome) :: u) :=
          .cons hnodup hfin (fun rule => hown outcome rule rfl) hother hnone hlater
        cases v with
        | error e => exact hcons
        | ok report =>
            refine Setup.ends_pure.mpr ?_
            rw [List.append_nil]
            exact hcons
      · -- a step that fails is not finished
        rintro e s' t ⟨hfin, -⟩
        exact all_took_away_of_none hfin

/-- So it is for a whole removal, with any configuration and any privilege. -/
theorem ends_teardown (host : Host σ) (s : σ) (config : NatConfig) (disableForwarding : Bool)
    (privilege : Privilege) :
    (Setup.teardown config disableForwarding privilege).run.Ends host s fun _ _ t =>
      AllTookAway config Step.removing t := by
  let procedure : Procedure := .teardown disableForwarding
  change (procedure.setup config privilege).run.Ends host s _
  -- a refused or denied run finishes no step, so there is nothing to show for it
  cases hcheck : config.check with
  | error fault =>
      refine (procedure.ends_refused hcheck privilege).mono ?_
      rintro v s' t ⟨-, rfl⟩
      exact all_took_away_of_none rfl
  | ok _ =>
      cases privilege with
      | unprivileged =>
          refine (procedure.ends_denied hcheck).mono ?_
          rintro v s' t ⟨-, -, hfin⟩
          exact all_took_away_of_none hfin
      | elevated =>
          rw [procedure.ends_setup hcheck]
          refine (ends_taking_away host s disableForwarding (fun _ h => h)
            (procedure.nodup_rules config)).mono ?_
          exact fun v s' t htook => htook.announced rfl

end Steps

/-! ## The whole removal -/

section Limits

variable {asks : Question → Bool} {makes : Change → Bool} {config : NatConfig} {rule : Rule}

/-- Rules that no counted call is about take no part in the limit. -/
theorem sum_of_uncounted (hasks : ∀ rule ∈ config.rules, asks (.rule rule) = false)
    (hmakes : ∀ rule ∈ config.rules, makes (.delete rule) = false) :
    (config.rules.map fun rule => rule.removalLimit asks makes Setup.maxRemovals).sum = 0 := by
  refine List.sum_eq_zero ?_
  intro limit hlimit
  obtain ⟨rule, hrule, rfl⟩ := List.mem_map.mp hlimit
  simp [Rule.removalLimit, hasks rule hrule, hmakes rule hrule]

variable (config) (host : Host σ) (s : σ) (disableForwarding : Bool) (privilege : Privilege)

theorem counted_in_teardown (asks : Question → Bool) (makes : Change → Bool) :
    countedIn asks makes
        ((Setup.teardown config disableForwarding privilege).run.run host s).trace ≤
      (config.rules.map fun rule => rule.removalLimit asks makes Setup.maxRemovals).sum +
        if disableForwarding then (makes (.setForwarding false)).toNat else 0 :=
  (at_most_teardown config disableForwarding privilege).count_le host s

/-- Where the counted calls are about one rule, no more of them are made than are needed for this
rule, whatever other rules the configuration has. -/
theorem counted_about_rule (hasks : ∀ other, other ≠ rule → asks (.rule other) = false)
    (hmakes : ∀ other, other ≠ rule → makes (.delete other) = false)
    (hswitch : makes (.setForwarding false) = false) :
    countedIn asks makes
        ((Setup.teardown config disableForwarding privilege).run.run host s).trace ≤
      rule.removalLimit asks makes Setup.maxRemovals := by
  -- the limits of all rules sum up to the one of `rule`, which the configuration has at most once
  have hnodup : config.rules.count rule ≤ 1 :=
    List.nodup_iff_count_le_one.mp config.nodup_rules rule
  have hlimit := counted_in_teardown config host s disableForwarding privilege asks makes
  rw [hswitch, Bool.toNat_false, ite_self, Nat.add_zero, List.sum_map_eq_nsmul_single rule]
    at hlimit
  · exact Nat.le_trans (Nat.le_trans hlimit (Nat.mul_le_mul_right _ hnodup))
      (Nat.le_of_eq (Nat.one_mul _))
  · intro other hother _
    simp [Rule.removalLimit, hasks other hother, hmakes other hother]

/-- A removal makes no call but those about the rules of the configuration, and the switch if it is
told to: all others are counted here, and none is found. -/
theorem calls_of_teardown :
    let run := (Setup.teardown config disableForwarding privilege).run.run host s
    (∀ question ∈ questionsOf run.trace, ∃ rule ∈ config.rules, question = .rule rule) ∧
      ∀ change ∈ changesOf run.trace, (∃ rule ∈ config.rules, change = .delete rule) ∨
        disableForwarding = true ∧ change = .setForwarding false := by
  intro run
  -- count the calls that should not be made: the limit for them is zero
  let asks : Question → Bool := fun question => ¬∃ rule ∈ config.rules, question = .rule rule
  let makes : Change → Bool := fun change => ¬((∃ rule ∈ config.rules, change = .delete rule) ∨
    disableForwarding = true ∧ change = .setForwarding false)
  have hasks : ∀ rule ∈ config.rules, asks (.rule rule) = false := fun rule hrule =>
    decide_eq_false (not_not_intro ⟨rule, hrule, rfl⟩)
  have hmakes : ∀ rule ∈ config.rules, makes (.delete rule) = false := fun rule hrule =>
    decide_eq_false (not_not_intro (.inl ⟨rule, hrule, rfl⟩))
  have hswitch : (if disableForwarding then (makes (.setForwarding false)).toNat else 0) = 0 := by
    cases disableForwarding <;> simp [makes]
  have hnone := counted_in_teardown config host s disableForwarding privilege asks makes
  rw [sum_of_uncounted hasks hmakes, hswitch] at hnone
  obtain ⟨hasked, hmade⟩ := Nat.add_eq_zero_iff.mp (Nat.le_zero.mp hnone)
  rw [List.countP_eq_zero] at hasked hmade
  constructor
  · intro question hquestion
    by_contra hother
    exact hasked question hquestion (decide_eq_true hother)
  · intro change hchange
    by_contra hother
    exact hmade change hchange (decide_eq_true hother)

/-- It looks for a rule once more than it may delete it. -/
theorem looks_of_teardown (rule : Rule) :
    let run := (Setup.teardown config disableForwarding privilege).run.run host s
    (questionsOf run.trace).count (.rule rule) ≤ Setup.maxRemovals + 1 := by
  intro run
  let asks : Question → Bool := (· == .rule rule)
  have hother : ∀ other, other ≠ rule → asks (.rule other) = false := by simp [asks]
  have hlimit : countedIn asks (fun _ => false) run.trace ≤ _ :=
    counted_about_rule config host s disableForwarding privilege hother (fun _ _ => rfl) rfl
  refine Nat.le_trans (Nat.le_add_right _ _) (Nat.le_trans hlimit ?_)
  simp [Rule.removalLimit, asks]

theorem deletions_of_teardown (rule : Rule) :
    let run := (Setup.teardown config disableForwarding privilege).run.run host s
    (changesOf run.trace).count (.delete rule) ≤ Setup.maxRemovals := by
  intro run
  let makes : Change → Bool := (· == .delete rule)
  have hother : ∀ other, other ≠ rule → makes (.delete other) = false := by simp [makes]
  have hlimit : countedIn (fun _ => false) makes run.trace ≤ _ :=
    counted_about_rule config host s disableForwarding privilege (fun _ _ => rfl) hother rfl
  refine Nat.le_trans (Nat.le_add_left _ _) (Nat.le_trans hlimit ?_)
  simp [Rule.removalLimit, makes]

theorem switches_of_teardown :
    let run := (Setup.teardown config disableForwarding privilege).run.run host s
    (changesOf run.trace).count (.setForwarding false) ≤ 1 := by
  intro run
  let makes : Change → Bool := (· == .setForwarding false)
  have hlimit : countedIn (fun _ => false) makes run.trace ≤ _ :=
    counted_in_teardown config host s disableForwarding privilege (fun _ => false) makes
  rw [sum_of_uncounted (fun _ _ => rfl) (fun _ _ => rfl), Nat.zero_add] at hlimit
  refine Nat.le_trans (Nat.le_add_left _ _) (Nat.le_trans hlimit ?_)
  cases disableForwarding <;> simp [makes]

end Limits

/-- The limits that a removal keeps to, given its value and its trace. -/
structure KeepsLimits (config : NatConfig) (disableForwarding : Bool)
    (value : Except SetupError Report) (trace : List Occurrence) : Prop where
  /-- Only the rules of the configuration are looked for, and nothing else is asked. -/
  asks : ∀ question ∈ questionsOf trace, ∃ rule ∈ config.rules, question = .rule rule
  looks : ∀ rule, (questionsOf trace).count (.rule rule) ≤ 65
  /-- Only these rules are deleted. Nothing is appended, and forwarding is not switched on. -/
  changes : ∀ change ∈ changesOf trace, (∃ rule ∈ config.rules, change = .delete rule) ∨
    disableForwarding = true ∧ change = .setForwarding false
  deletions : ∀ rule, (changesOf trace).count (.delete rule) ≤ 64
  switches : (changesOf trace).count (.setForwarding false) ≤ 1
  /-- The report of a removal that comes to its end counts the deletions, and all of them are
  done. -/
  reports : ∀ report, value = .ok report → report.map (·.1) = Step.removing ∧
    ∀ step outcome rule, (step, outcome) ∈ report → step.rule config = some rule →
      let deletions := (changesOf trace).count (.delete rule)
      outcome = (if deletions = 0 then .notPresent else .removed deletions) ∧
        ∀ reply, .made (.delete rule) reply ∈ trace → reply = .ok ()

/-- **A removal ends and keeps its limits**, on every host: whatever the host answers to each call,
and whatever that depends on. The loop over the copies of a rule, which has no end but by the host's
answer and by the test of the count, ends in exactly one way: as the removal of copies does. -/
theorem removal_keeps_limits (host : Host σ) (s : σ) (config : NatConfig)
    (disableForwarding : Bool) (privilege : Privilege) :
    let run := (Setup.teardown config disableForwarding privilege).run.run host s
    (∀ step rule s v s' t, RemovalLoop host step rule 0 s v s' t ↔
      (Setup.removeCopies step rule Setup.maxRemovals 0).run.run host s = ⟨v, s', t⟩) ∧
    KeepsLimits config disableForwarding run.value run.trace := by
  intro run
  refine ⟨fun step rule s v s' t => removal_loop_iff (Nat.zero_add _), ?_⟩
  obtain ⟨hasks, hchanges⟩ := calls_of_teardown config host s disableForwarding privilege
  have hended : (Procedure.teardown disableForwarding).Ended config run.value run.trace :=
    (Procedure.teardown disableForwarding).ends config privilege
  have htook : AllTookAway config Step.removing run.trace :=
    ends_teardown host s config disableForwarding privilege
  constructor
  · exact hasks
  · exact looks_of_teardown config host s disableForwarding privilege
  · exact hchanges
  · exact deletions_of_teardown config host s disableForwarding privilege
  · exact switches_of_teardown config host s disableForwarding privilege
  · intro report hreport
    rw [hreport] at hended
    cases hended with
    | finished hcheck hfin hsteps =>
        refine ⟨hsteps, ?_⟩
        intro step outcome rule hmem hrule
        rw [← hfin] at hmem
        -- the calls about the rule all stand before the step is finished, and tell its outcome
        obtain ⟨before, after, hsplit⟩ := List.append_of_mem (mem_of_finished hmem)
        obtain ⟨-, hcalls, hnone⟩ := htook before after step outcome rule hsplit hrule
        have hall : callsAbout rule run.trace = callsAbout rule before := by
          have hbehind : callsAbout rule (.noted (.stepFinished step outcome) :: after) = [] :=
            hnone
          rw [hsplit, calls_about_append, hbehind, List.append_nil]
        rw [← hall] at hcalls
        exact hcalls.outcome_eq

/-- A host that finds and deletes the rules again and again makes a removal reach the limits. -/
example :
    let stubborn : Host Unit :=
      ⟨fun _ _ => ⟨.ok true, (), [], Event.own_nil⟩, fun _ _ => ⟨.ok (), (), [], Event.own_nil⟩⟩
    let run := (Setup.teardown {} true .elevated).run.run stubborn ()
    run.value = .ok [(.removeMasquerade, .removed 64), (.removeAcceptFromTap, .removed 64),
      (.removeAcceptToTap, .removed 64), (.disableForwarding, .applied)] ∧
      (callsOf run.trace).length = 3 * (65 + 64) + 1 := by
  decide +kernel

end GuestNat
