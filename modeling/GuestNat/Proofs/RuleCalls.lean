import GuestNat.Proofs.Agreement
import GuestNat.Proofs.Footprint

/-!
# The rules that calls are about

A run with a configuration asks about, appends and deletes the rules of this configuration and no
other ones, on every host; and a command that succeeds has made a call about each of them.

* `rulesOf`: the rules that the calls of a trace are about;
* `Plan.Within.rules`: a plan whose calls stay within some rules;
* `Plan.Consults`: a plan that makes a call about a rule on every way to a success;
* `rules_of_execute`, `rules_of_success`: both laws for commands.
-/

namespace GuestNat

variable {α β σ : Type}

/-- The rule that a question is about. -/
def Question.rule? : Question → Option Rule
  | rule r => some r
  | forwarding | interface _ => none

/-- The rule that a call is about. -/
def Occurrence.rule? : Occurrence → Option Rule
  | noted _ => none
  | asked question _ => question.rule?
  | made change _ => change.rule?

/-- The rules that the calls of a trace are about. -/
def rulesOf (trace : List Occurrence) : List Rule := trace.filterMap (·.rule?)

/-- What a host reports of a call is about no rule. -/
theorem rules_of_call {ρ : Type} (r : Response σ ρ) (call : Occurrence) (t : List Occurrence) :
    rulesOf (r.events.map .noted ++ [call] ++ t) = call.rule?.toList ++ rulesOf t := by
  have hevents : (r.events.map Occurrence.noted).filterMap (·.rule?) = [] := by
    rw [List.filterMap_eq_nil_iff]
    intro o ho
    obtain ⟨event, -, rfl⟩ := List.mem_map.mp ho
    rfl
  unfold rulesOf
  rw [List.filterMap_append, List.filterMap_append, hevents]
  cases hrule : call.rule? <;> simp [hrule]

section Run

variable {host : Host σ} {s : σ}

theorem rules_of_ask (question : Question) (next : Reply Bool → Plan α) :
    let r := host.ask question s
    rulesOf ((Plan.ask question next).run host s).trace =
      question.rule?.toList ++ rulesOf ((next r.reply).run host r.state).trace :=
  rules_of_call (host.ask question s) (.asked question _) _

theorem rules_of_make (change : Change) (next : Reply Unit → Plan α) :
    let r := host.make change s
    rulesOf ((Plan.make change next).run host s).trace =
      change.rule?.toList ++ rulesOf ((next r.reply).run host r.state).trace :=
  rules_of_call (host.make change s) (.made change _) _

end Run

/-- A change that was made was a call about its rule. -/
theorem mem_rules_of_made {t : List Occurrence} {change : Change} {rule : Rule}
    (h : change ∈ madeIn t) (hrule : change.rule? = some rule) : rule ∈ rulesOf t := by
  obtain ⟨o, ho, hmade⟩ := List.mem_filterMap.mp h
  refine List.mem_filterMap.mpr ⟨o, ho, ?_⟩
  cases o with
  | noted event => cases hmade
  | asked question reply => cases hmade
  | made asked reply =>
      cases reply with
      | error e => cases hmade
      | ok _ =>
          obtain rfl := Option.some.inj hmade
          exact hrule

/-! ## No other rules -/

/-- The change is about one of the rules, if about any. -/
def Change.Among (rules : List Rule) (change : Change) : Prop :=
  ∀ rule, change.rule? = some rule → rule ∈ rules

/-- The calls of a plan that stays within some rules are about these, by induction on the plan. -/
theorem Plan.Within.rules {rules : List Rule} {asks : Question → Prop} {plan : Plan α}
    (h : plan.Within asks (Change.Among rules)) (hasks : ∀ rule, asks (.rule rule) → rule ∈ rules)
    (host : Host σ) (s : σ) : ∀ rule ∈ rulesOf (plan.run host s).trace, rule ∈ rules := by
  induction plan generalizing s with
  | done a => exact List.forall_mem_nil _
  | note event next ih => exact ih h s
  | ask question next ih =>
      rw [rules_of_ask]
      refine List.forall_mem_append.mpr ⟨?_, ih _ (h.2 _) _⟩
      intro rule hrule
      -- only the question about a rule names one
      cases question with
      | rule asked =>
          obtain rfl := List.mem_singleton.mp hrule
          exact hasks rule h.1
      | forwarding => cases hrule
      | interface name => cases hrule
  | make change next ih =>
      rw [rules_of_make]
      refine List.forall_mem_append.mpr ⟨?_, ih _ (h.2 _) _⟩
      exact fun rule hrule => h.1 rule (Option.mem_toList.mp hrule)

section Commands

variable {host : Host σ} {s : σ} {command : Command} {config : NatConfig} {rule : Rule}

/-- A command makes no call about a rule of another configuration. -/
theorem within_rules_of_execute (privilege : Privilege) (command : Command) (config : NatConfig) :
    (Program.execute privilege command config).run.Within config.Asks
      (Change.Among config.rules) := by
  cases hprocedure : command.procedure? with
  | none =>
      obtain rfl := Command.procedure_eq_none_iff.mp hprocedure
      -- a look makes no change at all
      rw [run_of_look]
      exact Plan.within_map _ within_probe
  | some procedure =>
      obtain ⟨context, hexecute⟩ := run_of_procedure hprocedure config privilege
      rw [hexecute]
      refine Plan.within_map _ ?_
      exact (procedure.within_setup config privilege).mono (fun _ h => h.asks)
        fun _ h _ hrule => h.rule_mem hrule

theorem rules_of_execute (privilege : Privilege) (command : Command) (config : NatConfig) :
    ∀ rule ∈ rulesOf ((Program.execute privilege command config).run.run host s).trace,
      rule ∈ config.rules :=
  (within_rules_of_execute privilege command config).rules (fun _ h => h) host s

end Commands

/-! ## Each of the rules -/

/-- Whatever the replies are, a plan that comes to a good value has made a call about the rule. -/
def Plan.Consults (rule : Rule) (Good : α → Prop) : Plan α → Prop
  | done value => ¬Good value
  | note _ next => next.Consults rule Good
  | ask question next => question.rule? = some rule ∨ ∀ reply, (next reply).Consults rule Good
  | make change next => change.rule? = some rule ∨ ∀ reply, (next reply).Consults rule Good

section Consults

variable {rule : Rule} {Good : α → Prop} {Good' : β → Prop} {ε : Type}

/-- The trace of a run shows the call, by induction on the plan. -/
theorem Plan.Consults.rule_mem {plan : Plan α} (h : plan.Consults rule Good) (host : Host σ) (s : σ)
    (hgood : Good (plan.run host s).value) : rule ∈ rulesOf (plan.run host s).trace := by
  induction plan generalizing s with
  | done a => exact absurd hgood h
  | note event next ih => exact ih h s hgood
  | ask question next ih =>
      rw [rules_of_ask]
      -- the rule is asked about here, or behind every reply
      rcases h with hrule | hnext
      · exact List.mem_append_left _ (Option.mem_toList.mpr hrule)
      · exact List.mem_append_right _ (ih _ (hnext _) _ hgood)
  | make change next ih =>
      rw [rules_of_make]
      rcases h with hrule | hnext
      · exact List.mem_append_left _ (Option.mem_toList.mpr hrule)
      · exact List.mem_append_right _ (ih _ (hnext _) _ hgood)

/-- A plan that goes on consults a rule if its first part does, or else the rest. -/
theorem Plan.consults_bind {plan : Plan α} {f : α → Plan β} (hplan : plan.Consults rule Good)
    (hf : ∀ a, ¬Good a → (f a).Consults rule Good') : (plan >>= f).Consults rule Good' := by
  change (plan.bind f).Consults rule Good'
  induction plan with
  | done a => exact hf a hplan
  | note event next ih => exact ih hplan
  | ask question next ih => exact hplan.imp_right fun hnext reply => ih reply (hnext reply)
  | make change next ih => exact hplan.imp_right fun hnext reply => ih reply (hnext reply)

/-- No plan comes to a good value where none is good. -/
theorem Plan.consults_of_none_good (plan : Plan α) : plan.Consults rule fun _ => False := by
  induction plan with
  | done a => exact not_false
  | note event next ih => exact ih
  | ask question next ih => exact .inr ih
  | make change next ih => exact .inr ih

/-- It is enough that the rest consults the rule. -/
theorem Plan.consults_bind_right {plan : Plan α} {f : α → Plan β}
    (hf : ∀ a, (f a).Consults rule Good') : (plan >>= f).Consults rule Good' :=
  consults_bind plan.consults_of_none_good fun a _ => hf a

/-- It is enough that the first part does, whatever its value. -/
theorem Plan.consults_bind_left {plan : Plan α} {f : α → Plan β}
    (hplan : plan.Consults rule fun _ => True) : (plan >>= f).Consults rule Good' :=
  consults_bind hplan fun _ hgood => absurd trivial hgood

/-- A value that is only handed on is good if it was before. -/
theorem Plan.consults_map {plan : Plan α} {f : α → β} (h : plan.Consults rule Good)
    (hgood : ∀ a, Good' (f a) → Good a) : (f <$> plan).Consults rule Good' := by
  rw [← bind_pure_comp]
  exact consults_bind h fun a ha hbad => ha (hgood a hbad)

section Except

variable {x : ExceptT ε Plan α} {f : α → ExceptT ε Plan β}

/-- Where only a success is good, it is enough that the first part consults the rule. -/
theorem consults_first (hx : x.run.Consults rule (·.isOk)) :
    (x >>= f).run.Consults rule (·.isOk) := by
  rw [ExceptT.run_bind]
  refine Plan.consults_bind hx ?_
  intro v hv
  cases v with
  | ok a => exact absurd rfl hv
  | error e => exact Bool.false_ne_true

/-- And it is enough that the rest does. -/
theorem consults_rest (hf : ∀ a, (f a).run.Consults rule (·.isOk)) :
    (x >>= f).run.Consults rule (·.isOk) := by
  rw [ExceptT.run_bind]
  refine Plan.consults_bind_right ?_
  intro v
  cases v with
  | ok a => exact hf a
  | error e => exact Bool.false_ne_true

end Except

end Consults

section Procedures

variable {config : NatConfig} {step : Step} {rule : Rule}

theorem consults_ask (step : Step) (rule : Rule) :
    (Setup.ask step (.rule rule)).run.Consults rule (·.isOk) :=
  .inl rfl

/-- A rule that is looked for is asked about, and one that is not is appended. -/
theorem consults_add_rule (options : ApplyOptions) (step : Step) (rule : Rule) :
    (Setup.addRule options step rule).run.Consults rule (·.isOk) := by
  unfold Setup.addRule Setup.isInstalled
  cases options.idempotent with
  | true => exact consults_first (consults_ask step rule)
  | false => exact consults_first (x := Setup.make step (.append rule)) (.inl rfl)

theorem consults_remove_copies (step : Step) (rule : Rule) (budget removed : Nat) :
    (Setup.removeCopies step rule budget removed).run.Consults rule (·.isOk) := by
  cases budget <;> exact consults_first (consults_ask step rule)

theorem Procedure.consults_act (procedure : Procedure) (privilege : Privilege)
    (hrule : step.rule config = some rule) :
    (procedure.act config privilege step).run.Consults rule (·.isOk) := by
  cases procedure with
  | apply options =>
      unfold act Setup.applyStep
      refine consults_rest ?_
      intro _
      -- whatever is asked before, the step gets through only by its own rule
      rw [hrule]
      exact consults_rest fun _ => consults_add_rule options step rule
  | teardown disableForwarding =>
      unfold act Setup.teardownStep
      refine consults_rest ?_
      intro _
      rw [hrule]
      exact consults_first (consults_remove_copies step rule Setup.maxRemovals 0)

/-- Steps in turn consult the rule of each of them, by induction on the steps. -/
theorem consults_perform {act : Step → Setup StepOutcome} {steps : List Step}
    (hstep : step ∈ steps) (hact : (act step).run.Consults rule (·.isOk)) :
    (Setup.perform act steps).run.Consults rule (·.isOk) := by
  induction steps with
  | nil => exact absurd hstep List.not_mem_nil
  | cons first steps ih =>
      unfold Setup.perform
      rcases List.mem_cons.mp hstep with rfl | hmem
      · exact consults_first hact
      · exact consults_rest fun _ => consults_rest fun _ => consults_first (ih hmem)

/-- A procedure consults every rule of its configuration. -/
theorem Procedure.consults_setup (procedure : Procedure) (privilege : Privilege)
    (hrule : rule ∈ config.rules) :
    (procedure.setup config privilege).run.Consults rule (·.isOk) := by
  obtain ⟨step, hstep, hown⟩ : ∃ step ∈ procedure.steps, step.rule config = some rule := by
    rw [← List.mem_filterMap]
    cases procedure with
    | apply options => exact hrule
    | teardown disableForwarding =>
        change rule ∈ Step.removing.filterMap (·.rule config)
        rw [config.removing_rules]
        exact List.mem_reverse.mpr hrule
  rw [procedure.setup_eq]
  exact consults_rest fun _ => consults_rest fun _ =>
    consults_perform hstep (procedure.consults_act privilege hown)

/-- A look asks about every rule, whatever the host replies. -/
theorem consults_probe (hrule : rule ∈ config.rules) :
    (Status.probe config).Consults rule fun _ => True := by
  have hrules : ∀ steps : List Step, rule ∈ steps.filterMap (·.rule config) →
      (Status.lookAtRules config steps).Consults rule fun _ => True := by
    intro steps hmem
    induction steps with
    | nil => exact absurd hmem List.not_mem_nil
    | cons step steps ih =>
        unfold Status.lookAtRules
        cases hown : step.rule config with
        | none =>
            rw [List.filterMap_cons_none hown] at hmem
            exact ih hmem
        | some own =>
            rw [List.filterMap_cons_some hown] at hmem
            -- this step asks about its own rule, and whatever the reply is, the others follow
            rcases List.mem_cons.mp hmem with rfl | hmem
            · exact Plan.consults_bind_left (.inl rfl)
            · exact Plan.consults_bind_right fun _ => Plan.consults_bind_left (ih hmem)
  unfold Status.probe
  exact Plan.consults_bind_right fun _ => Plan.consults_bind_right fun _ =>
    Plan.consults_bind_left (hrules Step.applying hrule)

end Procedures

/-! ## Commands -/

section Commands

variable {host : Host σ} {s : σ} {config : NatConfig} {rule : Rule}

theorem consults_execute (privilege : Privilege) (command : Command) (hrule : rule ∈ config.rules) :
    (Program.execute privilege command config).run.Consults rule (·.result.isOk) := by
  cases hprocedure : command.procedure? with
  | none =>
      obtain rfl := Command.procedure_eq_none_iff.mp hprocedure
      rw [run_of_look]
      exact Plan.consults_map (consults_probe hrule) fun _ _ => trivial
  | some procedure =>
      obtain ⟨context, hexecute⟩ := run_of_procedure hprocedure config privilege
      rw [hexecute]
      refine Plan.consults_map (procedure.consults_setup privilege hrule) ?_
      -- a context around an error does not make a success of it
      intro v hv
      cases v with
      | ok report => rfl
      | error e => exact absurd hv Bool.false_ne_true

/-- A command that succeeds has made a call about each rule of its configuration and about no other
one. -/
theorem rules_of_success (privilege : Privilege) (command : Command) :
    let run := (Program.execute privilege command config).run.run host s
    run.value.result.isOk → (rule ∈ rulesOf run.trace ↔ rule ∈ config.rules) := by
  intro run hok
  exact ⟨rules_of_execute privilege command config rule,
    fun hrule => (consults_execute privilege command hrule).rule_mem host s hok⟩

end Commands

end GuestNat
