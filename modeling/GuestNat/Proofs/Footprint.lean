import GuestNat.Proofs.Independence
import GuestNat.Proofs.Lockstep

/-!
# What procedures and looks may call

Whatever a host replies, the calls of a procedure stay within the configuration that it is about:

* `NatConfig.Asks`: the questions about a configuration, `NatConfig.Inspects`: those of them that
  are not about forwarding, which only a look asks for;
* `Procedure.Makes`: the changes that a procedure may ask for;
* `Procedure.within_setup`, `within_probe`: a procedure and a look keep to these.

Nothing is said here about when a call is made, nor whether it succeeds.
-/

namespace GuestNat

variable {α : Type}

/-- What stays within some calls stays within more of them. -/
theorem Plan.Within.mono {asks asks' : Question → Prop} {makes makes' : Change → Prop}
    {plan : Plan α} (h : plan.Within asks makes)
    (hasks : ∀ question, asks question → asks' question)
    (hmakes : ∀ change, makes change → makes' change) : plan.Within asks' makes' := by
  induction plan with
  | done a => trivial
  | note event next ih => exact ih h
  | ask question next ih => exact ⟨hasks question h.1, fun reply => ih reply (h.2 reply)⟩
  | make change next ih => exact ⟨hmakes change h.1, fun reply => ih reply (h.2 reply)⟩

namespace NatConfig

/-- The questions about a configuration. -/
def Asks (config : NatConfig) : Question → Prop
  | .forwarding => True
  | .interface name => name ∈ [config.tap, config.uplink]
  | .rule rule => rule ∈ config.rules

/-- The questions about the interfaces and the rules of a configuration. -/
def Inspects (config : NatConfig) : Question → Prop
  | .forwarding => False
  | .interface name => name ∈ [config.tap, config.uplink]
  | .rule rule => rule ∈ config.rules

theorem Inspects.asks {config : NatConfig} {question : Question} (h : config.Inspects question) :
    config.Asks question := by
  cases question with
  | forwarding => trivial
  | interface name => exact h
  | rule rule => exact h

end NatConfig

/-- The changes that a procedure may ask for. Applying adds, removing takes away, and forwarding is
only switched off when removing is told to. -/
def Procedure.Makes (config : NatConfig) : Procedure → Change → Prop
  | apply _, .setForwarding on => on = true
  | apply _, .append rule => rule ∈ config.rules
  | apply _, .delete _ => False
  | teardown disableForwarding, .setForwarding on => disableForwarding = true ∧ on = false
  | teardown _, .append _ => False
  | teardown _, .delete rule => rule ∈ config.rules

variable {config : NatConfig} {step : Step} {rule : Rule}

/-- The changes are about rules of the configuration, if about any. -/
theorem Procedure.Makes.rule_mem {procedure : Procedure} {change : Change}
    (h : procedure.Makes config change) (hrule : change.rule? = some rule) :
    rule ∈ config.rules := by
  cases change with
  | setForwarding on => cases hrule
  | append other =>
      obtain rfl := Option.some.inj hrule
      cases procedure with
      | apply options => exact h
      | teardown disableForwarding => exact absurd h not_false
  | delete other =>
      obtain rfl := Option.some.inj hrule
      cases procedure with
      | apply options => exact absurd h not_false
      | teardown disableForwarding => exact h

/-- The rule of a step of applying is one of the configuration. -/
theorem mem_rules_of_step (hstep : step ∈ Step.applying) (hrule : step.rule config = some rule) :
    rule ∈ config.rules :=
  List.mem_filterMap.mpr ⟨step, hstep, hrule⟩

/-- So is that of a step of any procedure. -/
theorem Procedure.mem_rules (procedure : Procedure) (hstep : step ∈ procedure.steps)
    (hrule : step.rule config = some rule) : rule ∈ config.rules := by
  cases procedure with
  | apply options => exact mem_rules_of_step hstep hrule
  | teardown disableForwarding =>
      rw [← List.mem_reverse, ← config.removing_rules]
      exact List.mem_filterMap.mpr ⟨step, hstep, hrule⟩

/-! ## Procedures -/

section Procedure

variable {asks : Question → Prop} {makes : Change → Prop}

theorem within_add_rule (options : ApplyOptions) (hask : asks (.rule rule))
    (hmake : makes (.append rule)) :
    (Setup.addRule options step rule).run.Within asks makes := by
  unfold Setup.addRule Setup.isInstalled
  refine Plan.within_except_bind ?_ ?_
  · split
    · exact within_ask hask
    · exact within_setup_pure false
  · intro found
    cases found with
    | true => exact Plan.within_except_bind (within_note _) fun _ => trivial
    | false => exact Plan.within_except_bind (within_make hmake) fun _ => trivial

theorem within_remove_copies (hask : asks (.rule rule)) (hmake : makes (.delete rule))
    (budget removed : Nat) :
    (Setup.removeCopies step rule budget removed).run.Within asks makes := by
  induction budget generalizing removed with
  -- the calls are the same in the last round, but for the deletion
  | zero =>
      unfold Setup.removeCopies
      refine Plan.within_except_bind (within_ask hask) ?_
      intro found
      cases found with
      | true => exact Plan.within_except_bind (within_note _) fun _ => trivial
      | false => exact within_setup_pure removed
  | succ budget ih =>
      unfold Setup.removeCopies
      refine Plan.within_except_bind (within_ask hask) ?_
      intro found
      cases found with
      | true => exact Plan.within_except_bind (within_make hmake) fun _ => ih (removed + 1)
      | false => exact within_setup_pure removed

/-- A step keeps to the calls of its procedure. -/
theorem Procedure.within_act (procedure : Procedure) (privilege : Privilege)
    (hstep : step ∈ procedure.steps) :
    (procedure.act config privilege step).run.Within config.Inspects (procedure.Makes config) := by
  have hmem : ∀ rule, step.rule config = some rule → rule ∈ config.rules :=
    fun _ => procedure.mem_rules hstep
  cases procedure with
  | apply options =>
      unfold Procedure.act Setup.applyStep
      refine Plan.within_except_bind (within_privilege privilege) ?_
      intro _
      cases hrule : step.rule config with
      | none => exact Plan.within_except_bind (within_make rfl) fun _ => trivial
      -- the step's interfaces first, then its rule
      | some rule =>
          refine Plan.within_except_bind (within_interfaces ?_) ?_
          · intro name hname
            exact Step.interfaces_subset (ApplyOptions.verified hname).2
          · intro _
            exact within_add_rule options (hmem rule hrule) (hmem rule hrule)
  | teardown disableForwarding =>
      unfold Procedure.act Setup.teardownStep
      refine Plan.within_except_bind (within_privilege privilege) ?_
      intro _
      cases hrule : step.rule config with
      | none =>
          cases disableForwarding with
          | true => exact Plan.within_except_bind (within_make ⟨rfl, rfl⟩) fun _ => trivial
          | false => exact within_setup_pure StepOutcome.skipped
      | some rule =>
          have hrule' := hmem rule hrule
          exact Plan.within_except_bind
            (within_remove_copies hrule' hrule' Setup.maxRemovals 0) fun _ => trivial

/-- A procedure keeps to its calls, with any configuration and any privilege. -/
theorem Procedure.within_setup (procedure : Procedure) (config : NatConfig)
    (privilege : Privilege) :
    (procedure.setup config privilege).run.Within config.Inspects (procedure.Makes config) := by
  rw [procedure.setup_eq]
  refine Plan.within_except_bind ?_ ?_
  · unfold Setup.checkConfig
    exact trivial
  · intro _
    refine Plan.within_except_bind (within_note _) ?_
    intro _
    exact within_perform fun step hstep => procedure.within_act privilege hstep

end Procedure

/-! ## Looks -/

section Looks

variable {makes : Change → Prop}

theorem within_look {question : Question} (subject : String) (h : config.Asks question) :
    (Status.look subject question).Within config.Asks makes := by
  refine ⟨h, ?_⟩
  intro reply
  cases reply <;> exact trivial

theorem within_look_at_interfaces {names : List String}
    (h : ∀ name ∈ names, name ∈ [config.tap, config.uplink]) :
    (Status.lookAtInterfaces names).Within config.Asks makes := by
  induction names with
  | nil => exact Plan.within_pure []
  | cons name names ih =>
      unfold Status.lookAtInterfaces
      refine Plan.within_bind (within_look name (h name List.mem_cons_self)) ?_
      intro probe
      have hrest := ih fun n hn => h n (List.mem_cons_of_mem name hn)
      exact Plan.within_bind hrest fun others => Plan.within_pure _

theorem within_look_at_rules {steps : List Step} (h : ∀ step ∈ steps, step ∈ Step.applying) :
    (Status.lookAtRules config steps).Within config.Asks makes := by
  induction steps with
  | nil => exact Plan.within_pure []
  | cons step steps ih =>
      have hrest := ih fun later hlater => h later (List.mem_cons_of_mem step hlater)
      unfold Status.lookAtRules
      -- forwarding is looked at elsewhere; only steps with a rule are looked at here
      cases hrule : step.rule config with
      | none => exact hrest
      | some rule =>
          have hmem : rule ∈ config.rules :=
            mem_rules_of_step (h step List.mem_cons_self) hrule
          refine Plan.within_bind (within_look rule.text hmem) ?_
          intro probe
          exact Plan.within_bind hrest fun others => Plan.within_pure _

/-- A look asks for nothing but what it is about, and changes nothing. -/
theorem within_probe : (Status.probe config).Within config.Asks makes := by
  unfold Status.probe
  refine Plan.within_bind (within_look "ip_forward" trivial) ?_
  intro forwarding
  refine Plan.within_bind (within_look_at_interfaces fun _ h => h) ?_
  intro interfaces
  exact Plan.within_bind (within_look_at_rules fun _ h => h) fun rules => Plan.within_pure _

end Looks

end GuestNat
