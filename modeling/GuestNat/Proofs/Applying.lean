import GuestNat.Proofs.Independence

/-!
# Runs of applying

What one run of applying adds to the rules, and runs one after the other, whatever becomes of each.

* `NatConfig.missing`: the rules that a run which looks for them adds;
* `effects_of_ensuring`, `effects_of_adding`: the effect of a run that looks for the rules, and of
  one that does not;
* `Setup.inTurn`: setups in turn; a failure of one does not keep the next one from its run;
* `Setup.upInTurn`: runs of applying in turn.
-/

namespace GuestNat

namespace NatConfig

variable (config : NatConfig)

/-- The rules of a configuration that are not among the rules there are, in order. -/
def missing (rules : List Rule) : List Rule := config.rules.filter (· ∉ rules)

theorem nodup_missing (rules : List Rule) : (config.missing rules).Nodup :=
  config.nodup_rules.filter _

/-- Once the first missing rules have been added, the others are missing. -/
theorem missing_append {rules added rest : List Rule}
    (h : config.missing rules = added ++ rest) : config.missing (rules ++ added) = rest := by
  have hnodup : (added ++ rest).Nodup := h ▸ config.nodup_missing rules
  -- the rules already added are distinct from the rest: filtering them out again loses nothing
  have hdisjoint := (List.nodup_append.mp hnodup).2.2
  have hfilter : config.missing (rules ++ added) = (added ++ rest).filter (· ∉ added) := by
    rw [← h]
    unfold missing
    rw [List.filter_filter]
    refine List.filter_congr ?_
    intro rule _
    simp [Bool.and_comm]
  rw [hfilter, List.filter_append]
  have hadded : added.filter (· ∉ added) = [] := by simp
  have hrest : rest.filter (· ∉ added) = rest := by
    rw [List.filter_eq_self]
    intro rule hrule
    have hnot : rule ∉ added := fun hmem => hdisjoint rule hmem rule hrule rfl
    exact decide_eq_true hnot
  rw [hadded, hrest, List.nil_append]

/-- A rule of the configuration is there at least once when the missing ones have been added, and
copies that were there before stay. -/
theorem count_append_missing {rules : List Rule} {rule : Rule} (hrule : rule ∈ config.rules) :
    (rules ++ config.missing rules).count rule = max (rules.count rule) 1 := by
  rw [List.count_append]
  by_cases hmem : rule ∈ rules
  · have hnone : rule ∉ config.missing rules := by
      intro h
      exact of_decide_eq_true (List.mem_filter.mp h).2 hmem
    have hpos : 0 < rules.count rule := List.count_pos_iff.mpr hmem
    rw [List.count_eq_zero_of_not_mem hnone]
    omega
  · have hmissing : rule ∈ config.missing rules :=
      List.mem_filter.mpr ⟨hrule, decide_eq_true hmem⟩
    rw [List.count_eq_zero_of_not_mem hmem,
      List.count_eq_one_of_mem (config.nodup_missing rules) hmissing]
    omega

end NatConfig

/-! ## The effect of one run -/

namespace Procedure

variable (config : NatConfig) (options : ApplyOptions) (memory : Rehearsal)

/-- A run that looks for the rules adds the missing ones. -/
theorem effects_of_ensuring (hidempotent : options.idempotent = true) :
    (apply options).effects config memory Step.applying =
      .setForwarding true :: (config.missing memory.rules).map .append := by
  have hsteps : (apply options).effects config memory Step.applying =
      Step.applying.flatMap ((apply options).effect config memory) :=
    (apply options).effects_of_steps config memory
  rw [hsteps]
  -- the steps look at the rules one by one and `missing` filters them: the same additions
  have hrules : ∀ rules : List Rule,
      (rules.flatMap fun rule => if rule ∈ memory.rules then [] else [Change.append rule]) =
        (rules.filter (· ∉ memory.rules)).map .append := by
    intro rules
    induction rules with
    | nil => rfl
    | cons rule rules ih =>
        rw [List.flatMap_cons, ih]
        by_cases hmem : rule ∈ memory.rules <;> simp [hmem]
  unfold NatConfig.missing
  rw [← hrules]
  simp [Step.applying, effect, Step.rule, hidempotent, NatConfig.rules_eq]

/-- A run that does not look for the rules adds all of them. -/
theorem effects_of_adding (hidempotent : options.idempotent = false) :
    (apply options).effects config memory Step.applying =
      .setForwarding true :: config.rules.map .append := by
  simp [effects, Step.applying, effect, Step.rule, hidempotent, NatConfig.rules_eq]

end Procedure

/-- Applying what was found to be the effect of a run. -/
theorem Rehearsal.after_applying (memory : Rehearsal) (rules : List Rule) :
    (memory.afterAll (.setForwarding true :: rules.map .append)).rules = memory.rules ++ rules ∧
      (memory.afterAll (.setForwarding true :: rules.map .append)).forwarding = true := by
  constructor
  · rw [rules_after_all, List.foldl_cons, rules_after_appends]
    rfl
  · rw [forwarding_after_all, List.foldl_cons]
    change (rules.map Change.append).foldl Change.onForwarding true = true
    induction rules with
    | nil => rfl
    | cons rule rules ih => exact ih

/-! ## Runs in turn -/

variable {α σ : Type}

/-- Carries setups out one after the other and collects their values. -/
def Setup.inTurn : List (Setup α) → Plan (List (Except SetupError α))
  | [] => pure []
  | setup :: setups => do
    let value ← setup.run
    let values ← inTurn setups
    return value :: values

theorem Setup.ends_in_turn_cons {host : Host σ} {s : σ} {setup : Setup α} {setups : List (Setup α)}
    {Q : List (Except SetupError α) → σ → Prop} :
    (inTurn (setup :: setups)).Ends host s (fun values s' _ => Q values s') ↔
      setup.run.Ends host s fun value s' _ =>
        (inTurn setups).Ends host s' fun values s'' _ => Q (value :: values) s'' := by
  rw [inTurn, Plan.ends_monad_bind]
  simp only [Plan.ends_monad_bind, Plan.ends_pure]

/-- A run of applying with privilege. -/
def Setup.up (config : NatConfig) (idempotent verifyInterfaces : Bool) : Setup Report :=
  Setup.apply config { idempotent, verifyInterfaces } .elevated

/-- Such runs in turn; each of them may or may not insist on the interfaces. -/
def Setup.upInTurn (config : NatConfig) (idempotent : Bool) (verify : List Bool) :
    Plan (List (Except SetupError Report)) :=
  Setup.inTurn (verify.map (Setup.up config idempotent))

end GuestNat
