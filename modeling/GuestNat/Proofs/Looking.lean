import GuestNat.Proofs.Independence

/-!
# Looking at a host in memory

A look at a host in memory is never without an answer, finds what the host holds and leaves it as it
is.

* `ends_probe`: what a look finds;
* `Status.health_configured_iff`, `Rehearsal.health_configured_iff`: when it finds the setup in
  place.
-/

namespace GuestNat

variable {s : Rehearsal} {config : NatConfig}

/-- What there is to see of a host in memory. -/
def Rehearsal.status (host : Rehearsal) (config : NatConfig) : Status where
  forwarding := some host.forwarding
  interfaces := [config.tap, config.uplink].map fun name => (name, some (host.hasInterface name))
  rules := Step.applying.filterMap fun step =>
    (step.rule config).map fun rule => ⟨step, rule, some (host.answer (.rule rule))⟩

theorem ends_look (subject : String) (question : Question) :
    (Status.look subject question).Ends Rehearsal.host s fun v s' _ =>
      v = some (s.answer question) ∧ s' = s :=
  ⟨rfl, rfl⟩

theorem ends_look_at_interfaces (names : List String) :
    (Status.lookAtInterfaces names).Ends Rehearsal.host s fun v s' _ =>
      v = names.map (fun name => (name, some (s.hasInterface name))) ∧ s' = s := by
  induction names with
  | nil => exact ⟨rfl, rfl⟩
  | cons name names ih =>
      unfold Status.lookAtInterfaces
      rw [Plan.ends_monad_bind]
      refine (ends_look name (.interface name)).mono ?_
      rintro probe s' - ⟨rfl, rfl⟩
      rw [Plan.ends_monad_bind]
      refine ih.mono ?_
      rintro others s'' - ⟨rfl, rfl⟩
      exact Plan.ends_pure.mpr ⟨rfl, rfl⟩

theorem ends_look_at_rules (steps : List Step) :
    (Status.lookAtRules config steps).Ends Rehearsal.host s fun v s' _ =>
      v = steps.filterMap (fun step => (step.rule config).map fun rule =>
        ⟨step, rule, some (s.answer (.rule rule))⟩) ∧ s' = s := by
  induction steps with
  | nil => exact ⟨rfl, rfl⟩
  | cons step steps ih =>
      unfold Status.lookAtRules
      -- a step without a rule is passed over, as in the list
      cases hrule : step.rule config with
      | none =>
          rw [List.filterMap_cons_none (by rw [hrule]; rfl)]
          exact ih
      | some rule =>
          rw [List.filterMap_cons_some (by rw [hrule]; rfl), Plan.ends_monad_bind]
          refine (ends_look rule.text (.rule rule)).mono ?_
          rintro probe s' - ⟨rfl, rfl⟩
          rw [Plan.ends_monad_bind]
          refine ih.mono ?_
          rintro others s'' - ⟨rfl, rfl⟩
          exact Plan.ends_pure.mpr ⟨rfl, rfl⟩

theorem ends_probe (config : NatConfig) (s : Rehearsal) :
    (Status.probe config).Ends Rehearsal.host s fun v s' _ => v = s.status config ∧ s' = s := by
  unfold Status.probe
  rw [Plan.ends_monad_bind]
  refine (ends_look "ip_forward" .forwarding).mono ?_
  rintro forwarding s' - ⟨rfl, rfl⟩
  rw [Plan.ends_monad_bind]
  refine (ends_look_at_interfaces [config.tap, config.uplink]).mono ?_
  rintro interfaces s' - ⟨rfl, rfl⟩
  rw [Plan.ends_monad_bind]
  refine (ends_look_at_rules Step.applying).mono ?_
  rintro rules s' - ⟨rfl, rfl⟩
  exact Plan.ends_pure.mpr ⟨rfl, rfl⟩

/-- The rules that are looked at are those of the configuration, in order. -/
theorem Rehearsal.status_rules (host : Rehearsal) (config : NatConfig) :
    (host.status config).rules.map (fun found => (found.rule, found.present)) =
      config.rules.map fun rule => (rule, some (host.answer (.rule rule))) :=
  rfl

/-! ## Health -/

/-- Nothing is missing exactly if all rules and all interfaces are there. -/
theorem Status.shortcoming_eq_none_iff (status : Status) :
    status.shortcoming? = none ↔
      (∀ found ∈ status.rules, found.present = some true) ∧
        ∀ found ∈ status.interfaces, found.2 = some true := by
  unfold shortcoming?
  -- the interfaces are looked through only when no rule is found wanting
  cases hrule : status.rules.find? (·.present ≠ some true) with
  | none =>
      have hrules : ∀ found ∈ status.rules, found.present = some true := by
        simpa [List.find?_eq_none] using hrule
      rw [and_iff_right hrules]
      simp [List.find?_eq_none]
  | some found =>
      have hmem : found ∈ status.rules := List.mem_of_find?_eq_some hrule
      have hmissing : found.present ≠ some true := by simpa using List.find?_some hrule
      constructor
      · intro h
        obtain ⟨step, rule, present⟩ := found
        cases present <;> cases h
      · intro h
        exact absurd (h.1 found hmem) hmissing

/-- A setup is in place exactly if forwarding is on and nothing is missing. -/
theorem Status.health_configured_iff (status : Status) :
    status.health = .configured ↔ status.forwarding = some true ∧ status.shortcoming? = none := by
  unfold health
  by_cases hforwarding : status.forwarding = some true
  · rw [if_pos hforwarding]
    cases status.shortcoming? <;> simp [hforwarding]
  · rw [if_neg hforwarding]
    split <;> simp [hforwarding]

/-- Both interfaces of the configuration are there. -/
def Rehearsal.HasInterfaces (host : Rehearsal) (config : NatConfig) : Prop :=
  ∀ name ∈ [config.tap, config.uplink], host.hasInterface name

/-- A look at a host in memory finds the setup in place exactly if all of it is there. -/
theorem Rehearsal.health_configured_iff (host : Rehearsal) (config : NatConfig) :
    (host.status config).health = .configured ↔
      host.forwarding = true ∧ (∀ rule ∈ config.rules, rule ∈ host.rules) ∧
        host.HasInterfaces config := by
  rw [Status.health_configured_iff, Status.shortcoming_eq_none_iff]
  simp [Rehearsal.status, Rehearsal.HasInterfaces, NatConfig.rules_eq, Step.applying, Step.rule,
    Rehearsal.answer_rule]

/-- Without the rules a look finds nothing, or forwarding alone. -/
theorem Rehearsal.health_of_no_rules (host : Rehearsal) (config : NatConfig)
    (h : ∀ rule ∈ config.rules, rule ∉ host.rules) :
    (host.status config).health =
      if host.forwarding then .partly (.ruleMissing (.acceptTo config.tap)) else .unconfigured := by
  rw [config.rules_eq] at h
  have hrules : (host.status config).rules = Step.applying.filterMap fun step =>
      (step.rule config).map fun rule => ⟨step, rule, some false⟩ := by
    simp_all [Rehearsal.status, Step.applying, Step.rule, Rehearsal.answer_rule]
  unfold Status.health Status.shortcoming?
  rw [hrules]
  cases hforwarding : host.forwarding <;>
    simp [Rehearsal.status, hforwarding, Step.applying, Step.rule]

end GuestNat
