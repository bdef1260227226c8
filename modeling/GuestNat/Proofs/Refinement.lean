import GuestNat.Proofs.Following
import GuestNat.Proofs.Machines

/-!
# Systems and memory

A session on a system that does as it is told comes to what it comes to on a host in memory that
holds the same, and leaves the two alike. So what a rehearsal or a test says of a host in memory can
be relied on.

* `Obeys.follows`: a host of such a system makes the changes that are made in memory;
* `sessions_as_in_memory`: whole sessions.
-/

namespace GuestNat

variable {σ : Type} {system : System σ} {place : Placement} {present : String → Bool}
  {Shows : σ → List Rule → Bytes → Prop}

/-- Call by call, the host of the system does as the host in memory. -/
theorem Obeys.follows (h : Obeys system place present Shows) :
    Follows (system.host place) Rehearsal.host Question.Usable Change.Usable
      (Depicts present Shows) where
  ask := fun _ _ _ hquestion hdepicts => h.ask hdepicts hquestion
  make := by
    intro change s memory hchange hdepicts hmade
    -- a change that is made in memory was accepted there
    obtain ⟨haccepts, hafter⟩ := mirrors_rehearsal.make_ok change memory hmade
    have hstate : (Rehearsal.host.make change memory).state = memory.after change := hafter
    rw [hstate]
    exact h.make hdepicts hchange haccepts

/-- The calls of an operation with a usable configuration are usable. -/
theorem Operation.within_usable (operation : Operation) (h : operation.config.Usable) :
    operation.plan.Within Question.Usable Change.Usable := by
  refine operation.within_plan.mono (fun _ => h.question) ?_
  intro change hmakes rule hrule
  exact ⟨operation.config, h, Operation.Makes.rule_mem hmakes hrule⟩

/-- **Sessions on a system and in memory come to the same.** Let a system keep rules behind its
firewall command, have a knob that can be read and written, and interfaces that stay. Any session of
applying, removing, looking and rehearsing with usable configurations, with any options and
privileges, then has the same answers as on a host in memory that holds the same rules, forwarding
and interfaces and refuses nothing, and afterwards both still hold the same. -/
theorem sessions_as_in_memory (h : Obeys system place present Shows) (operations : List Operation)
    (husable : ∀ operation ∈ operations, operation.config.Usable) (s : σ) (memory : Rehearsal)
    (hdepicts : Depicts present Shows s memory) :
    ((Operation.inTurn operations).run (system.host place) s).value =
        ((Operation.inTurn operations).run Rehearsal.host memory).value ∧
      Depicts present Shows ((Operation.inTurn operations).run (system.host place) s).state
        ((Operation.inTurn operations).run Rehearsal.host memory).state := by
  have hwithin : (Operation.inTurn operations).Within Question.Usable Change.Usable :=
    Operation.within_in_turn fun operation hmem =>
      operation.within_usable (husable operation hmem)
  exact h.follows.run_alike hwithin hdepicts
    (Operation.unrefused_in_turn operations hdepicts.is_open)

/-- A removal and an applying on a machine, with looks before and behind and a rehearsal between. -/
theorem sessions_as_in_memory_on_machine :
    let config : NatConfig := {}
    let foreign : Rule := ⟨.filter, "INPUT", ["-j", "DROP"]⟩
    let rules : List Rule := [.acceptTo config.tap, foreign, .acceptTo config.tap]
    let interfaces := [config.tap, config.uplink, "lo"]
    let operations : List Operation :=
      [.look config, .setup (.teardown true) config .elevated, .rehearsal (.up {}) config,
        .setup (.apply {}) config .unprivileged, .setup (.apply {}) config .elevated, .look config]
    let machine := Machine.standard true rules interfaces
    let memory : Rehearsal := { forwarding := true, rules, interfaces := some interfaces }
    let onMachine := (Operation.inTurn operations).run (Machine.system.host {}) machine
    let inMemory := (Operation.inTurn operations).run Rehearsal.host memory
    (∀ operation ∈ operations, operation.config.Usable) ∧
      onMachine.state.firewall.rules = (foreign :: config.rules).map Rule.text ∧
      onMachine.value = inMemory.value ∧
      Depicts interfaces.contains (Machine.Shows {} interfaces.contains) onMachine.state
        inMemory.state := by
  intro config foreign rules interfaces operations machine memory onMachine inMemory
  have hconfig : config.Usable := ⟨by decide, by decide⟩
  have husable : ∀ operation ∈ operations, operation.config.Usable := by
    simp only [operations, List.forall_mem_cons]
    exact ⟨hconfig, hconfig, hconfig, hconfig, hconfig, hconfig,
      fun _ h => absurd h List.not_mem_nil⟩
  have hdepicts : Depicts interfaces.contains (Machine.Shows {} interfaces.contains) machine
      memory := Machine.standard_depicts true (by decide) interfaces
  exact ⟨husable, by decide +kernel,
    sessions_as_in_memory (machine_obeys {} interfaces.contains) operations husable machine memory
      hdepicts⟩

end GuestNat
