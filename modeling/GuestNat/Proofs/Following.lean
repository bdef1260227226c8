import GuestNat.Proofs.Completion
import GuestNat.Proofs.FailFast
import GuestNat.Proofs.Sessions

/-!
# Runs without refused changes

Hosts may differ in what they say when they refuse a change. That does not show in runs in which no
change is refused, and on a host in memory that refuses nothing for lack of permission these are the
runs of all operations: a rule is only deleted once it has been found.

* `Follows`: a host makes the changes that another one makes, and answers as it does;
* `Follows.run_alike`: a plan comes to the same on both, if the other one refuses no change;
* `Operation.unrefused`, `Operation.unrefused_in_turn`: on an open host in memory no operation meets
  a refusal, and no session does.
-/

namespace GuestNat

variable {α σ τ : Type}

/-- No change was refused. -/
def Unrefused (trace : List Occurrence) : Prop := ∀ change e, .made change (.error e) ∉ trace

section Traces

variable {t u : List Occurrence}

theorem unrefused_append : Unrefused (t ++ u) ↔ Unrefused t ∧ Unrefused u := by
  unfold Unrefused
  constructor
  · intro h
    exact ⟨fun change e hmem => h change e (List.mem_append_left u hmem),
      fun change e hmem => h change e (List.mem_append_right t hmem)⟩
  · rintro ⟨ht, hu⟩ change e hmem
    rcases List.mem_append.mp hmem with hmem | hmem
    · exact ht change e hmem
    · exact hu change e hmem

/-- A run without a call to stop behind has none that is refused. -/
theorem Smooth.unrefused (h : Smooth t) : Unrefused t := by
  intro change e hmem
  cases h _ hmem

theorem unrefused_of_no_calls (h : callsOf t = []) : Unrefused t := by
  intro change e hmem
  have hcall : .made change (.error e) ∈ callsOf t := List.mem_filter.mpr ⟨hmem, rfl⟩
  rw [h] at hcall
  exact absurd hcall List.not_mem_nil

end Traces

/-! ## Following another host -/

/-- From states that are alike, questions are answered alike, and the changes that the second host
makes are made by the first one. -/
structure Follows (first : Host σ) (second : Host τ) (asks : Question → Prop)
    (makes : Change → Prop) (Alike : σ → τ → Prop) : Prop where
  ask : ∀ question s t, asks question → Alike s t →
    (first.ask question s).reply = (second.ask question t).reply ∧
      Alike (first.ask question s).state (second.ask question t).state
  make : ∀ change s t, makes change → Alike s t → (second.make change t).reply = .ok () →
    (first.make change s).reply = .ok () ∧
      Alike (first.make change s).state (second.make change t).state

/-- A plan comes to the same on both hosts if the second one refuses no change, by induction on the
plan. -/
theorem Follows.run_alike {first : Host σ} {second : Host τ} {asks : Question → Prop}
    {makes : Change → Prop} {Alike : σ → τ → Prop} (h : Follows first second asks makes Alike)
    {plan : Plan α} (hplan : plan.Within asks makes) {s : σ} {t : τ} (halike : Alike s t)
    (hunrefused : Unrefused (plan.run second t).trace) :
    (plan.run first s).value = (plan.run second t).value ∧
      Alike (plan.run first s).state (plan.run second t).state := by
  induction plan generalizing s t with
  | done a => exact ⟨rfl, halike⟩
  | note event next ih =>
      exact ih hplan halike (unrefused_append.mp hunrefused).2
  | ask question next ih =>
      obtain ⟨hreply, hstate⟩ := h.ask question s t hplan.1 halike
      have hrest := (unrefused_append.mp hunrefused).2
      unfold Plan.run Run.after
      dsimp only
      rw [hreply]
      exact ih _ (hplan.2 _) hstate hrest
  | make change next ih =>
      obtain ⟨hcall, hrest⟩ := unrefused_append.mp hunrefused
      -- the change was not refused by the second host
      have hmade : (second.make change t).reply = .ok () := by
        cases hreply : (second.make change t).reply with
        | ok _ => rfl
        | error e =>
            refine absurd ?_ (hcall change e)
            rw [hreply]
            exact List.mem_append_right _ List.mem_cons_self
      obtain ⟨hreply, hstate⟩ := h.make change s t hplan.1 halike hmade
      unfold Plan.run Run.after
      dsimp only
      rw [hreply, ← hmade]
      exact ih _ (hplan.2 _) hstate hrest

/-! ## Open hosts in memory -/

section Open

variable {asks : Question → Prop} {makes : Change → Prop} {memory : Rehearsal}

/-- An open host refuses nothing but deletions, by induction on the plan: it stays open. -/
theorem unrefused_of_no_deletion {plan : Plan α} (hplan : plan.Within asks makes)
    (hmakes : ∀ change, makes change → ∀ rule, change ≠ .delete rule) (hopen : memory.Open) :
    Unrefused (plan.run Rehearsal.host memory).trace := by
  induction plan generalizing memory with
  | done a => exact fun _ _ hmem => absurd hmem List.not_mem_nil
  | note event next ih =>
      exact unrefused_append.mpr ⟨unrefused_of_no_calls rfl, ih hplan hopen⟩
  | ask question next ih =>
      refine unrefused_append.mpr ⟨?_, ih _ (hplan.2 _) hopen⟩
      intro change e hmem
      cases List.mem_singleton.mp hmem
  -- an open host refuses deletions only, and stays open behind what it accepts
  | make change next ih =>
      have haccepts : memory.Accepts change :=
        hopen.accepts fun rule hrule => absurd hrule (hmakes change hplan.1 rule)
      unfold Plan.run Run.after
      dsimp only
      rw [memory.make_of_accepts haccepts]
      refine unrefused_append.mpr ⟨?_, ih _ (hplan.2 _) (hopen.after change)⟩
      intro change' e hmem
      cases List.mem_singleton.mp hmem

/-- A procedure that comes to its end meets no refusal. -/
theorem unrefused_of_completes {procedure : Procedure} {config : NatConfig}
    (hcompletes : Completes (procedure.setup config .elevated) memory) :
    (procedure.setup config .elevated).run.Ends Rehearsal.host memory fun _ _ t => Unrefused t := by
  obtain ⟨⟨report, hreport⟩, -⟩ := hcompletes
  exact (procedure.ends_all_finished config report hreport).smooth.unrefused

/-- On an open host no operation meets a refusal: those that may delete rules are removals. -/
theorem Operation.unrefused (operation : Operation) (hopen : memory.Open) :
    Unrefused (operation.plan.run Rehearsal.host memory).trace := by
  cases operation with
  | setup procedure config privilege =>
      change (Operation.setup procedure config privilege).plan.Ends Rehearsal.host memory
        fun _ _ t => Unrefused t
      rw [Operation.plan, Plan.ends_map]
      cases procedure with
      | apply options =>
          refine unrefused_of_no_deletion (Procedure.within_setup _ config privilege) ?_ hopen
          rintro change hmakes rule rfl
          exact hmakes
      | teardown disableForwarding =>
          cases hcheck : config.check with
          | error fault =>
              refine (Procedure.ends_refused _ hcheck privilege).mono ?_
              rintro _ _ t ⟨-, rfl⟩
              exact unrefused_of_no_calls rfl
          | ok _ =>
              cases privilege with
              | elevated =>
                  -- a removal only deletes what it has found, and so it comes to its end
                  exact unrefused_of_completes (procedure_completes _ hcheck hopen trivial)
              | unprivileged =>
                  exact (Procedure.ends_denied _ hcheck).mono fun _ _ _ h =>
                    unrefused_of_no_calls h.2.1
  | look config =>
      exact unrefused_of_no_deletion (Operation.within_plan (.look config))
        (fun _ h => absurd h not_false) hopen
  | rehearsal command config =>
      exact unrefused_of_no_deletion (Operation.within_plan (.rehearsal command config))
        (fun _ h => absurd h not_false) hopen

/-- A run leaves an open host open. -/
theorem open_run (plan : Plan α) (hopen : memory.Open) :
    (plan.run Rehearsal.host memory).state.Open := by
  have hstate : (plan.run Rehearsal.host memory).state =
      memory.afterAll (madeIn (plan.run Rehearsal.host memory).trace) :=
    mirrors_rehearsal.memory_of_run plan memory
  rw [hstate]
  exact hopen.after_all _

/-- Nor does a session, by induction on its operations. -/
theorem Operation.unrefused_in_turn (operations : List Operation) (hopen : memory.Open) :
    Unrefused ((Operation.inTurn operations).run Rehearsal.host memory).trace := by
  induction operations generalizing memory with
  | nil => exact unrefused_of_no_calls rfl
  | cons operation operations ih =>
      change (Operation.inTurn (operation :: operations)).Ends Rehearsal.host memory
        fun _ _ t => Unrefused t
      rw [Operation.inTurn, Plan.ends_monad_bind]
      simp only [Plan.ends_monad_bind, Plan.ends_pure, List.append_nil]
      have hrest := ih (open_run operation.plan hopen)
      exact unrefused_append.mpr ⟨operation.unrefused hopen, hrest⟩

end Open

end GuestNat
