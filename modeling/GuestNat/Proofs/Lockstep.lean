import GuestNat.Proofs.Endings

/-!
# Hosts in lockstep

Two hosts that give the same replies to the calls of a plan cannot be told apart by it, so the plan
comes to the same value on both.

* `Plan.Within`: whatever the replies are, all calls of a plan are among some questions and changes;
* `Lockstep`: hosts in states that are alike reply alike to these calls and stay alike;
* `Lockstep.run_alike`: so it is for whole plans.

What a host holds beyond these calls is of no consequence.
-/

namespace GuestNat

variable {α β ε σ τ : Type}

/-! ## The calls of a plan -/

namespace Plan

/-- Whatever the replies are, only these calls are made. -/
def Within (asks : Question → Prop) (makes : Change → Prop) : Plan α → Prop
  | done _ => True
  | note _ next => next.Within asks makes
  | ask question next => asks question ∧ ∀ reply, (next reply).Within asks makes
  | make change next => makes change ∧ ∀ reply, (next reply).Within asks makes

variable {asks : Question → Prop} {makes : Change → Prop}

theorem within_pure (a : α) : (pure a : Plan α).Within asks makes := trivial

theorem within_bind {plan : Plan α} {f : α → Plan β} (hplan : plan.Within asks makes)
    (hf : ∀ a, (f a).Within asks makes) : (plan >>= f).Within asks makes := by
  change (plan.bind f).Within asks makes
  induction plan with
  | done a => exact hf a
  | note event next ih => exact ih hplan
  | ask question next ih => exact ⟨hplan.1, fun reply => ih reply (hplan.2 reply)⟩
  | make change next ih => exact ⟨hplan.1, fun reply => ih reply (hplan.2 reply)⟩

theorem within_map {plan : Plan α} (f : α → β) (hplan : plan.Within asks makes) :
    (f <$> plan).Within asks makes := by
  rw [← bind_pure_comp]
  exact within_bind hplan fun a => within_pure (f a)

/-- The same for plans that may end with an error. -/
theorem within_except_bind {x : ExceptT ε Plan α} {f : α → ExceptT ε Plan β}
    (hx : x.run.Within asks makes) (hf : ∀ a, (f a).run.Within asks makes) :
    (x >>= f).run.Within asks makes := by
  rw [ExceptT.run_bind]
  refine within_bind hx ?_
  intro v
  cases v with
  | ok a => exact hf a
  | error e => exact within_pure _

end Plan

/-! ## The calls of a setup -/

section Setup

variable {asks : Question → Prop} {makes : Change → Prop} {step : Step}

theorem within_setup_pure (a : α) : (pure a : Setup α).run.Within asks makes := trivial

theorem within_note (event : Event) : (Setup.note event).run.Within asks makes := trivial

theorem within_ask {question : Question} (h : asks question) :
    (Setup.ask step question).run.Within asks makes :=
  ⟨h, fun _ => trivial⟩

theorem within_make {change : Change} (h : makes change) :
    (Setup.make step change).run.Within asks makes :=
  ⟨h, fun _ => trivial⟩

theorem within_privilege (privilege : Privilege) :
    (Setup.requirePrivilege privilege step).run.Within asks makes := by
  cases privilege <;> exact trivial

theorem within_interfaces {names : List String} (h : ∀ name ∈ names, asks (.interface name)) :
    (Setup.requireInterfaces step names).run.Within asks makes := by
  induction names with
  | nil => exact within_setup_pure ()
  | cons name names ih =>
      unfold Setup.requireInterfaces
      refine Plan.within_except_bind (within_ask (h name List.mem_cons_self)) ?_
      intro found
      cases found with
      | true => exact ih fun n hn => h n (List.mem_cons_of_mem name hn)
      | false => exact Plan.within_except_bind (within_note _) fun _ => trivial

theorem within_perform {act : Step → Setup StepOutcome} {steps : List Step}
    (h : ∀ step ∈ steps, (act step).run.Within asks makes) :
    (Setup.perform act steps).run.Within asks makes := by
  induction steps with
  | nil => exact within_setup_pure []
  | cons step steps ih =>
      unfold Setup.perform
      refine Plan.within_except_bind (h step List.mem_cons_self) ?_
      intro outcome
      refine Plan.within_except_bind (within_note _) ?_
      intro _
      have hrest := ih fun later hlater => h later (List.mem_cons_of_mem step hlater)
      exact Plan.within_except_bind hrest fun _ => trivial

end Setup

/-! ## Two hosts -/

/-- States that are alike give the same replies to these calls, and stay alike. -/
structure Lockstep (first : Host σ) (second : Host τ) (asks : Question → Prop)
    (makes : Change → Prop) (Alike : σ → τ → Prop) : Prop where
  ask : ∀ question s t, asks question → Alike s t →
    (first.ask question s).reply = (second.ask question t).reply ∧
      Alike (first.ask question s).state (second.ask question t).state
  make : ∀ change s t, makes change → Alike s t →
    (first.make change s).reply = (second.make change t).reply ∧
      Alike (first.make change s).state (second.make change t).state

/-- A plan comes to the same value from states that are alike, by induction on the plan: what is
asked or made next depends on the replies only. -/
theorem Lockstep.run_alike {first : Host σ} {second : Host τ} {asks : Question → Prop}
    {makes : Change → Prop} {Alike : σ → τ → Prop} (h : Lockstep first second asks makes Alike)
    {plan : Plan α} (hplan : plan.Within asks makes) {s : σ} {t : τ} (halike : Alike s t) :
    (plan.run first s).value = (plan.run second t).value ∧
      Alike (plan.run first s).state (plan.run second t).state := by
  -- equal replies lead both runs to the same next plan, and the states stay alike
  induction plan generalizing s t with
  | done a => exact ⟨rfl, halike⟩
  | note event next ih => exact ih hplan halike
  | ask question next ih =>
      obtain ⟨hreply, hstate⟩ := h.ask question s t hplan.1 halike
      unfold Plan.run Run.after
      dsimp only
      rw [← hreply]
      exact ih _ (hplan.2 _) hstate
  | make change next ih =>
      obtain ⟨hreply, hstate⟩ := h.make change s t hplan.1 halike
      unfold Plan.run Run.after
      dsimp only
      rw [← hreply]
      exact ih _ (hplan.2 _) hstate

end GuestNat
