import GuestNat.Setup.Setup

/-!
# How runs end

A plan *ends* on a host as a condition says when the condition holds of the value of its run, of the
state that the run leaves and of its trace. This is the logic in which everything about runs is
proved:

* `Plan.ends_bind`: a plan that goes on with another one ends as the second does from where the
  first one ended, with the trace of the first one before its own;
* `Plan.ends_except_bind`: the same where an error of the first part is that of the whole;
* one equation for each of the calls that setups are made of.

Nothing is assumed of the host here.
-/

namespace GuestNat

variable {α β ε σ : Type}

/-- The trace of a call: what the host reports of it, and the call. -/
def Response.trace {ρ : Type} (r : Response σ ρ) (call : Occurrence) : List Occurrence :=
  r.events.map .noted ++ [call]

namespace Plan

/-- The run on the host ends as the condition says. -/
def Ends (host : Host σ) (plan : Plan α) (s : σ) (condition : α → σ → List Occurrence → Prop) :
    Prop :=
  condition (plan.run host s).value (plan.run host s).state (plan.run host s).trace

variable {host : Host σ} {s : σ}

/-- A run of a plan that goes on is the run of its first part with that of the rest behind it. -/
theorem run_bind (plan : Plan α) (f : α → Plan β) :
    (plan.bind f).run host s =
      ((f (plan.run host s).value).run host (plan.run host s).state).after
        (plan.run host s).trace := by
  induction plan generalizing s with
  | done value => rfl
  | note event next ih =>
      simp only [bind, run, Run.after, ih, List.append_assoc]
  | ask question next ih =>
      simp only [bind, run, Run.after, ih, List.append_assoc]
  | make change next ih =>
      simp only [bind, run, Run.after, ih, List.append_assoc]

theorem ends_bind {plan : Plan α} {f : α → Plan β} {Q : β → σ → List Occurrence → Prop} :
    (plan.bind f).Ends host s Q ↔
      plan.Ends host s fun a s' t => (f a).Ends host s' fun b s'' t' => Q b s'' (t ++ t') := by
  unfold Ends
  rw [run_bind]
  rfl

/-- The same for `>>=` and thus for `do`. -/
theorem ends_monad_bind {plan : Plan α} {f : α → Plan β} {Q : β → σ → List Occurrence → Prop} :
    (plan >>= f).Ends host s Q ↔
      plan.Ends host s fun a s' t => (f a).Ends host s' fun b s'' t' => Q b s'' (t ++ t') :=
  ends_bind

theorem ends_pure {a : α} {Q : α → σ → List Occurrence → Prop} :
    (pure a : Plan α).Ends host s Q ↔ Q a s [] :=
  Iff.rfl

theorem ends_map {plan : Plan α} {f : α → β} {Q : β → σ → List Occurrence → Prop} :
    (f <$> plan).Ends host s Q ↔ plan.Ends host s fun a s' t => Q (f a) s' t := by
  rw [← bind_pure_comp, ends_monad_bind]
  simp only [ends_pure, List.append_nil]

/-- A weaker condition follows. -/
theorem Ends.mono {plan : Plan α} {P Q : α → σ → List Occurrence → Prop}
    (h : plan.Ends host s P) (hPQ : ∀ a s' t, P a s' t → Q a s' t) : plan.Ends host s Q :=
  hPQ _ _ _ h

/-- A plan that may end with an error ends as the rest does from where the first part ended; if that
was with an error, this is the end. -/
theorem ends_except_bind {x : ExceptT ε Plan α} {f : α → ExceptT ε Plan β}
    {Q : Except ε β → σ → List Occurrence → Prop} :
    (x >>= f).run.Ends host s Q ↔
      x.run.Ends host s fun v s' t =>
        match v with
        | .ok a => (f a).run.Ends host s' fun w s'' t' => Q w s'' (t ++ t')
        | .error e => Q (.error e) s' t := by
  -- a thrown error runs nothing more, so its ending is the one of `x`
  rw [ExceptT.run_bind, ends_monad_bind]
  constructor
  · intro h
    refine h.mono ?_
    intro v s' t hv
    cases v with
    | ok a => exact hv
    | error e => simpa [ends_pure] using hv
  · intro h
    refine h.mono ?_
    intro v s' t hv
    cases v with
    | ok a => exact hv
    | error e => simpa [ends_pure] using hv

end Plan

namespace Setup

variable {host : Host σ} {s : σ} {Q : Except SetupError β → σ → List Occurrence → Prop}

/-- The rule of sequence: what is known of the first part is all that the rest may use. -/
theorem ends_of_parts {setup : Setup α} {f : α → Setup β}
    {P : Except SetupError α → σ → List Occurrence → Prop} (hfirst : setup.run.Ends host s P)
    (hrest : ∀ a s' t, P (.ok a) s' t →
      (f a).run.Ends host s' fun w s'' t' => Q w s'' (t ++ t'))
    (herror : ∀ e s' t, P (.error e) s' t → Q (.error e) s' t) :
    (setup >>= f).run.Ends host s Q := by
  rw [Plan.ends_except_bind]
  refine hfirst.mono ?_
  intro v s' t hv
  cases v with
  | ok a => exact hrest a s' t hv
  | error e => exact herror e s' t hv

theorem ends_pure {b : β} : (pure b : Setup β).run.Ends host s Q ↔ Q (.ok b) s [] :=
  Iff.rfl

theorem ends_throw {e : SetupError} : (throw e : Setup β).run.Ends host s Q ↔ Q (.error e) s [] :=
  Iff.rfl

theorem ends_note {event : Event} {Q : Except SetupError Unit → σ → List Occurrence → Prop} :
    (note event).run.Ends host s Q ↔ Q (.ok ()) s [.noted event] :=
  Iff.rfl

theorem ends_ask {step : Step} {question : Question}
    {Q : Except SetupError Bool → σ → List Occurrence → Prop} :
    (ask step question).run.Ends host s Q ↔
      Q ((host.ask question s).reply.mapError (.stepFailed step)) (host.ask question s).state
        ((host.ask question s).trace (.asked question (host.ask question s).reply)) := by
  unfold Plan.Ends
  simp only [ask, ExceptT.run_mk, Plan.run, Run.after, List.append_nil, Response.trace]

theorem ends_make {step : Step} {change : Change}
    {Q : Except SetupError Unit → σ → List Occurrence → Prop} :
    (make step change).run.Ends host s Q ↔
      Q ((host.make change s).reply.mapError (.stepFailed step)) (host.make change s).state
        ((host.make change s).trace (.made change (host.make change s).reply)) := by
  unfold Plan.Ends
  simp only [make, ExceptT.run_mk, Plan.run, Run.after, List.append_nil, Response.trace]

theorem ends_check_config {config : NatConfig}
    {Q : Except SetupError Unit → σ → List Occurrence → Prop} :
    (checkConfig config).run.Ends host s Q ↔
      Q (config.check.mapError fun fault => .config (.interfaces fault)) s [] :=
  Iff.rfl

end Setup

end GuestNat
