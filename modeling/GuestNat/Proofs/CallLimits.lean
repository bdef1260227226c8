import GuestNat.Proofs.Footprint
import GuestNat.Proofs.Traces
import Mathlib.Algebra.GroupWithZero.Nat

/-!
# Limits to calls

How many calls of a kind a plan can make, whatever a host replies to each of them and whatever that
depends on.

* `questionsOf`: the questions of a trace;
* `Plan.AtMost`: on no way through a plan are there more of the calls that are counted;
* `Plan.AtMost.count_le`: no trace shows more of them;
* `Plan.at_most_bind`, `at_most_perform`: the limits of parts add up;
* `at_most_teardown`: the limit for a whole removal.

What is counted is said by two tests, one for questions and one for changes, so that one limit tells
about each rule, about each change and about all calls together.
-/

namespace GuestNat

variable {α β σ : Type}

/-- The question that was asked. -/
def Occurrence.question? : Occurrence → Option Question
  | asked question _ => some question
  | _ => none

/-- The questions of a trace. -/
def questionsOf (trace : List Occurrence) : List Question := trace.filterMap (·.question?)

@[simp] theorem questions_of_append (t u : List Occurrence) :
    questionsOf (t ++ u) = questionsOf t ++ questionsOf u :=
  List.filterMap_append

/-- Only calls ask anything. -/
theorem questions_of_calls (t : List Occurrence) : questionsOf (callsOf t) = questionsOf t := by
  unfold questionsOf callsOf
  rw [List.filterMap_filter]
  congr
  funext o
  cases o <;> rfl

theorem questions_of_call {ρ : Type} (r : Response σ ρ) {call : Occurrence} (hcall : call.isCall) :
    questionsOf (r.trace call) = call.question?.toList := by
  rw [← questions_of_calls, calls_of_call r hcall]
  cases call <;> rfl

/-- How many calls of a trace are among those that are counted. -/
def countedIn (asks : Question → Bool) (makes : Change → Bool) (trace : List Occurrence) : Nat :=
  (questionsOf trace).countP asks + (changesOf trace).countP makes

section Counting

variable {asks : Question → Bool} {makes : Change → Bool}

theorem counted_append (t u : List Occurrence) :
    countedIn asks makes (t ++ u) = countedIn asks makes t + countedIn asks makes u := by
  unfold countedIn
  rw [questions_of_append, changes_of_append, List.countP_append, List.countP_append]
  omega

theorem counted_ask (r : Response σ Bool) (question : Question) :
    countedIn asks makes (r.trace (.asked question r.reply)) = (asks question).toNat := by
  unfold countedIn
  rw [questions_of_call r rfl, changes_of_call r rfl]
  cases hquestion : asks question <;>
    simp [Occurrence.question?, Occurrence.change?, hquestion]

theorem counted_make (r : Response σ Unit) (change : Change) :
    countedIn asks makes (r.trace (.made change r.reply)) = (makes change).toNat := by
  unfold countedIn
  rw [questions_of_call r rfl, changes_of_call r rfl]
  cases hchange : makes change <;> simp [Occurrence.question?, Occurrence.change?, hchange]

end Counting

/-! ## Limits of plans -/

namespace Plan

/-- Whatever the replies are, there are at most so many of the calls that are counted. -/
def AtMost (asks : Question → Bool) (makes : Change → Bool) : Nat → Plan α → Prop
  | _, done _ => True
  | limit, note _ next => next.AtMost asks makes limit
  | limit, ask question next =>
    (asks question).toNat ≤ limit ∧
      ∀ reply, (next reply).AtMost asks makes (limit - (asks question).toNat)
  | limit, make change next =>
    (makes change).toNat ≤ limit ∧
      ∀ reply, (next reply).AtMost asks makes (limit - (makes change).toNat)

variable {asks : Question → Bool} {makes : Change → Bool} {limit more : Nat}

theorem AtMost.mono {plan : Plan α} (h : plan.AtMost asks makes limit) (hle : limit ≤ more) :
    plan.AtMost asks makes more := by
  induction plan generalizing limit more with
  | done a => trivial
  | note event next ih => exact ih h hle
  | ask question next ih =>
      obtain ⟨hcost, hnext⟩ := h
      exact ⟨Nat.le_trans hcost hle, fun reply => ih reply (hnext reply) (by omega)⟩
  | make change next ih =>
      obtain ⟨hcost, hnext⟩ := h
      exact ⟨Nat.le_trans hcost hle, fun reply => ih reply (hnext reply) (by omega)⟩

/-- The limits of two parts add up, by induction on the first one. -/
theorem at_most_bind {plan : Plan α} {f : α → Plan β} (hplan : plan.AtMost asks makes limit)
    (hf : ∀ a, (f a).AtMost asks makes more) :
    (plan >>= f).AtMost asks makes (limit + more) := by
  change (plan.bind f).AtMost asks makes (limit + more)
  -- the calls of `plan` use up its limit one by one; where it is done, `f a` may make `more`
  induction plan generalizing limit with
  | done a => exact (hf a).mono (Nat.le_add_left more limit)
  | note event next ih => exact ih hplan
  | ask question next ih =>
      obtain ⟨hcost, hnext⟩ := hplan
      refine ⟨Nat.le_add_right_of_le hcost, ?_⟩
      intro reply
      exact (ih reply (hnext reply)).mono (by omega)
  | make change next ih =>
      obtain ⟨hcost, hnext⟩ := hplan
      refine ⟨Nat.le_add_right_of_le hcost, ?_⟩
      intro reply
      exact (ih reply (hnext reply)).mono (by omega)

/-- The same for plans that may end with an error; `more` is the limit of the rest. -/
theorem at_most_except_bind {ε : Type} (more : Nat) {x : ExceptT ε Plan α}
    {f : α → ExceptT ε Plan β} (hx : x.run.AtMost asks makes limit)
    (hf : ∀ a, (f a).run.AtMost asks makes more) :
    (x >>= f).run.AtMost asks makes (limit + more) := by
  rw [ExceptT.run_bind]
  refine at_most_bind hx ?_
  intro v
  cases v with
  | ok a => exact hf a
  | error e => trivial

/-- No trace of the plan shows more of the calls, on any host. -/
theorem AtMost.count_le {plan : Plan α} (h : plan.AtMost asks makes limit) (host : Host σ) (s : σ) :
    countedIn asks makes (plan.run host s).trace ≤ limit := by
  induction plan generalizing limit s with
  | done a => exact Nat.zero_le limit
  | note event next ih => exact ih h s
  | ask question next ih =>
      obtain ⟨hcost, hnext⟩ := h
      -- whatever the host replies, the rest of the plan keeps to what is left of the limit
      let r := host.ask question s
      have hrest := ih r.reply (hnext r.reply) r.state
      change countedIn asks makes
        (r.trace (.asked question r.reply) ++ ((next r.reply).run host r.state).trace) ≤ limit
      rw [counted_append, counted_ask]
      omega
  | make change next ih =>
      obtain ⟨hcost, hnext⟩ := h
      let r := host.make change s
      have hrest := ih r.reply (hnext r.reply) r.state
      change countedIn asks makes
        (r.trace (.made change r.reply) ++ ((next r.reply).run host r.state).trace) ≤ limit
      rw [counted_append, counted_make]
      omega

end Plan

/-! ## Limits of setups -/

section Setup

variable {asks : Question → Bool} {makes : Change → Bool} {step : Step}

theorem at_most_note (event : Event) : (Setup.note event).run.AtMost asks makes 0 := trivial

theorem at_most_ask (question : Question) :
    (Setup.ask step question).run.AtMost asks makes (asks question).toNat :=
  ⟨Nat.le_refl _, fun _ => trivial⟩

theorem at_most_make (change : Change) :
    (Setup.make step change).run.AtMost asks makes (makes change).toNat :=
  ⟨Nat.le_refl _, fun _ => trivial⟩

theorem at_most_privilege (privilege : Privilege) :
    (Setup.requirePrivilege privilege step).run.AtMost asks makes 0 := by
  cases privilege <;> exact trivial

/-- Steps in turn make at most the calls of all of them together, by induction on the steps. -/
theorem at_most_perform {act : Step → Setup StepOutcome} {steps : List Step} {limit : Step → Nat}
    (h : ∀ step ∈ steps, (act step).run.AtMost asks makes (limit step)) :
    (Setup.perform act steps).run.AtMost asks makes (steps.map limit).sum := by
  induction steps with
  | nil => trivial
  | cons step steps ih =>
      have hrest := ih fun later hlater => h later (List.mem_cons_of_mem step hlater)
      -- the step's own calls, then the note of its outcome, which is no call, then the rest
      unfold Setup.perform
      rw [List.map_cons, List.sum_cons]
      refine Plan.at_most_except_bind _ (h step List.mem_cons_self) ?_
      intro outcome
      rw [← Nat.zero_add (steps.map limit).sum]
      refine Plan.at_most_except_bind _ (at_most_note _) ?_
      intro _
      exact Plan.at_most_except_bind 0 hrest fun _ => trivial

end Setup

/-! ## Removing -/

section Removing

variable (asks : Question → Bool) (makes : Change → Bool)

/-- The calls of deleting a rule up to a number of times: before each deletion the rule is looked
for, and once more behind them. -/
def Rule.removalLimit (rule : Rule) (deletions : Nat) : Nat :=
  (deletions + 1) * (asks (.rule rule)).toNat + deletions * (makes (.delete rule)).toNat

/-- The calls of a step of removing. -/
def Step.removalLimit (config : NatConfig) (disableForwarding : Bool) (step : Step) : Nat :=
  match step.rule config with
  | none => if disableForwarding then (makes (.setForwarding false)).toNat else 0
  | some rule => rule.removalLimit asks makes Setup.maxRemovals

variable {asks makes} {config : NatConfig} {step : Step}

theorem at_most_remove_copies (step : Step) (rule : Rule) (budget removed : Nat) :
    (Setup.removeCopies step rule budget removed).run.AtMost asks makes
      (rule.removalLimit asks makes budget) := by
  induction budget generalizing removed with
  -- the last round looks once more, to know whether copies are left
  | zero =>
      unfold Setup.removeCopies
      refine (Plan.at_most_except_bind 0 (at_most_ask (.rule rule)) ?_).mono ?_
      · intro found
        cases found with
        | true => exact Plan.at_most_except_bind 0 (at_most_note _) fun _ => trivial
        | false => trivial
      · simp [Rule.removalLimit]
  | succ budget ih =>
      unfold Setup.removeCopies
      let rest := (makes (.delete rule)).toNat + rule.removalLimit asks makes budget
      refine (Plan.at_most_except_bind rest (at_most_ask (.rule rule)) ?_).mono ?_
      · intro found
        cases found with
        | true => exact Plan.at_most_except_bind _ (at_most_make _) fun _ => ih (removed + 1)
        | false => trivial
      · -- one look and one deletion more
        unfold rest Rule.removalLimit
        rw [Nat.succ_mul (budget + 1), Nat.succ_mul budget (makes (.delete rule)).toNat]
        omega

theorem at_most_teardown_step (disableForwarding : Bool) (privilege : Privilege) :
    (Setup.teardownStep config disableForwarding privilege step).run.AtMost asks makes
      (step.removalLimit asks makes config disableForwarding) := by
  unfold Setup.teardownStep
  rw [← Nat.zero_add (step.removalLimit asks makes config disableForwarding)]
  refine Plan.at_most_except_bind _ (at_most_privilege privilege) ?_
  intro _
  unfold Step.removalLimit
  cases step.rule config with
  | none =>
      cases disableForwarding with
      | true => exact Plan.at_most_except_bind 0 (at_most_make _) fun _ => trivial
      | false => trivial
  | some rule =>
      exact Plan.at_most_except_bind 0 (at_most_remove_copies step rule Setup.maxRemovals 0)
        fun _ => trivial

/-- The calls of all steps of removing are those for each rule, and the switch behind them. -/
theorem sum_removal_limits (config : NatConfig) (disableForwarding : Bool) :
    (Step.removing.map (Step.removalLimit asks makes config disableForwarding)).sum =
      (config.rules.map fun rule => rule.removalLimit asks makes Setup.maxRemovals).sum +
        if disableForwarding then (makes (.setForwarding false)).toNat else 0 := by
  simp only [Step.removing, Step.removalLimit, Step.rule, config.rules_eq, List.map_cons,
    List.map_nil, List.sum_cons, List.sum_nil]
  omega

/-- A removal makes at most these calls, with any configuration and any privilege. -/
theorem at_most_teardown (config : NatConfig) (disableForwarding : Bool) (privilege : Privilege) :
    (Setup.teardown config disableForwarding privilege).run.AtMost asks makes
      ((config.rules.map fun rule => rule.removalLimit asks makes Setup.maxRemovals).sum +
        if disableForwarding then (makes (.setForwarding false)).toNat else 0) := by
  rw [← sum_removal_limits]
  let limit := (Step.removing.map (Step.removalLimit asks makes config disableForwarding)).sum
  have hsteps : ∀ step ∈ Step.removing,
      (Setup.teardownStep config disableForwarding privilege step).run.AtMost asks makes
        (step.removalLimit asks makes config disableForwarding) :=
    fun step _ => at_most_teardown_step disableForwarding privilege
  have hcheck : (Setup.checkConfig config).run.AtMost asks makes 0 := trivial
  unfold Setup.teardown
  refine (Plan.at_most_except_bind limit hcheck ?_).mono (Nat.le_of_eq (Nat.zero_add limit))
  intro _
  refine (Plan.at_most_except_bind limit (at_most_note _) ?_).mono
    (Nat.le_of_eq (Nat.zero_add limit))
  exact fun _ => at_most_perform hsteps

end Removing

end GuestNat
