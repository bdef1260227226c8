import GuestNat.Program.Execute
import GuestNat.Proofs.Footprint

/-!
# Sessions

A session is any number of operations on one host, one after the other: procedures, looks and
rehearsals, each with a configuration of its own.

* `Operation.plan`: an operation as a plan that ends with its answer;
* `Operation.inTurn`: operations in turn, whatever becomes of each;
* `Operation.within_plan`, `Operation.within_in_turn`: the calls that an operation and a session
  keep to.

How the answer of one operation depends on those before it is left to the host.
-/

namespace GuestNat

/-- One operation of a session. -/
inductive Operation
  | setup (procedure : Procedure) (config : NatConfig) (privilege : Privilege)
  | look (config : NatConfig)
  | rehearsal (command : Command) (config : NatConfig)

/-- What an operation comes to. -/
inductive Answer
  | ended (value : Except SetupError Report)
  | seen (status : Status)
  | rehearsed (rehearsal : Program.Rehearsed)

namespace Operation

/-- The configuration that an operation is about. -/
def config : Operation → NatConfig
  | setup _ config _ | look config | rehearsal _ config => config

/-- The operation only asks. -/
def OnlyAsks : Operation → Prop
  | setup .. => False
  | look _ | rehearsal .. => True

def plan : Operation → Plan Answer
  | setup procedure config privilege => .ended <$> (procedure.setup config privilege).run
  | look config => .seen <$> Status.probe config
  | rehearsal command config => .rehearsed <$> Program.rehearse command config

/-- Carries operations out one after the other and collects their answers. -/
def inTurn : List Operation → Plan (List Answer)
  | [] => pure []
  | operation :: operations => do
    let answer ← operation.plan
    let answers ← inTurn operations
    return answer :: answers

/-- The changes that an operation may ask for. -/
def Makes : Operation → Change → Prop
  | setup procedure config _, change => procedure.Makes config change
  | look _, _ | rehearsal .., _ => False

/-- These changes are about rules of the configuration, if about any. -/
theorem Makes.rule_mem {operation : Operation} {change : Change} {rule : Rule}
    (h : operation.Makes change) (hrule : change.rule? = some rule) :
    rule ∈ operation.config.rules := by
  cases operation with
  | look config => exact absurd h not_false
  | rehearsal command config => exact absurd h not_false
  | setup procedure config privilege => exact Procedure.Makes.rule_mem h hrule

section Runs

variable {σ : Type} {host : Host σ} {s : σ}

/-- A session is its first operation and then the session of the others. -/
theorem ends_in_turn_cons {operation : Operation} {operations : List Operation}
    {Q : List Answer → σ → Prop} :
    (inTurn (operation :: operations)).Ends host s (fun answers s' _ => Q answers s') ↔
      operation.plan.Ends host s fun answer s' _ =>
        (inTurn operations).Ends host s' fun answers s'' _ => Q (answer :: answers) s'' := by
  rw [inTurn, Plan.ends_monad_bind]
  simp only [Plan.ends_monad_bind, Plan.ends_pure]

end Runs

theorem within_note_all {asks : Question → Prop} {makes : Change → Prop} (events : List Event) :
    (Plan.noteAll events).Within asks makes := by
  induction events with
  | nil => trivial
  | cons event events ih => exact ih

/-- Whatever a host replies, an operation keeps to the calls of its configuration. -/
theorem within_plan (operation : Operation) :
    operation.plan.Within operation.config.Asks operation.Makes := by
  cases operation with
  | setup procedure config privilege =>
      refine Plan.within_map _ ?_
      exact (procedure.within_setup config privilege).mono (fun _ h => h.asks) fun _ h => h
  | look config => exact Plan.within_map _ within_probe
  | rehearsal command config =>
      -- only the look reaches the host, the command runs on the copy
      refine Plan.within_map _ ?_
      unfold Program.rehearse
      refine Plan.within_bind within_probe ?_
      intro status
      exact Plan.within_bind (within_note_all _) fun _ => Plan.within_pure _

/-- A session keeps to the calls that its operations keep to. -/
theorem within_in_turn {asks : Question → Prop} {makes : Change → Prop}
    {operations : List Operation}
    (h : ∀ operation ∈ operations, operation.plan.Within asks makes) :
    (inTurn operations).Within asks makes := by
  induction operations with
  | nil => trivial
  | cons operation operations ih =>
      unfold inTurn
      refine Plan.within_bind (h operation List.mem_cons_self) ?_
      intro answer
      have hothers := ih fun other hother => h other (List.mem_cons_of_mem operation hother)
      exact Plan.within_bind hothers fun _ => trivial

end Operation

end GuestNat
