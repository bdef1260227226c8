import GuestNat.Host.Event

/-!
# Plans and hosts

All that is done to a host goes through six calls: three questions and three changes. A plan is a
finite tree of such calls; what it does next depends on the answers only. A host is whatever answers
them, with a state of its own.

- `Plan.run` lets a host answer a plan, and keeps what happened in order.
- Nothing else looks at a host, so a statement about all hosts is a statement about all ways to
  answer, whatever the answers depend on.
-/

namespace GuestNat

/-- The questions a host is asked. -/
inductive Question
  | forwarding
  | interface (name : String)
  | rule (rule : Rule)
deriving DecidableEq

/-- The changes a host is asked to make. -/
inductive Change
  | setForwarding (on : Bool)
  | append (rule : Rule)
  | delete (rule : Rule)
deriving DecidableEq

/-- The change as the operation of the system that makes it. -/
def Change.text : Change → String
  | setForwarding on => "write " ++ Knob.digit on ++ " to " ++ Knob.standardPath
  | append rule => "iptables " ++ Text.joinWords (rule.commandArgs Action.append.flag)
  | delete rule => "iptables " ++ Text.joinWords (rule.commandArgs Action.delete.flag)

/-- What a host says to a call. -/
abbrev Reply := Except HostError

/-- A tree of calls and log events that ends with a value. -/
inductive Plan (α : Type)
  | done (value : α)
  | note (event : Event) (next : Plan α)
  | ask (question : Question) (next : Reply Bool → Plan α)
  | make (change : Change) (next : Reply Unit → Plan α)

namespace Plan

variable {α β γ : Type}

/-- Goes on with another plan where the first one ends. -/
def bind : Plan α → (α → Plan β) → Plan β
  | done value, f => f value
  | note event next, f => note event (next.bind f)
  | ask question next, f => ask question fun reply => (next reply).bind f
  | make change next, f => make change fun reply => (next reply).bind f

instance : Monad Plan where
  pure := done
  bind := bind

theorem bind_done (plan : Plan α) : plan.bind done = plan := by
  induction plan with
  | done => rfl
  | note event next ih => simp [bind, ih]
  | ask question next ih => simp [bind, ih]
  | make change next ih => simp [bind, ih]

theorem bind_assoc (plan : Plan α) (f : α → Plan β) (g : β → Plan γ) :
    (plan.bind f).bind g = plan.bind fun a => (f a).bind g := by
  induction plan with
  | done => rfl
  | note event next ih => simp [bind, ih]
  | ask question next ih => simp [bind, ih]
  | make change next ih => simp [bind, ih]

instance : LawfulMonad Plan :=
  LawfulMonad.mk' Plan bind_done (fun _ _ => rfl) bind_assoc

/-- Reports events. -/
def noteAll : List Event → Plan Unit
  | [] => done ()
  | event :: events => note event (noteAll events)

end Plan

/-! ## Hosts -/

/-- Of no events, all are a host's own. -/
theorem Event.own_nil : ∀ event ∈ ([] : List Event), event.isOfHost := List.forall_mem_nil _

/-- What a call to a host comes to: its reply, the events it reports before the reply, and the state
it leaves. A host reports events of its own only. -/
structure Response (σ ρ : Type) where
  reply : Reply ρ
  state : σ
  events : List Event := []
  events_own : ∀ event ∈ events, event.isOfHost := by
    first
    | exact Event.own_nil
    | exact List.all_eq_true.mp rfl

/-- A way to answer calls from a state. -/
structure Host (σ : Type) where
  ask : Question → σ → Response σ Bool
  make : Change → σ → Response σ Unit

/-- One thing that happened in a run. -/
inductive Occurrence
  | noted (event : Event)
  | asked (question : Question) (reply : Reply Bool)
  | made (change : Change) (reply : Reply Unit)

/-- A finished run: its value, the state it left the host in, and what happened, in order. -/
structure Run (σ α : Type) where
  value : α
  state : σ
  trace : List Occurrence

/-- The log of a run. -/
def Run.events {σ α : Type} (run : Run σ α) : List Event :=
  run.trace.filterMap fun
    | .noted event => some event
    | _ => none

/-- The run with something that happened before it. -/
def Run.after {σ α : Type} (run : Run σ α) (before : List Occurrence) : Run σ α :=
  { run with trace := before ++ run.trace }

namespace Plan

variable {α σ : Type}

/-- Lets a host answer a plan. -/
def run (host : Host σ) : Plan α → σ → Run σ α
  | done value, s => ⟨value, s, []⟩
  | note event next, s => (next.run host s).after [.noted event]
  | ask question next, s =>
    let r := host.ask question s
    ((next r.reply).run host r.state).after (r.events.map .noted ++ [.asked question r.reply])
  | make change next, s =>
    let r := host.make change s
    ((next r.reply).run host r.state).after (r.events.map .noted ++ [.made change r.reply])

end Plan

end GuestNat
