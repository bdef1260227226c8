import GuestNat.Host.Plan

/-!
# Hosts with faults

A host that fails some of its calls. A call that fails does not reach the host behind it, so that
host stays as it is.
-/

namespace GuestNat

/-- The six calls, without what they are about. -/
inductive CallKind
  | askForwarding
  | setForwarding
  | askInterface
  | askRule
  | appendRule
  | deleteRule
deriving DecidableEq, Repr

def Question.kind : Question → CallKind
  | forwarding => .askForwarding
  | interface _ => .askInterface
  | rule _ => .askRule

def Change.kind : Change → CallKind
  | setForwarding _ => .setForwarding
  | append _ => .appendRule
  | delete _ => .deleteRule

/-- A fault of one kind of call: of the one with this number among its kind, counted from 1, or of
every one. -/
structure Fault where
  call : CallKind
  number : Option Nat
  error : HostError

/-- A host with faults: the state of the host behind, and the calls so far. -/
structure Faulty (σ : Type) where
  state : σ
  calls : List CallKind := []

namespace Faulty

variable {σ : Type}

/-- The error of the call that comes next, by the first fault that speaks of it. -/
def next? (faults : List Fault) (calls : List CallKind) (kind : CallKind) : Option HostError :=
  let number := calls.count kind + 1
  (faults.find? fun fault =>
    fault.call = kind && (fault.number = none || fault.number = some number)).map (·.error)

/-- One call: a fault answers it, or else the host behind. -/
def call {ρ : Type} (faults : List Fault) (kind : CallKind) (behind : σ → Response σ ρ)
    (s : Faulty σ) : Response (Faulty σ) ρ :=
  let calls := s.calls ++ [kind]
  match next? faults s.calls kind with
  | some e => { reply := .error e, state := ⟨s.state, calls⟩ }
  | none =>
    let r := behind s.state
    { r with state := ⟨r.state, calls⟩ }

/-- The host with faults in front of it. -/
def host (faults : List Fault) (behind : Host σ) : Host (Faulty σ) where
  ask question := call faults question.kind (behind.ask question)
  make change := call faults change.kind (behind.make change)

end Faulty

end GuestNat
