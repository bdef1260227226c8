import GuestNat.Host.Plan
import GuestNat.Setup.Status

/-!
# A host in memory

A host that keeps forwarding, rules and interfaces as values and logs the changes made to it. A plan
that runs on it shows what it would do to a host that starts out the same.

- Deleting takes the first equal rule; appending adds at the end.
- Changes can be cut off after a number of them, and rules can be set apart that are refused.
- `Rehearsal.ofStatus` makes such a host from what a status says about another one.
-/

namespace GuestNat

structure Rehearsal where
  forwarding : Bool := false
  rules : List Rule := []
  /-- The interfaces there are; `none` means all. -/
  interfaces : Option (List String) := none
  /-- The changes made, in order. -/
  changes : List Change := []
  /-- How many changes are made before all further ones are denied. -/
  allowance : Option Nat := none
  /-- The rules whose appending is refused. -/
  refused : List Rule := []
deriving DecidableEq

namespace Rehearsal

def hasInterface (host : Rehearsal) (name : String) : Bool :=
  match host.interfaces with
  | none => true
  | some names => names.contains name

/-- Whether the allowance is used up. -/
def isDenied (host : Rehearsal) : Bool :=
  match host.allowance with
  | none => false
  | some limit => limit ≤ host.changes.length

/-- The answer to a question. -/
def answer (host : Rehearsal) : Question → Bool
  | .forwarding => host.forwarding
  | .interface name => host.hasInterface name
  | .rule rule => host.rules.contains rule

/-- The host after a change, or why the change is refused. -/
def apply (host : Rehearsal) (change : Change) : Reply Rehearsal :=
  if host.isDenied then .error .permissionDenied
  else
    match change with
    | .setForwarding on =>
      .ok { host with forwarding := on, changes := host.changes ++ [change] }
    | .append rule =>
      if host.refused.contains rule then
        .error (.ruleRejected change.text "rejected by test configurator")
      else
        .ok { host with rules := host.rules ++ [rule], changes := host.changes ++ [change] }
    | .delete rule =>
      if host.rules.contains rule then
        .ok { host with rules := host.rules.erase rule, changes := host.changes ++ [change] }
      else
        .error (.ruleRejected change.text "Bad rule (does a matching rule exist in that chain?)")

/-- The way a host in memory answers: a refused change leaves it as it is. -/
def host : Host Rehearsal where
  ask question s := { reply := .ok (s.answer question), state := s }
  make change s :=
    match s.apply change with
    | .ok s => { reply := .ok (), state := s }
    | .error e => { reply := .error e, state := s }

/-- A host that starts out as a status says. Interfaces that could not be looked up count as
present, everything else that is unknown counts as absent. A status says whether a rule is there and
not how often, so each rule is there at most once. -/
def ofStatus (status : Status) : Rehearsal where
  forwarding := status.forwarding = some true
  rules := (status.rules.filter (·.present = some true)).map (·.rule)
  interfaces := some ((status.interfaces.filter (·.2 ≠ some false)).map (·.1))

end Rehearsal

end GuestNat
