import GuestNat.Firewall.Rule

/-!
# Steps

The setup is applied in four steps and removed in four steps. Applying switches forwarding on and
then adds the rules; removing takes the rules away, the last one first, and may switch forwarding
off.
-/

namespace GuestNat

inductive Step
  | enableForwarding
  | acceptToTap
  | acceptFromTap
  | masquerade
  | removeMasquerade
  | removeAcceptFromTap
  | removeAcceptToTap
  | disableForwarding
deriving DecidableEq, Repr

namespace Step

/-- The steps of applying the setup, in order. -/
def applying : List Step := [enableForwarding, acceptToTap, acceptFromTap, masquerade]

/-- The steps of removing the setup, in order. -/
def removing : List Step :=
  [removeMasquerade, removeAcceptFromTap, removeAcceptToTap, disableForwarding]

/-- The place of a step in its sequence, from 1. -/
def number : Step → Nat
  | enableForwarding | removeMasquerade => 1
  | acceptToTap | removeAcceptFromTap => 2
  | acceptFromTap | removeAcceptToTap => 3
  | masquerade | disableForwarding => 4

def isRemoval (step : Step) : Bool := removing.contains step

def touchesForwarding : Step → Bool
  | enableForwarding | disableForwarding => true
  | _ => false

def description : Step → String
  | enableForwarding => "enable IPv4 forwarding"
  | acceptToTap => "accept forwarded traffic out to the TAP interface"
  | acceptFromTap => "accept forwarded traffic in from the TAP interface"
  | masquerade => "masquerade the NAT subnet via the uplink"
  | removeMasquerade => "remove the NAT masquerade rule"
  | removeAcceptFromTap => "remove the inbound TAP forward rule"
  | removeAcceptToTap => "remove the outbound TAP forward rule"
  | disableForwarding => "disable IPv4 forwarding"

def text (step : Step) : String :=
  (if step.isRemoval then "teardown step " else "step ") ++ toString step.number ++ "/4 (" ++
    step.description ++ ")"

/-- The rule that a step adds or takes away. -/
def rule (config : NatConfig) : Step → Option Rule
  | acceptToTap | removeAcceptToTap => some (.acceptTo config.tap)
  | acceptFromTap | removeAcceptFromTap => some (.acceptFrom config.tap)
  | masquerade | removeMasquerade => some (.masquerade config.subnet config.uplink)
  | enableForwarding | disableForwarding => none

/-- The interfaces that have to exist for a step to make sense. -/
def interfaces (config : NatConfig) : Step → List String
  | acceptToTap | acceptFromTap => [config.tap]
  | masquerade => [config.uplink]
  | _ => []

end Step

/-- What a step ended up doing. -/
inductive StepOutcome
  | applied
  /-- The rule was there and none was added. -/
  | alreadyPresent
  /-- This many copies of the rule were taken away. -/
  | removed (copies : Nat)
  | notPresent
  | skipped
deriving DecidableEq, Repr

def StepOutcome.text : StepOutcome → String
  | applied => "applied"
  | alreadyPresent => "already present"
  | removed 1 => "removed"
  | removed n => "removed " ++ toString n ++ " copies"
  | notPresent => "not present"
  | skipped => "skipped"

/-- The steps that were finished, in order, with what each did. -/
abbrev Report := List (Step × StepOutcome)

namespace Report

/-- What the first entry for a step says. -/
def outcome? (report : Report) (step : Step) : Option StepOutcome :=
  (report.find? (·.1 = step)).map (·.2)

/-- One line for each step. -/
def lines (report : Report) : List String :=
  report.map fun (step, outcome) => step.text ++ ": " ++ outcome.text

end Report

end GuestNat
