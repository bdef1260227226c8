import GuestNat.Host.Plan
import GuestNat.Setup.Step

/-!
# Status

How a host stands to a configuration. Looking never changes anything and never stops: a question
that the host cannot answer is recorded as unknown, and unknown counts as absent.
-/

namespace GuestNat

/-- What a question came to; `none` when it had no answer. -/
abbrev Probe := Option Bool

/-- A rule with what the host says about it. -/
structure RuleStatus where
  step : Step
  rule : Rule
  present : Probe
deriving DecidableEq

/-- What a host says about forwarding, the interfaces and the rules of a configuration. -/
structure Status where
  forwarding : Probe
  interfaces : List (String × Probe)
  rules : List RuleStatus
deriving DecidableEq

/-- What keeps a partial setup from being complete. -/
inductive Shortcoming
  | forwardingUnknown
  | forwardingOff
  | ruleUnknown (rule : Rule)
  | ruleMissing (rule : Rule)
  | interfaceMissing (name : String)
deriving DecidableEq

def Shortcoming.text : Shortcoming → String
  | forwardingUnknown => "could not read the IPv4 forwarding state"
  | forwardingOff => "IPv4 forwarding is disabled"
  | ruleUnknown rule => "rule " ++ rule.text ++ " could not be checked"
  | ruleMissing rule => "rule " ++ rule.text ++ " is missing"
  | interfaceMissing name => "interface " ++ name ++ " does not exist"

inductive Health
  | configured
  | partly (shortcoming : Shortcoming)
  | unconfigured
deriving DecidableEq

def Health.text : Health → String
  | configured => "configured"
  | partly shortcoming => "partially configured: " ++ shortcoming.text
  | unconfigured => "not configured"

namespace Status

/-- The first thing that is missing while forwarding is on. -/
def shortcoming? (status : Status) : Option Shortcoming :=
  match status.rules.find? (·.present ≠ some true) with
  | some ⟨_, rule, none⟩ => some (.ruleUnknown rule)
  | some ⟨_, rule, some _⟩ => some (.ruleMissing rule)
  | none =>
    (status.interfaces.find? (·.2 ≠ some true)).map fun (name, _) => .interfaceMissing name

/-- Nothing is there without forwarding and rules, all is there if nothing is missing, and anything
between is partial; forwarding is named first, then the rules, then the interfaces. -/
def health (status : Status) : Health :=
  if status.forwarding = some true then
    match status.shortcoming? with
    | none => .configured
    | some s => .partly s
  else if status.rules.all (·.present ≠ some true) then .unconfigured
  else .partly (if status.forwarding = none then .forwardingUnknown else .forwardingOff)

/-! ## Printing -/

/-- A probe in two words of one's own, or `unknown`. -/
def probeText (probe : Probe) (yes no : String) : String :=
  match probe with
  | some true => yes
  | some false => no
  | none => "unknown"

/-- One line for each thing looked at, and one for the whole. -/
def lines (status : Status) : List String :=
  ["ip_forward: " ++ probeText status.forwarding "on" "off"] ++
  status.interfaces.map (fun (name, present) =>
    "interface " ++ name ++ ": " ++ probeText present "present" "missing") ++
  status.rules.map (fun r =>
    "rule " ++ r.rule.text ++ ": " ++ probeText r.present "present" "missing") ++
  ["status: " ++ status.health.text]

/-! ## Looking at a host -/

/-- Asks a question whose failure is only recorded. -/
def look (subject : String) (question : Question) : Plan Probe :=
  .ask question fun
    | .ok value => .note (.probed subject value) (.done (some value))
    | .error cause => .note (.probeFailed subject cause) (.done none)

/-- Looks at interfaces in turn. -/
def lookAtInterfaces : List String → Plan (List (String × Probe))
  | [] => pure []
  | name :: names => do
    let probe ← look name (.interface name)
    let others ← lookAtInterfaces names
    return (name, probe) :: others

/-- Looks at the rules of steps in turn. -/
def lookAtRules (config : NatConfig) : List Step → Plan (List RuleStatus)
  | [] => pure []
  | step :: steps =>
    match step.rule config with
    | none => lookAtRules config steps
    | some rule => do
      let probe ← look rule.text (.rule rule)
      let others ← lookAtRules config steps
      return ⟨step, rule, probe⟩ :: others

/-- The six questions about a configuration. -/
def probe (config : NatConfig) : Plan Status := do
  let forwarding ← look "ip_forward" .forwarding
  let interfaces ← lookAtInterfaces [config.tap, config.uplink]
  let rules ← lookAtRules config Step.applying
  return { forwarding, interfaces, rules }

end Status

end GuestNat
