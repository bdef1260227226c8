import GuestNat.Host.Knob
import GuestNat.Setup.Step

/-!
# Log events

What is reported while a plan runs. An event is kept by its meaning; `level`, `message` and `fields`
say how a log shows it.
-/

namespace GuestNat

inductive Level
  | debug
  | info
  | warn
  | error
deriving DecidableEq, Repr

def Level.name : Level → String
  | debug => "DEBUG"
  | info => "INFO"
  | warn => "WARN"
  | error => "ERROR"

inductive Event
  | applying (config : NatConfig) (idempotent : Bool)
  | removing (config : NatConfig)
  | stepFinished (step : Step) (outcome : StepOutcome)
  | alreadyInstalled (rule : Rule)
  /-- A step was not begun for lack of privilege. -/
  | unprivileged (step : Step)
  | interfaceMissing (step : Step) (name : String)
  /-- Copies of a rule remain after as many removals as are tried. -/
  | givingUp (rule : Rule) (removals : Nat)
  | probed (subject : String) (value : Bool)
  | probeFailed (subject : String) (cause : HostError)
  | runningCommand (command : String)
  | writingKnob (path : String) (on : Bool)
  /-- A rehearsal without the privilege to look at the rules. -/
  | rehearsingUnprivileged
  /-- A run whose changes the host will refuse. -/
  | runningUnprivileged
  /-- A run ended early at a step. -/
  | stopped (step : Step)
deriving DecidableEq

/-- The value of a field of an event. -/
inductive FieldValue
  | text (value : String)
  | flag (value : Bool)
deriving DecidableEq, Repr

namespace Event

def level : Event → Level
  | applying .. | removing .. | stepFinished .. => .info
  | alreadyInstalled .. | probed .. | probeFailed .. | runningCommand .. | writingKnob .. => .debug
  | unprivileged .. | interfaceMissing .. | givingUp .. | rehearsingUnprivileged |
    runningUnprivileged => .warn
  | stopped .. => .error

def message : Event → String
  | applying .. => "applying NAT configuration"
  | removing .. => "removing NAT configuration"
  | stepFinished .. => "step finished"
  | alreadyInstalled .. => "rule already installed"
  | unprivileged .. => "refusing to run without elevated privilege"
  | interfaceMissing .. => "interface does not exist"
  | givingUp _ removals =>
    "rule still present after " ++ toString removals ++ " removals, giving up"
  | probed .. => "probe"
  | probeFailed .. => "probe failed"
  | runningCommand .. => "running iptables"
  | writingKnob .. => "writing forwarding knob"
  | rehearsingUnprivileged =>
    "not running as root; rules that cannot be checked are planned as absent"
  | runningUnprivileged => "not running as root; host changes will be refused"
  | stopped .. => "stopped; earlier steps were left in place"

/-- The fields that name a configuration. -/
def configFields (config : NatConfig) : List (String × FieldValue) :=
  [("tap", .text config.tap), ("uplink", .text config.uplink),
    ("subnet", .text config.subnet.text)]

def fields : Event → List (String × FieldValue)
  | applying config idempotent => configFields config ++ [("idempotent", .flag idempotent)]
  | removing config => configFields config
  | stepFinished step outcome => [("step", .text step.text), ("outcome", .text outcome.text)]
  | alreadyInstalled rule => [("rule", .text rule.text)]
  | unprivileged step => [("step", .text step.text)]
  | interfaceMissing step name => [("step", .text step.text), ("interface", .text name)]
  | givingUp rule _ => [("rule", .text rule.text)]
  | probed subject value => [("what", .text subject), ("value", .flag value)]
  | probeFailed subject cause => [("what", .text subject), ("error", .text cause.message)]
  | runningCommand command => [("command", .text command)]
  | writingKnob path on => [("path", .text path), ("value", .text (Knob.digit on))]
  | rehearsingUnprivileged | runningUnprivileged => []
  | stopped step => [("step", .text step.text)]

/-- The events by which a host reports what it does; all others belong to what runs on it. -/
def isOfHost : Event → Bool
  | runningCommand .. | writingKnob .. => true
  | _ => false

/-- The names of an event's fields; the message counts as one. -/
def fieldNames (event : Event) : List String := "message" :: event.fields.map (·.1)

/-- What reports an event: the program, then the parts within parts down to the one it is. -/
def origin : Event → String
  | applying .. | removing .. | stepFinished .. | alreadyInstalled .. | unprivileged .. |
    interfaceMissing .. | givingUp .. => "tapnat::bootstrap"
  | probed .. | probeFailed .. => "tapnat::status"
  | runningCommand .. => "tapnat::system::iptables"
  | writingKnob .. => "tapnat::system::sysctl"
  | rehearsingUnprivileged | runningUnprivileged | stopped .. => "tapnat"

end Event

end GuestNat
