import GuestNat.Host.HostError
import GuestNat.Settings.ConfigFault
import GuestNat.Setup.Step

/-!
# Errors of a setup

A setup fails because of its configuration or because a host refused a step.
-/

namespace GuestNat

inductive SetupError
  | stepFailed (step : Step) (cause : HostError)
  | config (fault : ConfigFault)
deriving DecidableEq

/-- The kinds that callers tell apart. -/
inductive ErrorKind
  | permissionDenied
  | interfaceNotFound
  | ruleInsertion
  | unsupportedPlatform
  | config
deriving DecidableEq, Repr

namespace SetupError

def message : SetupError → String
  | stepFailed step cause => step.text ++ " failed: " ++ cause.message
  | config fault => "invalid configuration: " ++ fault.message

/-- The kind of an error. A step about forwarding that fails for a reason of no kind of its own
means that the platform has no such switch; any other step has then failed to set its rule. -/
def kind : SetupError → ErrorKind
  | stepFailed _ .permissionDenied => .permissionDenied
  | stepFailed _ (.interfaceNotFound _) => .interfaceNotFound
  | stepFailed _ (.unsupportedPlatform _) => .unsupportedPlatform
  | stepFailed step _ => if step.touchesForwarding then .unsupportedPlatform else .ruleInsertion
  | config _ => .config

/-- The step that failed, if one did. -/
def step? : SetupError → Option Step
  | stepFailed step _ => some step
  | config _ => none

/-- The messages of an error and of everything behind it, the outermost first. The message of a
failed step already ends with that of its cause, which stands alone behind it once more. -/
def chain : SetupError → List String
  | e@(stepFailed _ cause) => e.message :: cause.message :: cause.cause?.toList
  | e@(config _) => [e.message]

end SetupError

/-- An error with what was being done when it arose, the outermost context first. -/
structure Failure where
  contexts : List String := []
  error : SetupError
deriving DecidableEq

namespace Failure

/-- The failure with one more context around it. -/
def within (context : String) (failure : Failure) : Failure :=
  { failure with contexts := context :: failure.contexts }

/-- All contexts and messages in one line. -/
def text (failure : Failure) : String :=
  ": ".intercalate (failure.contexts ++ failure.error.chain)

/-- The exit status of a program that stops with this failure: 2 for a bad configuration, 1 for a
step that failed. -/
def exitCode (failure : Failure) : Nat :=
  match failure.error.kind with
  | .config => 2
  | _ => 1

end Failure

end GuestNat
