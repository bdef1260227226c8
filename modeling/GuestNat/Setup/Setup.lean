import GuestNat.Host.Plan
import GuestNat.Setup.SetupError

/-!
# Applying and removing the setup

Both go through their four steps in order and stop at the first one that fails. What earlier steps
did stays in place.

- Applying switches forwarding on and appends the three rules. It can leave out rules that are there
  already, and it can insist that the interfaces exist.
- Removing deletes every copy of the three rules, up to a limit for each, and switches forwarding
  off when it is told to.
-/

namespace GuestNat

/-- A plan that may end with an error. -/
abbrev Setup := ExceptT SetupError Plan

/-- Whether changes to the host are permitted at all. -/
inductive Privilege
  | elevated
  | unprivileged
deriving DecidableEq, Repr

structure ApplyOptions where
  /-- Leave out rules that are installed already. -/
  idempotent : Bool := false
  /-- Fail where an interface of a rule does not exist. -/
  verifyInterfaces : Bool := true
deriving DecidableEq, Repr

namespace Setup

/-- Reports an event. -/
def note (event : Event) : Setup Unit := ExceptT.mk (.note event (.done (.ok ())))

/-- Asks on behalf of a step. -/
def ask (step : Step) (question : Question) : Setup Bool :=
  ExceptT.mk (.ask question fun reply => .done (reply.mapError (.stepFailed step)))

/-- Makes a change on behalf of a step. -/
def make (step : Step) (change : Change) : Setup Unit :=
  ExceptT.mk (.make change fun reply => .done (reply.mapError (.stepFailed step)))

/-- Accepts a configuration, or ends with what is wrong with it. -/
def checkConfig (config : NatConfig) : Setup Unit :=
  ExceptT.mk (.done (config.check.mapError fun fault => .config (.interfaces fault)))

/-- Ends a step that the privilege does not permit. -/
def requirePrivilege (privilege : Privilege) (step : Step) : Setup Unit :=
  match privilege with
  | .elevated => pure ()
  | .unprivileged => do
    note (.unprivileged step)
    throw (.stepFailed step .permissionDenied)

/-- Ends a step whose interfaces do not all exist. -/
def requireInterfaces (step : Step) : List String → Setup Unit
  | [] => pure ()
  | name :: names => do
    if ← ask step (.interface name) then
      requireInterfaces step names
    else
      note (.interfaceMissing step name)
      throw (.stepFailed step (.interfaceNotFound name))

/-- Does the steps in order and reports each one as it is finished. -/
def perform (act : Step → Setup StepOutcome) : List Step → Setup Report
  | [] => pure []
  | step :: steps => do
    let outcome ← act step
    note (.stepFinished step outcome)
    let report ← perform act steps
    return (step, outcome) :: report

/-! ## Applying -/

/-- Whether a rule need not be added. -/
def isInstalled (options : ApplyOptions) (step : Step) (rule : Rule) : Setup Bool :=
  if options.idempotent then ask step (.rule rule) else pure false

/-- Adds a rule, unless it need not be added. -/
def addRule (options : ApplyOptions) (step : Step) (rule : Rule) : Setup StepOutcome := do
  if ← isInstalled options step rule then
    note (.alreadyInstalled rule)
    return .alreadyPresent
  else
    make step (.append rule)
    return .applied

/-- One step of applying. -/
def applyStep (config : NatConfig) (options : ApplyOptions) (privilege : Privilege)
    (step : Step) : Setup StepOutcome := do
  requirePrivilege privilege step
  match step.rule config with
  | none =>
    make step (.setForwarding true)
    return .applied
  | some rule =>
    requireInterfaces step (if options.verifyInterfaces then step.interfaces config else [])
    addRule options step rule

/-- Switches forwarding on and installs the three rules. -/
def apply (config : NatConfig) (options : ApplyOptions) (privilege : Privilege) : Setup Report := do
  checkConfig config
  note (.applying config options.idempotent)
  perform (applyStep config options privilege) Step.applying

/-! ## Removing -/

/-- The most copies of one rule that are taken away. -/
def maxRemovals : Nat := 64

/-- Deletes copies of a rule while there are any, at most `budget` of them, and returns how many
have been deleted together with the `removed` ones before. -/
def removeCopies (step : Step) (rule : Rule) : (budget removed : Nat) → Setup Nat
  | 0, removed => do
    if ← ask step (.rule rule) then note (.givingUp rule removed)
    return removed
  | budget + 1, removed => do
    if ← ask step (.rule rule) then
      make step (.delete rule)
      removeCopies step rule budget (removed + 1)
    else
      return removed

/-- One step of removing. -/
def teardownStep (config : NatConfig) (disableForwarding : Bool) (privilege : Privilege)
    (step : Step) : Setup StepOutcome := do
  requirePrivilege privilege step
  match step.rule config with
  | none =>
    if disableForwarding then
      make step (.setForwarding false)
      return .applied
    else
      return .skipped
  | some rule =>
    let removed ← removeCopies step rule maxRemovals 0
    return if removed = 0 then .notPresent else .removed removed

/-- Deletes the copies of the three rules, and switches forwarding off if told to. -/
def teardown (config : NatConfig) (disableForwarding : Bool) (privilege : Privilege) :
    Setup Report := do
  checkConfig config
  note (.removing config)
  perform (teardownStep config disableForwarding privilege) Step.removing

end Setup

end GuestNat
