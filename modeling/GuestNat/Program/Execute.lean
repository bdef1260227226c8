import GuestNat.CommandLine.Invocation
import GuestNat.Host.Rehearsal
import GuestNat.Program.Task
import GuestNat.Setup.Status

/-!
# Carrying out a command

A command becomes a task that prints lines and ends with an exit status, or with a failure.

- `execute` carries a command out on the host.
- `rehearse` looks at the host, carries the command out on a copy in memory and keeps the copy; the
  host is only asked.
- `carryOut` chooses between the two and prints what the rehearsal would change.
-/

namespace GuestNat.Program

/-- Exit status 0 is for a command that did its work and for a status that finds nothing missing. -/
def success : Nat := 0

/-- The exit status of a status that finds something missing. -/
def notConfigured : Nat := 3

/-- The line behind the steps of a setup that was applied. -/
def activeLine (net : NatConfig) : String :=
  "NAT active: " ++ net.tap ++ " -> " ++ net.uplink ++ " for " ++ net.subnet.text

/-- Carries a command out and ends with its exit status. -/
def execute (privilege : Privilege) (command : Command) (net : NatConfig) : Task Nat :=
  match command with
  | .up options => do
    let report ← Task.ofSetup "failed to apply NAT configuration"
      (Setup.apply net options privilege)
    Task.print report.lines
    Task.print [activeLine net]
    return success
  | .down disableForwarding => do
    let report ← Task.ofSetup "failed to remove NAT configuration"
      (Setup.teardown net disableForwarding privilege)
    Task.print report.lines
    return success
  | .status => do
    let status ← (Status.probe net : Plan Status)
    Task.print status.lines
    return if status.health = .configured then success else notConfigured

/-! ## Rehearsals -/

/-- What a rehearsal started from, what it came to and the state it ended in. -/
structure Rehearsed where
  seed : Rehearsal
  result : Printed Nat
  final : Rehearsal

/-- Carries a command out on a copy of the host. -/
def rehearse (command : Command) (net : NatConfig) : Plan Rehearsed := do
  let seed := Rehearsal.ofStatus (← Status.probe net)
  let run := (execute .elevated command net).run.run Rehearsal.host seed
  Plan.noteAll run.events
  return { seed, result := run.value, final := run.state }

/-- The lines that show what a rehearsal would change. -/
def planLines (final : Rehearsal) : List String :=
  "Dry run; would perform:" :: final.changes.map ("  " ++ ·.text)

/-- The rehearsal of a command as a task. -/
def rehearsal (command : Command) (net : NatConfig) : Task Nat := do
  let rehearsed ← (rehearse command net : Plan Rehearsed)
  let exitCode ← Task.replay rehearsed.result
  Task.print (planLines rehearsed.final)
  return exitCode

/-- An event that is reported where the privilege is not enough. -/
def warn (privilege : Privilege) (event : Event) : Plan Unit :=
  if privilege = .unprivileged then .note event (pure ()) else pure ()

/-- Carries a command out, or rehearses it. A status changes nothing, so a rehearsal of one is the
thing itself. -/
def carryOut (privilege : Privilege) (dryRun : Bool) (command : Command) (net : NatConfig) :
    Task Nat :=
  if dryRun ∧ command ≠ .status then do
    warn privilege .rehearsingUnprivileged
    rehearsal command net
  else do
    warn privilege .runningUnprivileged
    execute privilege command net

end GuestNat.Program
