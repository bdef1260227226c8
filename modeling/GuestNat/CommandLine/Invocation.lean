import GuestNat.Settings.Settings
import GuestNat.Setup.Setup

/-!
# Invocations

What a command line asks for, and the ways in which reading one ends without an answer.
-/

namespace GuestNat

/-- What to do. -/
inductive Command
  | up (options : ApplyOptions)
  | down (disableForwarding : Bool)
  | status
deriving DecidableEq, Repr

structure Invocation where
  overrides : Overrides := {}
  /-- The settings file. -/
  config : Option String := none
  logLevel : String := "info"
  /-- Show the changes that would be made and make none. -/
  dryRun : Bool := false
  command : Option Command := none
deriving DecidableEq, Repr

/-- Without a command the setup is applied. -/
def Invocation.action (invocation : Invocation) : Command := invocation.command.getD (.up {})

/-- Why reading a command line ends without an invocation. -/
inductive UsageError
  | unknownArgument
  | invalidSubcommand
  /-- An option or a flag is repeated. -/
  | argumentConflict
  /-- An option has no value, or one that it cannot take. -/
  | invalidValue
  /-- A flag has a value. -/
  | tooManyValues
  | displayHelp
  | displayVersion
deriving DecidableEq, Repr

namespace UsageError

/-- Asking for help or for the version is no failure. -/
def exitCode : UsageError → Nat
  | displayHelp | displayVersion => 0
  | _ => 2

/-- The name and the version of the program. -/
def versionText : String := "tapnat 0.1.0\n"

end UsageError

end GuestNat
