import GuestNat.CommandLine.Reader
import GuestNat.Host.Machine
import GuestNat.Program.Execute

/-!
# An invocation on a machine

The settings file is read first, then the layers of settings are put together, and only then is the
host of the machine asked anything.
-/

namespace GuestNat.Program

/-- What of an environment settings depend on, apart from the options. -/
structure Surroundings where
  /-- The directory for settings. -/
  configHome : Option String := none
  home : Option String := none

namespace Surroundings

/-- The default settings file. -/
def defaultPath (surroundings : Surroundings) : Option String :=
  Settings.defaultPath surroundings.configHome surroundings.home

end Surroundings

/-- The settings of a file that was named. -/
def loadFile (machine : Machine) (path : String) : Except ConfigFault FileSettings :=
  FileSettings.ofContent path (machine.files.read machine.cwd path)

/-- The settings of the default file, or none where there is no such file or it cannot be looked
for. -/
def loadDefault (machine : Machine) (surroundings : Surroundings) :
    Except ConfigFault FileSettings :=
  match surroundings.defaultPath with
  | none => .ok {}
  | some path =>
    match machine.files.contains machine.cwd path with
    | .ok true => loadFile machine path
    | _ => .ok {}

/-- All settings of an invocation. -/
def settings (machine : Machine) (surroundings : Surroundings) (invocation : Invocation) :
    Except ConfigFault Settings := do
  let file ←
    match invocation.config with
    | some path => loadFile machine path
    | none => loadDefault machine surroundings
  Settings.resolve invocation.overrides file

/-- What an invocation comes to on a machine, the machine after it, and the log. -/
def invoke (machine : Machine) (surroundings : Surroundings) (privilege : Privilege)
    (invocation : Invocation) : Run Machine (Printed Nat) :=
  match settings machine surroundings invocation with
  | .error fault => ⟨⟨[], .error { error := .config fault }⟩, machine, []⟩
  | .ok settings =>
    let host := Machine.system.host { firewall := settings.iptables }
    (carryOut privilege invocation.dryRun invocation.action settings.net).run.run host machine

end GuestNat.Program
