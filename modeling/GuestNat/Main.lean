import GuestNat.CommandLine.Reader
import GuestNat.Host.System
import GuestNat.Program.Console
import GuestNat.Program.Execute
import GuestNat.Program.Privileges

/-!
# The command line program

Reads the command line, the settings file and the environment, and carries the command out on the
host it runs on.

The program starts no other program. Each run of the firewall command is handed to the caller: the
words go to standard error in one line behind `run:`, and the caller answers on standard input with
a line that holds the exit status and a line with the error text. Where no answer comes, the command
counts as not found.
-/

namespace GuestNat.Main

/-- What the operating system's refusal means. -/
def refusal : IO.Error → OsError
  | .noFileOrDirectory .. => .notFound
  | .permissionDenied .. => .permissionDenied
  | e => .other (toString e)

/-- An action whose refusal is a value. -/
def attempt {α : Type} (action : IO α) : IO (Except OsError α) := do
  match ← action.toBaseIO with
  | .ok a => return .ok a
  | .error e => return .error (refusal e)

/-- The content of a file. -/
def readFile (path : String) : IO (Except OsError Bytes) :=
  attempt do return (← IO.FS.readBinFile path).toList

/-- Whether there is something under a name. -/
def isThere (path : String) : IO (Except OsError Bool) := do
  match ← attempt (IO.FS.realPath path) with
  | .ok _ => return .ok true
  | .error .notFound => return .ok false
  | .error e => return .error e

/-- Opens a file for writing. -/
def openFile (path : String) (mode : OpenMode) : IO (Except OsError IO.FS.Handle) := do
  if mode.write then
    attempt do
      -- opening for more to be appended makes a file that is not there
      if mode.create then discard (IO.FS.Handle.mk path .append)
      -- of the modes at hand, the others that write make a file or empty it by themselves
      let handle ← IO.FS.Handle.mk path .readWrite
      if mode.truncate then handle.truncate
      return handle
  else
    return .error .invalidArgument

/-- Writes octets at the start of an open file. -/
def write (handle : IO.FS.Handle) (octets : Bytes) : IO (Except OsError Unit) :=
  attempt do
    handle.write ⟨octets.toArray⟩
    handle.flush

/-- Hands one run of a program to the caller. -/
def handOver (program : String) (args : List String) : IO Outcome := do
  IO.eprintln ("run: " ++ Text.joinWords (program :: args))
  let input ← IO.getStdin
  match (Text.trim (← input.getLine)).toNat? with
  | some status => return .exited status (← input.getLine).toUTF8.toList
  | none => return .notStarted .notFound

/-! ## The host -/

/-- Shows an event, if the log is to show it. -/
def log (filter : Program.LogFilter) (event : Event) : IO Unit :=
  if filter.shows event then IO.eprintln (Program.Log.line event) else pure ()

/-- Runs the firewall command and says what its end means. -/
def runFirewall {ρ : Type} (filter : Program.LogFilter) (place : Placement) (rule : Rule)
    (action : Action) (answer : (program command : String) → Outcome → Reply ρ) : IO (Reply ρ) := do
  let command := FirewallCommand.describe place.firewall rule action
  log filter (.runningCommand command)
  let outcome ← handOver place.firewall (FirewallCommand.arguments rule action)
  return answer place.firewall command outcome

/-- Answers a question. -/
def ask (filter : Program.LogFilter) (place : Placement) : Question → IO (Reply Bool)
  | .forwarding => do return Knob.reading place.knob (← readFile place.knob)
  | .interface name => do
    return (← isThere (System.interfacePath place name)).mapError fun e => .io e.message
  | .rule rule => runFirewall filter place rule .check FirewallCommand.checkAnswer

/-- Makes a change. -/
def make (filter : Program.LogFilter) (place : Placement) : Change → IO (Reply Unit)
  | .setForwarding on => do
    match Knob.writable place.knob (← isThere place.knob) with
    | .error e => return .error e
    | .ok () =>
      log filter (.writingKnob place.knob on)
      match ← openFile place.knob Knob.openMode with
      | .error cause => return .error (Knob.refused place.knob cause)
      | .ok handle =>
        return (← write handle (Knob.content on)).mapError (Knob.refused place.knob)
  | .append rule => runFirewall filter place rule .append FirewallCommand.changeAnswer
  | .delete rule => runFirewall filter place rule .delete FirewallCommand.changeAnswer

/-- Carries a plan out on the host. -/
def perform {α : Type} (filter : Program.LogFilter) (place : Placement) : Plan α → IO α
  | .done a => return a
  | .note event next => do
    log filter event
    perform filter place next
  | .ask question next => do
    let reply ← ask filter place question
    perform filter place (next reply)
  | .make change next => do
    let reply ← make filter place change
    perform filter place (next reply)

/-! ## Settings -/

/-- The settings of a file that was named. -/
def loadFile (path : String) : IO (Except ConfigFault FileSettings) := do
  return FileSettings.ofContent path (← readFile path)

/-- The settings of the default file, or none where there is no such file. -/
def loadDefault : IO (Except ConfigFault FileSettings) := do
  match Settings.defaultPath (← IO.getEnv "XDG_CONFIG_HOME") (← IO.getEnv "HOME") with
  | none => return .ok {}
  | some path =>
    match ← isThere path with
    | .ok true => loadFile path
    | _ => return .ok {}

/-- All settings of an invocation. -/
def loadSettings (invocation : Invocation) : IO (Except ConfigFault Settings) := do
  let file ←
    match invocation.config with
    | some path => loadFile path
    | none => loadDefault
  return file.bind (Settings.resolve invocation.overrides)

/-- The variables that options take their values from. -/
def environment : IO CommandLine.Environment := do
  let values ← CommandLine.ValueOption.all.mapM fun option => do
    return (option.envName, ← IO.getEnv option.envName)
  return fun name => (values.lookup name).join

/-! ## The program -/

/-- Carries an invocation out. -/
def run (filter : Program.LogFilter) (invocation : Invocation) : IO (Program.Printed Nat) := do
  match ← loadSettings invocation with
  | .error fault => return ⟨[], .error { error := .config fault }⟩
  | .ok settings =>
    let status := (← attempt (IO.FS.readFile "/proc/self/status")).toOption.getD ""
    let task := Program.carryOut (.ofStatus status) invocation.dryRun invocation.action settings.net
    perform filter { firewall := settings.iptables } task.run

/-- What a settings file holds instead of settings. -/
def documentFault (printed : Program.Printed Nat) : Option String :=
  match printed.result with
  | .error { error := .config (.unparsable _ (.unacceptable reason)), .. } => some reason.text
  | _ => none

/-- Says how a run ended, apart from its output. The events before the end have been shown. -/
def complain (filter : Program.LogFilter) (printed : Program.Printed Nat) : IO Unit := do
  for remark in (documentFault printed).toList ++ Program.remarks filter [] printed do
    IO.eprintln remark

end GuestNat.Main

open GuestNat in
/-- Carries out what the command line asks for and returns the exit status. -/
def main (args : List String) : IO UInt32 := do
  match CommandLine.read (← Main.environment) args with
  | .error .displayVersion =>
    IO.print UsageError.versionText
    return 0
  | .error e => return e.exitCode.toUInt32
  | .ok invocation =>
    match Program.LogFilter.choose [invocation.logLevel] with
    | none => return Program.brokenOff.toUInt32
    | some filter =>
      let printed ← Main.run filter invocation
      Main.complain filter printed
      let ending := Program.finish printed
      IO.print (Program.unlines ending.output)
      return ending.exitCode.toUInt32
