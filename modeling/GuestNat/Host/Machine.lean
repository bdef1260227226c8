import GuestNat.Firewall.RuleKeeper
import GuestNat.Host.System

/-!
# A machine as a value

A system whose files are a tree and whose only program is a firewall command that keeps its rules in
a list. Every executable file of the tree is that command.
-/

namespace GuestNat

structure Machine where
  files : FileTree := {}
  /-- The directory that relative names start from. -/
  cwd : Location := []
  /-- The directories that programs are looked for in. -/
  searchPath : List String := []
  firewall : RuleKeeper := {}

namespace Machine

/-- Whether a text holds a NUL, which no program name and no argument can. -/
def hasNul (s : String) : Bool := s.toList.contains '\x00'

/-- Runs a program. -/
def start (machine : Machine) (program : String) (args : List String) : Outcome × Machine :=
  if (program :: args).any hasNul then (.notStarted .nulInCommand, machine)
  else
    match machine.files.startProgram machine.cwd machine.searchPath program with
    | .error e => (.notStarted e, machine)
    | .ok () =>
      let (outcome, firewall) := machine.firewall.invoke args
      (outcome, { machine with firewall })

/-- Opens a file. -/
def openFile (machine : Machine) (path : String) (mode : OpenMode) :
    Except OsError Handle × Machine :=
  match machine.files.openFile machine.cwd path mode with
  | .error e => (.error e, machine)
  | .ok (handle, files) => (.ok handle, { machine with files })

/-- Writes to an open file. There is always room for what is written. -/
def write (machine : Machine) (handle : Handle) (octets : Bytes) : Except OsError Unit × Machine :=
  (.ok (), { machine with files := machine.files.write handle octets })

def system : System Machine where
  read path machine := machine.files.read machine.cwd path
  contains path machine := machine.files.contains machine.cwd path
  openFile path mode machine := machine.openFile path mode
  write handle octets machine := machine.write handle octets
  start program args machine := machine.start program args

end Machine

end GuestNat
