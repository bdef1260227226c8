import GuestNat.Firewall.Command
import GuestNat.Host.Knob
import GuestNat.Host.Plan

/-!
# The host behind the files and the firewall command

A system has files and can start programs. A host is made from it by reading and writing the
forwarding knob, by looking for an interface in the directory where the kernel lists them, and by
running the firewall command for each question and change about rules.
-/

namespace GuestNat

/-- What the host needs of a system. -/
structure System (σ : Type) where
  /-- The content of a file. -/
  read : String → σ → Except OsError Bytes
  /-- Whether there is something under a name. -/
  contains : String → σ → Except OsError Bool
  /-- Opens a file. -/
  openFile : String → OpenMode → σ → Except OsError Handle × σ
  /-- Writes octets at the start of an open file. -/
  write : Handle → Bytes → σ → Except OsError Unit × σ
  /-- Runs a program to its end. -/
  start : String → List String → σ → Outcome × σ

/-- Where the host finds things. -/
structure Placement where
  knob : String := Knob.standardPath
  interfaces : String := "/sys/class/net"
  /-- The firewall command. -/
  firewall : String := "iptables"

namespace System

variable {σ : Type}

/-- The path that tells whether an interface exists. -/
def interfacePath (place : Placement) (name : String) : String := Path.join place.interfaces name

/-- Runs the firewall command and says what its end means. -/
def runFirewall {ρ : Type} (system : System σ) (place : Placement) (rule : Rule) (action : Action)
    (answer : (program command : String) → Outcome → Reply ρ) (s : σ) : Response σ ρ :=
  let command := FirewallCommand.describe place.firewall rule action
  let (outcome, s) := system.start place.firewall (FirewallCommand.arguments rule action) s
  { reply := answer place.firewall command outcome
    state := s
    events := [.runningCommand command] }

/-- Opens the knob and writes to it. -/
def overwriteKnob (system : System σ) (place : Placement) (on : Bool) (s : σ) : Reply Unit × σ :=
  match system.openFile place.knob Knob.openMode s with
  | (.error cause, s) => (.error (Knob.refused place.knob cause), s)
  | (.ok handle, s) =>
    let (result, s) := system.write handle (Knob.content on) s
    (result.mapError (Knob.refused place.knob), s)

/-- Writes the knob if it is there. -/
def writeKnob (system : System σ) (place : Placement) (on : Bool) (s : σ) : Response σ Unit :=
  match Knob.writable place.knob (system.contains place.knob s) with
  | .error e => { reply := .error e, state := s }
  | .ok () =>
    let (reply, s) := system.overwriteKnob place on s
    { reply, state := s, events := [.writingKnob place.knob on] }

/-- The host of a system. -/
def host (system : System σ) (place : Placement) : Host σ where
  ask
    | .forwarding, s => { reply := Knob.reading place.knob (system.read place.knob s), state := s }
    | .interface name, s =>
      { reply := (system.contains (interfacePath place name) s).mapError fun e => .io e.message
        state := s }
    | .rule rule, s => system.runFirewall place rule .check FirewallCommand.checkAnswer s
  make
    | .setForwarding on, s => system.writeKnob place on s
    | .append rule, s => system.runFirewall place rule .append FirewallCommand.changeAnswer s
    | .delete rule, s => system.runFirewall place rule .delete FirewallCommand.changeAnswer s

end System

end GuestNat
