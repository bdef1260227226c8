import GuestNat.Firewall.Rule
import GuestNat.Files.FileTree
import GuestNat.Host.HostError
import GuestNat.Text.Utf8

/-!
# Running the firewall command

What the end of one run of the command means.

- A run that ended with status 0 did what was asked.
- `-C` answers "no" only by status 1 together with the message that no rule matches; any other end
  is an error.
- Of the phrases that tell errors apart, a refused permission counts before a missing interface, and
  that before everything else.
-/

namespace GuestNat

/-- How one run of a command ended. -/
inductive Outcome
  | notStarted (cause : OsError)
  | exited (status : Nat) (stderr : Bytes)
  | killed (signal : Nat) (stderr : Bytes)
deriving DecidableEq, Repr

namespace FirewallCommand

/-- The command without the flag that waits for the lock, as messages show it. -/
def describe (program : String) (rule : Rule) (action : Action) : String :=
  program ++ " " ++ Text.joinWords (rule.commandArgs action.flag)

/-- The words handed to the program. `-w` waits for the lock that another run may hold. -/
def arguments (rule : Rule) (action : Action) : List String :=
  "-w" :: rule.commandArgs action.flag

/-- The status by which `-C` says that no rule matches. -/
def noMatchStatus : Nat := 1

/-! ## Phrases -/

def saysPermission (stderr : String) : Bool :=
  Text.occursIn "Permission denied" stderr || Text.occursIn "must be root" stderr ||
    Text.occursIn "Operation not permitted" stderr

/-- The chain was searched and holds no such rule. A missing chain, target or match module ends
with the same status but not with these words. -/
def saysNoMatch (stderr : String) : Bool :=
  Text.occursIn "Bad rule" stderr || Text.occursIn "does a matching rule exist" stderr

def saysNoDevice (stderr : String) : Bool :=
  Text.occursIn "No such device" stderr || Text.occursIn "Cannot find device" stderr

/-! ## Which interface is missing -/

/-- The words that follow `-i` or `-o`. -/
def flagged : List String → List String
  | a :: b :: rest =>
    if a = "-i" ∨ a = "-o" then b :: flagged (b :: rest) else flagged (b :: rest)
  | _ => []

/-- The interface of a command that the error text names, else the first one of the command. -/
def missingInterface (command stderr : String) : String :=
  let names := flagged (Text.words command)
  match names.find? (Text.occursIn · stderr) with
  | some name => name
  | none => names.headD "unknown"

/-! ## Answers -/

/-- The error behind a run that failed. -/
def classify (command stderr : String) : HostError :=
  if saysPermission stderr then .permissionDenied
  else if saysNoDevice stderr then .interfaceNotFound (missingInterface command stderr)
  else .ruleRejected command (Text.trim stderr)

/-- The error behind a run that did not begin. -/
def startError (program command : String) : OsError → HostError
  | .notFound => .unsupportedPlatform (program ++ " not found; is iptables installed?")
  | .permissionDenied => .permissionDenied
  | cause => .commandFailed command cause.message

/-- What a run that appends or deletes a rule comes to. -/
def changeAnswer (program command : String) : Outcome → Except HostError Unit
  | .notStarted cause => .error (startError program command cause)
  | .exited 0 _ => .ok ()
  | .exited _ stderr => .error (classify command (Text.Utf8.decodeLossy stderr))
  | .killed _ stderr => .error (classify command (Text.Utf8.decodeLossy stderr))

/-- What a run that looks for a rule comes to. -/
def checkAnswer (program command : String) : Outcome → Except HostError Bool
  | .notStarted cause => .error (startError program command cause)
  | .exited 0 _ => .ok true
  | .exited status bytes =>
    let stderr := Text.Utf8.decodeLossy bytes
    if status = noMatchStatus ∧ saysNoMatch stderr ∧ !saysPermission stderr then .ok false
    else .error (classify command stderr)
  | .killed _ stderr => .error (classify command (Text.Utf8.decodeLossy stderr))

end FirewallCommand

end GuestNat
