/-!
# Errors of a host

Why a host did not do what it was asked to do, by cause.
-/

namespace GuestNat

inductive HostError
  | permissionDenied
  | interfaceNotFound (name : String)
  | unsupportedPlatform (detail : String)
  | ruleRejected (command message : String)
  | commandFailed (command message : String)
  /-- A failed read or write; the text is the operating system's. -/
  | io (text : String)
deriving DecidableEq, Repr

namespace HostError

def message : HostError → String
  | permissionDenied => "permission denied (run as root)"
  | interfaceNotFound name => "interface " ++ name ++ " not found"
  | unsupportedPlatform detail => "unsupported platform: " ++ detail
  | ruleRejected command text => "rule rejected: " ++ command ++ " - " ++ text
  | commandFailed command text => "command failed: " ++ command ++ " - " ++ text
  | io text => "IO error: " ++ text

/-- The message of what lies behind the error, where something does. -/
def cause? : HostError → Option String
  | io text => some text
  | _ => none

end HostError

end GuestNat
