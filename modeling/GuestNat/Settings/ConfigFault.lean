import GuestNat.Files.OsError
import GuestNat.Network.NatConfig
import GuestNat.Settings.DocumentFault

/-!
# Faults of a configuration

Everything that can be wrong with settings before a host is asked anything.
-/

namespace GuestNat

inductive ConfigFault
  | subnet (fault : SubnetFault)
  | interfaces (fault : InterfaceFault)
  | unreadable (path : String) (cause : OsError)
  /-- The settings file holds something else than settings; what exactly is no part of the
  message. -/
  | unparsable (path : String) (cause : DocumentFault)
  /-- A fault in the words of whoever found it. -/
  | stated (text : String)
deriving DecidableEq

def ConfigFault.message : ConfigFault → String
  | subnet fault => fault.message
  | interfaces fault => fault.message
  | unreadable path cause => "cannot read " ++ path ++ ": " ++ cause.message
  | unparsable path _ => "cannot parse " ++ path
  | stated text => text

end GuestNat
