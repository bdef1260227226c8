import GuestNat.Settings.ConfigFault

/-!
# The settings of a file

A settings file names some of the settings and leaves the others open.
-/

namespace GuestNat

structure FileSettings where
  tap : Option String := none
  uplink : Option String := none
  subnet : Option Subnet := none
  iptables : Option String := none
deriving DecidableEq

namespace FileSettings

/-- The settings with one of them given by a text, or left open by none. -/
def set (settings : FileSettings) (field : Field) (value : Option String) :
    Except SubnetFault FileSettings :=
  match field with
  | .tap => .ok { settings with tap := value }
  | .uplink => .ok { settings with uplink := value }
  | .iptables => .ok { settings with iptables := value }
  | .subnet =>
    match value with
    | none => .ok { settings with subnet := none }
    | some cidr => (Subnet.parse cidr).map fun subnet => { settings with subnet := some subnet }

end FileSettings

end GuestNat
