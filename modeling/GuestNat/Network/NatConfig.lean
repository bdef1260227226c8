import GuestNat.Network.Subnet
import GuestNat.Network.InterfaceName

/-!
# What the network setup is about

The interface the guests' traffic arrives on, the uplink it leaves through, and the subnet whose
addresses are rewritten on the way.
-/

namespace GuestNat

/-- The two interfaces and the subnet of one setup. -/
structure NatConfig where
  tap : String := "tap0"
  uplink : String := "enp1s0"
  subnet : Subnet := ⟨.ofOctets 192 0 2 0, 24⟩
deriving DecidableEq

/-- Why the interfaces of a configuration cannot be used. -/
inductive InterfaceFault
  | badName (fault : NameFault)
  | same (name : String)
deriving DecidableEq, Repr

def InterfaceFault.message : InterfaceFault → String
  | .badName fault => fault.message
  | .same name => "TAP and uplink interface are both " ++ name

/-- Accepts a configuration whose interfaces have proper names and differ. -/
def NatConfig.check (config : NatConfig) : Except InterfaceFault Unit := do
  (InterfaceName.check config.tap).mapError .badName
  (InterfaceName.check config.uplink).mapError .badName
  if config.tap = config.uplink then .error (.same config.tap) else .ok ()

end GuestNat
