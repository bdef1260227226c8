import GuestNat.Network.NatConfig

/-!
# Firewall rules

A rule is a table, a chain of that table, and the words that say what the rule matches and where it
sends a packet. Rules are equal when these three are.
-/

namespace GuestNat

/-- The tables that the setup puts rules into. -/
inductive Table
  | filter
  | nat
deriving DecidableEq, Repr

def Table.name : Table → String
  | .filter => "filter"
  | .nat => "nat"

/-- One rule of the packet filter. -/
structure Rule where
  table : Table
  chain : String
  args : List String
deriving DecidableEq

/-- What the firewall command is asked to do with a rule. -/
inductive Action
  | append
  | check
  | delete
deriving DecidableEq, Repr

/-- The flag that asks for an action. -/
def Action.flag : Action → String
  | .append => "-A"
  | .check => "-C"
  | .delete => "-D"

namespace Rule

/-- Accepts forwarded packets that leave through the TAP interface. -/
def acceptTo (tap : String) : Rule := ⟨.filter, "FORWARD", ["-o", tap, "-j", "ACCEPT"]⟩

/-- Accepts forwarded packets that arrive on the TAP interface. -/
def acceptFrom (tap : String) : Rule := ⟨.filter, "FORWARD", ["-i", tap, "-j", "ACCEPT"]⟩

/-- Masquerades the subnet's packets that leave through the uplink. -/
def masquerade (subnet : Subnet) (uplink : String) : Rule :=
  ⟨.nat, "POSTROUTING", ["-s", subnet.text, "-o", uplink, "-j", "MASQUERADE"]⟩

/-- The words of the firewall command for an action flag. -/
def commandArgs (rule : Rule) (flag : String) : List String :=
  "-t" :: rule.table.name :: flag :: rule.chain :: rule.args

/-- The rule as one line of text. -/
def text (rule : Rule) : String :=
  "-t " ++ rule.table.name ++ " " ++ rule.chain ++ " " ++ Text.joinWords rule.args

end Rule

end GuestNat
