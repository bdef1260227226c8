import GuestNat.Decimal.Shortest
import GuestNat.Network.Subnet
import GuestNat.Text.Position
import GuestNat.Text.Quoted

/-!
# Faults of a settings document

A settings document is JSON. It is read from left to right and the first fault met counts:

- `malformed`: a character that cannot stand there;
- `truncated`: the text ends inside a value;
- `unacceptable`: so far well formed, but no settings.
-/

namespace GuestNat

/-- The settings that a document can hold. -/
inductive Field
  | tap
  | uplink
  | subnet
  | iptables
deriving DecidableEq, Repr

namespace Field

/-- All settings, in the order in which a document without names lists them. -/
def all : List Field := [tap, uplink, subnet, iptables]

def name : Field → String
  | tap => "tap_interface"
  | uplink => "uplink_interface"
  | subnet => "nat_subnet"
  | iptables => "iptables"

/-- The setting of a name. -/
def ofName? (name : String) : Option Field := all.find? (·.name = name)

end Field

/-- The values of a document that are no settings. -/
inductive WrongValue
  | null
  | boolean (value : Bool)
  | natural (value : Nat)
  | negative (magnitude : Nat)
  | real (isNegative : Bool) (magnitude : Decimal.Double)
  | string (value : String)
  | sequence
  | map
deriving DecidableEq

/-- Numbers with a point are written positionally from `0.00001` to below `10 ^ 16`. -/
def WrongValue.layout : Decimal.Layout := ⟨-5, 15⟩

/-- What a message says that it found. -/
def WrongValue.text : WrongValue → String
  | null => "null"
  | boolean true => "boolean `true`"
  | boolean false => "boolean `false`"
  | natural n => "integer `" ++ Decimal.text n ++ "`"
  | negative n => "integer `-" ++ Decimal.text n ++ "`"
  | real isNegative x => "floating point `" ++ layout.number isNegative x ++ "`"
  | string s => "string " ++ Text.quote s
  | sequence => "sequence"
  | map => "map"

/-- What a document has to hold in some place. -/
inductive Expected
  | settings
  | string
deriving DecidableEq, Repr

def Expected.text : Expected → String
  | settings => "struct FileConfig"
  | string => "a string"

/-- Why a document that is well formed so far holds no settings. -/
inductive Reason
  | unknownField (name : String)
  | duplicateField (field : Field)
  | wrongType (found : WrongValue) (expected : Expected)
  | badSubnet (fault : SubnetFault)
deriving DecidableEq

/-- The reason in words. Where it was found is no part of it, so a message about a subnet that ends
like a position in a document loses that end. -/
def Reason.text : Reason → String
  | unknownField name =>
    "unknown field `" ++ name ++ "`, expected one of " ++
      ", ".intercalate (Field.all.map fun field => "`" ++ field.name ++ "`")
  | duplicateField field => "duplicate field `" ++ field.name ++ "`"
  | wrongType found expected => "invalid type: " ++ found.text ++ ", expected " ++ expected.text
  | badSubnet fault => Text.withoutPosition ("invalid configuration: " ++ fault.message)

inductive DocumentFault
  | malformed
  | truncated
  | unacceptable (reason : Reason)
deriving DecidableEq

end GuestNat
