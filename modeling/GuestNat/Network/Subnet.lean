import GuestNat.Text.Blank
import GuestNat.Text.Search
import GuestNat.Decimal.Numeral

/-!
# IPv4 subnets

A subnet is an address with a prefix length, written `192.0.2.0/24`. Reading one clears the host
bits, which is how a firewall lists it.

- `Subnet.parse` reads a text; `SubnetFault` says why it refuses one.
- `Subnet.text` writes a subnet.
- `Subnet.Masked` says that no host bit is set.
-/

namespace GuestNat

/-- An IPv4 address. -/
abbrev Address := BitVec 32

namespace Address

/-- The address `a.b.c.d`. -/
def ofOctets (a b c d : Nat) : Address := .ofNat 32 (((a * 256 + b) * 256 + c) * 256 + d)

/-- The four octets of an address, the highest first. -/
def octets (address : Address) : List Nat :=
  let n := address.toNat
  [n / 256 / 256 / 256, n / 256 / 256 % 256, n / 256 % 256, n % 256]

/-- The address as four decimal octets with points between them. -/
def text (address : Address) : String := ".".intercalate (address.octets.map Decimal.text)

end Address

/-- An address and the number of leading bits that name the network. -/
structure Subnet where
  address : Address
  length : Fin 33
deriving DecidableEq

/-- Why a text names no subnet. Each fault holds the text without surrounding blanks. -/
inductive SubnetFault
  | noSlash (cidr : String)
  | badLength (cidr : String)
  | badAddress (cidr : String)
deriving DecidableEq, Repr

def SubnetFault.message : SubnetFault → String
  | .noSlash cidr => "missing '/' in CIDR: " ++ cidr
  | .badLength cidr => "invalid prefix length in CIDR: " ++ cidr
  | .badAddress cidr => "invalid CIDR " ++ cidr ++ ": invalid IP address syntax"

namespace Subnet

/-- The address with `length` leading ones and zeros behind them. -/
def mask (length : Nat) : Address := BitVec.allOnes 32 <<< (32 - length)

/-- The subnet with its host bits cleared. -/
def masked (subnet : Subnet) : Subnet :=
  { subnet with address := subnet.address &&& mask subnet.length }

/-- No host bit is set. -/
def Masked (subnet : Subnet) : Prop := subnet.masked = subnet

instance (subnet : Subnet) : Decidable subnet.Masked := by
  unfold Masked; infer_instance

/-- The subnet in the notation `address/length`. -/
def text (subnet : Subnet) : String :=
  subnet.address.text ++ "/" ++ Decimal.text subnet.length

/-! ## Reading -/

/-- One octet: one to three digits for a number below 256. Leading zeros do not matter. -/
def octet? (ds : List Char) : Option Nat :=
  if 1 ≤ ds.length ∧ ds.length ≤ 3 ∧ ds.all Decimal.isDigit ∧ Decimal.value ds < 256 then
    some (Decimal.value ds)
  else none

/-- Four octets with points between them. -/
def address? (cs : List Char) : Option Address :=
  match Text.fields '.' cs with
  | [a, b, c, d] => do
    return .ofOctets (← octet? a) (← octet? b) (← octet? c) (← octet? d)
  | _ => none

/-- Digits without a sign and without leading zeros. -/
def isCanonicalLength (ds : List Char) : Bool :=
  !ds.isEmpty && ds.all Decimal.isDigit && (ds == ['0'] || ds.head? != some '0')

/-- The subnet named by a text that has no blanks around it. -/
def parseTrimmed (s : String) : Except SubnetFault Subnet :=
  match Text.splitOnce '/' s.toList with
  | none => .error (.noSlash s)
  | some (front, ds) =>
    if isCanonicalLength ds then
      match address? front with
      | none => .error (.badAddress s)
      | some address =>
        if h : Decimal.value ds < 33 then .ok (masked ⟨address, ⟨Decimal.value ds, h⟩⟩)
        else .error (.badAddress s)
    else .error (.badLength s)

/-- The subnet named by a text, without its host bits. Blanks around the text do not matter. -/
def parse (s : String) : Except SubnetFault Subnet := parseTrimmed (Text.trim s)

end Subnet

end GuestNat
