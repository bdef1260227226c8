import GuestNat.Text.Blank
import GuestNat.Text.Quoted

/-!
# Names of network interfaces

The kernel keeps an interface name in sixteen octets with a NUL at the end and shows the interface
as a directory of that name. A name is therefore 1 to 15 octets long, is neither `.` nor `..`, and
holds no slash, no colon and no blank.
-/

namespace GuestNat

/-- Why a text is no interface name. -/
inductive NameFault
  | empty
  | tooLong (name : String)
  | reserved (name : String)
  | badCharacter (name : String)
deriving DecidableEq, Repr

namespace InterfaceName

/-- The greatest length in octets. -/
def maxSize : Nat := 15

/-- The characters that no interface name holds. -/
def isForbidden (c : Char) : Bool := c == '/' || c == ':' || Text.isBlank c

/-- Accepts the interface names. The first fault counts, in the order length, reserved names,
characters. -/
def check (name : String) : Except NameFault Unit :=
  if name.isEmpty then .error .empty
  else if maxSize < name.utf8ByteSize then .error (.tooLong name)
  else if name = "." ∨ name = ".." then .error (.reserved name)
  else if name.toList.any isForbidden then .error (.badCharacter name)
  else .ok ()

end InterfaceName

def NameFault.message : NameFault → String
  | .empty => "interface name is empty"
  | .tooLong name =>
    "interface name " ++ name ++ " is longer than " ++ toString InterfaceName.maxSize ++ " bytes"
  | .reserved name => "interface name " ++ name ++ " is reserved"
  | .badCharacter name =>
    "interface name " ++ Text.quote name ++ " contains an invalid character"

end GuestNat
