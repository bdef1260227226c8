import GuestNat.Setup.Setup
import GuestNat.Text.Search

/-!
# The privilege of a process

Only the user with number 0 may change the host. A process finds its users in a status text of the
kernel, where the line `Uid:` lists the real and then the effective one.
-/

namespace GuestNat.Privilege

/-- The privilege of a user number. -/
def ofUser (number : Nat) : Privilege := if number = 0 then .elevated else .unprivileged

/-- The effective user in the status text of a process. -/
def effectiveUser? (status : String) : Option Nat :=
  (Text.fields '\n' status.toList).findSome? fun line =>
    match Text.words (.ofList line) with
    | "Uid:" :: _ :: effective :: _ => effective.toNat?
    | _ => none

/-- The privilege that a status text shows; without a user there is none. -/
def ofStatus (status : String) : Privilege :=
  match effectiveUser? status with
  | some number => ofUser number
  | none => .unprivileged

end GuestNat.Privilege
