import GuestNat.Program.LogFilter
import GuestNat.Program.Task

/-!
# What a program shows

A program prints the lines of its task on standard output. On standard error it shows its log, then
an event about the step where it stopped, and then the complaint about a failure.
-/

namespace GuestNat.Program

/-- How a program ends: what it prints, what it says about a failure, its exit status. -/
structure End where
  output : List String
  complaint : Option String
  exitCode : Nat
deriving DecidableEq, Repr

/-- The end of a task. -/
def finish (printed : Printed Nat) : End :=
  match printed.result with
  | .ok exitCode => ⟨printed.lines, none, exitCode⟩
  | .error failure => ⟨printed.lines, some ("Error: " ++ failure.text), failure.exitCode⟩

/-- Lines as a text, each with a line feed behind it. -/
def unlines (lines : List String) : String := String.join (lines.map (· ++ "\n"))

/-! ## The log -/

namespace Log

def fieldText : String × FieldValue → String
  | (name, .text value) => name ++ "=" ++ value
  | (name, .flag value) => name ++ "=" ++ toString value

/-- An event as text, with its fields behind the message. -/
def line (event : Event) : String :=
  Text.joinWords (event.level.name :: event.message :: event.fields.map fieldText)

/-- What a filter shows of events. -/
def lines (filter : LogFilter) (events : List Event) : List String :=
  (events.filter filter.shows).map line

end Log

/-- The event that closes the log of a run. -/
def closing (printed : Printed Nat) : List Event :=
  match printed.result with
  | .error failure => failure.error.step?.toList.map .stopped
  | .ok _ => []

/-- All that a run says besides its output. -/
def remarks (filter : LogFilter) (events : List Event) (printed : Printed Nat) : List String :=
  Log.lines filter (events ++ closing printed) ++ (finish printed).complaint.toList

/-- The exit status of a program that ends on the way to its log. -/
def brokenOff : Nat := 101

end GuestNat.Program
