import GuestNat.Host.Event
import GuestNat.Text.Blank
import GuestNat.Text.Pattern
import GuestNat.Text.Place
import GuestNat.Text.Properties

/-!
# Log filters

A filter says which events a log shows. It consists of directives with commas between them:

- a level, for all events;
- `origin=level`, for the events whose origin starts with that text; without a level all of them are
  shown;
- `origin[scope{field}]=level`, for the events that also have that field. The origin may be missing,
  and so may the scope or the field with its braces.

Nothing here happens within a named scope, so a directive with a scope, or with a value for its
field, is about no event. Of the directives about an event the one with the longest origin decides,
then the one with a field.

Places in a directive are counted from its first character that is not blank, but looked up from its
very beginning. So blanks in front shift what is read, possibly into the middle of a character,
which ends the program.
-/

namespace GuestNat.Program

/-! ## Levels -/

/-- How much a level shows: errors alone are one. -/
def verbosity : Level → Nat
  | .error => 1
  | .warn => 2
  | .info => 3
  | .debug => 4

/-- The verbosity that shows everything. -/
def everything : Nat := 5

/-- The verbosity of a numeral, with or without a plus sign. -/
def verbosityOfNumeral? (cs : List Char) : Option Nat :=
  let digits := if cs.head? = some '+' then cs.tail else cs
  if !digits.isEmpty && digits.all Decimal.isDigit && Decimal.value digits ≤ everything then
    some (Decimal.value digits)
  else none

/-- The verbosity that a text names, as a numeral or as a word in any case of letters. -/
def verbosity? (cs : List Char) : Option Nat :=
  match (String.ofList cs).toLower with
  | "off" => some 0
  | "error" => some (verbosity .error)
  | "warn" => some (verbosity .warn)
  | "info" => some (verbosity .info)
  | "debug" => some (verbosity .debug)
  | "trace" => some everything
  | _ => verbosityOfNumeral? cs

/-! ## Directives -/

/-- A field that an event has to have, and whether a value is asked of it. -/
structure FieldDemand where
  name : String
  hasValue : Bool
deriving DecidableEq, Repr

structure Directive where
  origin : Option String := none
  scope : Option String := none
  field : Option FieldDemand := none
  verbosity : Nat := everything
deriving DecidableEq, Repr

namespace Directive

/-- Whether a directive is about an event. -/
def concerns (directive : Directive) (event : Event) : Bool :=
  directive.scope.isNone &&
    directive.origin.all (·.toList.isPrefixOf event.origin.toList) &&
    directive.field.all fun field => !field.hasValue && event.fieldNames.contains field.name

/-- How long an origin is, none being shorter than all. -/
def originRank (directive : Directive) : Nat :=
  match directive.origin with
  | none => 0
  | some origin => origin.utf8ByteSize + 1

/-- The texts that decide where nothing else does. -/
def texts (directive : Directive) : List String :=
  directive.origin.toList ++ (directive.field.map (·.name)).toList

/-- Whether a directive is more specific than another one. -/
def isSharper (directive other : Directive) : Bool :=
  let fields (d : Directive) : Nat := d.field.toList.length
  if directive.originRank ≠ other.originRank then other.originRank < directive.originRank
  else if fields directive ≠ fields other then fields other < fields directive
  else other.texts < directive.texts

end Directive

/-! ## Reading -/

/-- Why a text is no filter. -/
inductive FilterFault
  | unreadable
  /-- A place lies inside a character. -/
  | misplaced
deriving DecidableEq, Repr

/-- What is cut out at places that may lie inside a character. -/
def piece (found : Option (List Char)) : Except FilterFault (List Char) :=
  match found with
  | some cs => .ok cs
  | none => .error .misplaced

/-- Whether a text is a value that may be asked of a field: a number or a pattern. -/
def isFieldValue (cs : List Char) : Bool :=
  (cs.head? = some '+' && Decimal.isReal cs.tail) || Text.isPattern cs

/-- Reads a demand: a name, or a name with a value. Whatever follows a second equals sign is of no
effect. -/
def readField (cs : List Char) : Except FilterFault FieldDemand :=
  if cs.isEmpty then .error .unreadable
  else
    match Text.fields '=' cs with
    | name :: value :: _ =>
      if isFieldValue value then .ok ⟨.ofList name, true⟩ else .error .unreadable
    | _ => .ok ⟨.ofList cs, false⟩

/-- Reads the level behind an equals sign. -/
def readVerbosity (cs : List Char) : Except FilterFault Nat :=
  if cs.isEmpty then .ok everything
  else
    match verbosity? cs with
    | some n => .ok n
    | none => .error .unreadable

/-- Reads what follows the brackets of a word, from a place in the word on. -/
def readEnd (word : List Char) (directive : Directive) (place : Nat) :
    List Char → Except FilterFault Directive
  | [] => .ok directive
  | '=' :: _ => do
    return { directive with verbosity := ← readVerbosity (← piece (Text.cutFrom word (place + 1))) }
  | _ => .error .unreadable

/-- Reads what stands between braces, and what follows. -/
def readBraces (word : List Char) (directive : Directive) (place : Nat) (cs : List Char) :
    Except FilterFault Directive :=
  match Text.findFirst ['}'] place cs with
  | none => .error .unreadable
  | some (stop, _, behind) => do
    let field ← readField (← piece (Text.cut word place stop))
    match behind with
    | ']' :: rest => readEnd word { directive with field := some field } (stop + 2) rest
    | _ => .error .unreadable

/-- Reads what stands between brackets, and what follows. -/
def readBrackets (word : List Char) (directive : Directive) (place : Nat) (cs : List Char) :
    Except FilterFault Directive :=
  match Text.findFirst [']', '{'] place cs with
  | none => .error .unreadable
  | some (stop, mark, behind) => do
    let scope ← piece (Text.cut word place stop)
    if mark = ']' then
      readEnd word { directive with scope := some (.ofList scope) } (stop + 1) behind
    else
      let scope := if scope.isEmpty then none else some (String.ofList scope)
      readBraces word { directive with scope } (stop + 1) behind

/-- Whether an origin or a level may start with a character. -/
def isStart (c : Char) : Bool := c = '-' || c = ':' || c = '_' || Text.isAlphanumeric c

/-- Reads one directive. -/
def Directive.read (word : List Char) : Except FilterFault Directive :=
  match Text.trimChars word with
  | [] => .error .unreadable
  | '[' :: cs => readBrackets word {} 1 cs
  | c :: cs =>
    if !isStart c then .error .unreadable
    else
      match Text.findFirst ['=', '['] 0 (c :: cs) with
      | none =>
        match verbosity? word with
        | some verbosity => .ok { verbosity }
        | none => .ok { origin := some (.ofList word) }
      | some (stop, mark, behind) => do
        let origin ← piece (Text.cut word 0 stop)
        let directive : Directive := { origin := some (.ofList origin) }
        if mark = '=' then readEnd word directive stop (mark :: behind)
        else readBrackets word directive (stop + 1) behind

/-! ## Filters -/

/-- The directives of a filter. -/
abbrev LogFilter := List Directive

namespace LogFilter

/-- The filter that stands in where none can be read. -/
def standard : LogFilter := [{ verbosity := verbosity .info }]

/-- Reads a filter. Empty directives are skipped. -/
def read (text : String) : Except FilterFault LogFilter :=
  ((Text.fields ',' text.toList).filter (!·.isEmpty)).mapM Directive.read

/-- The first readable one of some texts, or the standard filter. None is found if reading comes to
a place inside a character. -/
def choose : List String → Option LogFilter
  | [] => some standard
  | text :: rest =>
    match read text with
    | .ok filter => some filter
    | .error .unreadable => choose rest
    | .error .misplaced => none

/-- The directive that decides about an event. -/
def deciding? (filter : LogFilter) (event : Event) : Option Directive :=
  match filter.filter (·.concerns event) with
  | [] => none
  | d :: ds => some (ds.foldl (fun best d => if best.isSharper d then best else d) d)

/-- The verbosity of a filter for an event. Without any directives errors are shown. -/
def verbosityFor (filter : LogFilter) (event : Event) : Nat :=
  match filter.deciding? event with
  | some directive => directive.verbosity
  | none => if filter.isEmpty then verbosity .error else 0

/-- Whether a filter shows an event. -/
def shows (filter : LogFilter) (event : Event) : Bool :=
  verbosity event.level ≤ filter.verbosityFor event

end LogFilter

end GuestNat.Program
