import GuestNat.Settings.FileSettings
import GuestNat.Settings.JsonNumber
import GuestNat.Settings.JsonString

/-!
# Settings documents

A settings document is one JSON value: an object whose members are settings, or an array of settings
in the order of `Field.all`. A setting is a string or `null`, which leaves it open.

The reader goes from left to right, as deep as settings go and no deeper. A member is refused at its
name when the name is unknown or repeated, and a value at its first character when it is of a wrong
type.
-/

namespace GuestNat.Document

/-- What was read, and the rest of the text. -/
abbrev Read (α : Type) := α × List Char

/-- The four characters that may stand between the parts of a document. -/
def isSpace (c : Char) : Bool := c = ' ' || c = '\t' || c = '\n' || c = '\r'

/-- The text behind its leading blanks. -/
def skipSpace (cs : List Char) : List Char := cs.dropWhile isSpace

/-- The text behind a word that it has to start with. -/
def expect : List Char → List Char → Except DocumentFault (List Char)
  | [], cs => .ok cs
  | _ :: _, [] => .error .truncated
  | w :: ws, c :: cs => if w = c then expect ws cs else .error .malformed

/-- Why the value that a text starts with is not what was expected there. -/
def refuse (expected : Expected) (cs : List Char) : DocumentFault :=
  let found (value : Except DocumentFault WrongValue) : DocumentFault :=
    match value with
    | .ok value => .unacceptable (.wrongType value expected)
    | .error fault => fault
  match cs with
  | [] => .truncated
  | '[' :: _ => found (.ok .sequence)
  | '{' :: _ => found (.ok .map)
  | '"' :: rest =>
    found ((JsonString.body .plain rest).map fun (chars, _) => .string (.ofList chars))
  | 'n' :: rest => found ((expect "ull".toList rest).map fun _ => .null)
  | 't' :: rest => found ((expect "rue".toList rest).map fun _ => .boolean true)
  | 'f' :: rest => found ((expect "alse".toList rest).map fun _ => .boolean false)
  | c :: _ =>
    if c = '-' ∨ Decimal.isDigit c then found (JsonNumber.parse cs) else .malformed

/-- A setting: a string, or none for `null`. -/
def setting (cs : List Char) : Except DocumentFault (Read (Option String)) :=
  match skipSpace cs with
  | 'n' :: rest => (expect "ull".toList rest).map fun rest => (none, rest)
  | '"' :: rest =>
    (JsonString.body .plain rest).map fun (chars, rest) => (some (.ofList chars), rest)
  | cs => .error (refuse .string cs)

/-- Reads a setting for a field. -/
def assign (settings : FileSettings) (field : Field) (cs : List Char) :
    Except DocumentFault (Read FileSettings) := do
  let (value, rest) ← setting cs
  match settings.set field value with
  | .ok settings => .ok (settings, rest)
  | .error fault => .error (.unacceptable (.badSubnet fault))

/-! ## Objects -/

/-- The text behind the colon of a member. -/
def colon (cs : List Char) : Except DocumentFault (List Char) :=
  match skipSpace cs with
  | [] => .error .truncated
  | ':' :: rest => .ok rest
  | _ => .error .malformed

/-- The name of the next member, or none at the closing brace. A comma stands before every member
but the first. -/
def nextName (first : Bool) (cs : List Char) : Except DocumentFault (Read (Option String)) :=
  let name (rest : List Char) : Except DocumentFault (Read (Option String)) :=
    (JsonString.body .plain rest).map fun (chars, rest) => (some (.ofList chars), rest)
  match skipSpace cs with
  | [] => .error .truncated
  | '}' :: rest => .ok (none, rest)
  | '"' :: rest => if first then name rest else .error .malformed
  | ',' :: rest =>
    if first then .error .malformed
    else
      match skipSpace rest with
      | [] => .error .truncated
      | '"' :: rest => name rest
      | _ => .error .malformed
  | _ => .error .malformed

/-- Striking out a field that is there makes the list shorter. -/
theorem length_erase_lt {field : Field} {unset : List Field} (h : field ∈ unset) :
    (unset.erase field).length < unset.length := by
  have := List.length_pos_of_mem h
  rw [List.length_erase_of_mem h]
  omega

/-- The members of an object, up to the closing brace. Each one sets a field that is not `set` yet,
so there is one of the fields `unset` less to come. -/
def members (first : Bool) (unset : List Field) (settings : FileSettings) (cs : List Char) :
    Except DocumentFault (Read FileSettings) := do
  match ← nextName first cs with
  | (none, rest) => .ok (settings, rest)
  | (some name, rest) =>
    match Field.ofName? name with
    | none => .error (.unacceptable (.unknownField name))
    | some field =>
      if h : field ∈ unset then
        have := length_erase_lt h
        let (settings, rest) ← assign settings field (← colon rest)
        members false (unset.erase field) settings rest
      else .error (.unacceptable (.duplicateField field))
termination_by unset.length

/-! ## Arrays -/

/-- The elements of an array, one for each field in order, up to the closing bracket. -/
def elements (first : Bool) :
    List Field → FileSettings → List Char → Except DocumentFault (Read FileSettings)
  | [], settings, cs =>
    match skipSpace cs with
    | [] => .error .truncated
    | ']' :: rest => .ok (settings, rest)
    | _ => .error .malformed
  | field :: fields, settings, cs =>
    match skipSpace cs with
    | [] => .error .truncated
    | ']' :: rest => .ok (settings, rest)
    | c :: rest => do
      let cs ←
        if first then .ok (c :: rest)
        else if c = ',' then
          match skipSpace rest with
          | [] => .error .truncated
          | ']' :: _ => .error .malformed
          | rest => .ok rest
        else .error .malformed
      let (settings, rest) ← assign settings field cs
      elements false fields settings rest

/-! ## Whole documents -/

/-- The value of a document, and what follows it. -/
def value (cs : List Char) : Except DocumentFault (Read FileSettings) :=
  match skipSpace cs with
  | '{' :: rest => members true Field.all {} rest
  | '[' :: rest => elements true Field.all {} rest
  | cs => .error (refuse .settings cs)

/-- The settings of a document. Only blanks may follow the value. -/
def parse (text : String) : Except DocumentFault FileSettings := do
  let (settings, rest) ← value text.toList
  if (skipSpace rest).isEmpty then .ok settings else .error .malformed

end GuestNat.Document
