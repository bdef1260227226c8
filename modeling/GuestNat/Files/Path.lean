import GuestNat.Text.Search

/-!
# File names

A name is absolute when it starts with a slash. Joining a relative name to a directory puts one
slash between them; joining an absolute name gives that name alone.
-/

namespace GuestNat.Path

def isAbsolute (path : String) : Bool := path.toList.head? == some '/'

/-- The name of `operand` as seen from the directory `base`. -/
def join (base operand : String) : String :=
  if isAbsolute operand then operand
  else
    match base.toList.getLast? with
    | none => operand
    | some '/' => base ++ operand
    | some _ => base ++ "/" ++ operand

/-- The components of a name. A slash at the end asks for a directory, which is what the component
`.` behind it says too. -/
def components (path : String) : List String :=
  let parts := (Text.fields '/' path.toList).filter (!·.isEmpty)
  let last := path.toList.getLast? == some '/' && !parts.isEmpty
  (parts ++ if last then [['.']] else []).map String.ofList

end GuestNat.Path
