import GuestNat.Files.OsError
import GuestNat.Files.Path
import GuestNat.Text.Utf8

/-!
# A tree of files

What the kernel finds under a name: a walk through the components, each of which has to be found in
a directory. The tree is kept as a list of locations, the components from the root down, with what
stands there; an earlier entry hides a later one.

Left out: owners, modes other than "executable", links other than one to itself, and reading and
writing through one open file.
-/

namespace GuestNat

/-- What stands at a location. -/
inductive Entry
  | file (content : Bytes) (executable : Bool)
  | directory
  /-- A symbolic link to itself. -/
  | loop
deriving DecidableEq, Repr

/-- The components from the root down. -/
abbrev Location := List String

structure FileTree where
  entries : List (Location × Entry) := []

/-- How a file is opened. -/
structure OpenMode where
  write : Bool := false
  /-- The file loses its content. -/
  truncate : Bool := false
  /-- The file is made where there is none. -/
  create : Bool := false
deriving DecidableEq, Repr

/-- An open file, at its start. -/
structure Handle where
  location : Location
deriving DecidableEq, Repr

namespace FileTree

/-- What stands at a location. The root is always a directory. -/
def entry? (tree : FileTree) (location : Location) : Option Entry :=
  if location = [] then some .directory
  else (tree.entries.find? (·.1 = location)).map (·.2)

/-- Puts an entry at a location. -/
def put (tree : FileTree) (location : Location) (entry : Entry) : FileTree :=
  ⟨(location, entry) :: tree.entries⟩

/-- The tree with directories at all locations that `location` passes through below `here`. -/
def putDirectories (tree : FileTree) (here : Location) : Location → FileTree
  | [] => tree
  | c :: rest =>
    let here := here ++ [c]
    let tree := if (tree.entry? here).isSome then tree else tree.put here .directory
    tree.putDirectories here rest

/-- Puts an entry at a location, and directories above it where nothing stands. -/
def add (tree : FileTree) (location : Location) (entry : Entry) : FileTree :=
  (tree.putDirectories [] location.dropLast).put location entry

/-! ## Finding -/

/-- The greatest size of a component in octets. -/
def maxComponent : Nat := 255

/-- The size in octets from which on a whole name is refused. -/
def maxPath : Nat := 4096

/-- Walks from a location through further components. -/
def walk (tree : FileTree) (here : Location) : List String → Except OsError Location
  | [] => .ok here
  | c :: rest =>
    if tree.entry? here ≠ some .directory then .error .notDirectory
    else if c = "." then tree.walk here rest
    else if c = ".." then tree.walk here.dropLast rest
    else if maxComponent < c.utf8ByteSize then .error .nameTooLong
    else
      match tree.entry? (here ++ [c]) with
      | none => .error .notFound
      | some .loop => .error .tooManyLinks
      | some _ => tree.walk (here ++ [c]) rest

/-- The location that a name means to a process that works in `cwd`. -/
def locate (tree : FileTree) (cwd : Location) (path : String) : Except OsError Location :=
  if path.toList.contains '\x00' then .error .nulInName
  else if path.isEmpty then .error .notFound
  else if maxPath ≤ path.utf8ByteSize then .error .nameTooLong
  else tree.walk (if Path.isAbsolute path then [] else cwd) (Path.components path)

/-- The entry that a name means. -/
def find (tree : FileTree) (cwd : Location) (path : String) : Except OsError Entry := do
  let location ← tree.locate cwd path
  match tree.entry? location with
  | some entry => .ok entry
  | none => .error .notFound

/-- Whether something stands under a name. Only "not found" is an answer; any other refusal leaves
the question open. -/
def contains (tree : FileTree) (cwd : Location) (path : String) : Except OsError Bool :=
  match tree.find cwd path with
  | .ok _ => .ok true
  | .error .notFound => .ok false
  | .error e => .error e

/-! ## Reading -/

/-- The content of the file under a name. -/
def read (tree : FileTree) (cwd : Location) (path : String) : Except OsError Bytes := do
  match ← tree.find cwd path with
  | .file content _ => .ok content
  | .directory => .error .isDirectory
  | .loop => .error .tooManyLinks

/-! ## Opening and writing -/

/-- Makes an empty file in a directory that is there, under a name that nothing stands under. A name
with a slash at its end asks for a directory and is not made a file. -/
def createFile (tree : FileTree) (cwd : Location) (path : String) :
    Except OsError (Handle × FileTree) := do
  let asksDirectory := path.toList.getLast? == some '/'
  let components := Path.components path
  let components := if asksDirectory then components.dropLast else components
  match components.getLast? with
  | none => .error .notFound
  | some name =>
    let parent ← tree.walk (if Path.isAbsolute path then [] else cwd) components.dropLast
    if asksDirectory then .error .isDirectory
    else .ok (⟨parent ++ [name]⟩, tree.put (parent ++ [name]) (.file [] false))

/-- Opens the file under a name for writing. A mode that does not ask for writing is refused, for it
asks for nothing. -/
def openFile (tree : FileTree) (cwd : Location) (path : String) (mode : OpenMode) :
    Except OsError (Handle × FileTree) :=
  if path.toList.contains '\x00' then .error .nulInName
  else if !mode.write then .error .invalidArgument
  else
    match tree.locate cwd path with
    | .error .notFound => if mode.create then tree.createFile cwd path else .error .notFound
    | .error cause => .error cause
    | .ok location =>
      match tree.entry? location with
      | some (.file _ executable) =>
        .ok (⟨location⟩, if mode.truncate then tree.put location (.file [] executable) else tree)
      | some .directory => .error .isDirectory
      | some .loop => .error .tooManyLinks
      | none => .error .notFound

/-- Writes octets at the start of an open file. What the file holds behind them stays. -/
def write (tree : FileTree) (handle : Handle) (octets : Bytes) : FileTree :=
  match tree.entry? handle.location with
  | some (.file content executable) =>
    tree.put handle.location (.file (octets ++ content.drop octets.length) executable)
  -- nobody sees what is written to a file that is gone
  | _ => tree

/-! ## Programs -/

/-- Whether the program under a name can be started. -/
def startable (tree : FileTree) (cwd : Location) (path : String) : Except OsError Unit := do
  match ← tree.find cwd path with
  | .file _ true => .ok ()
  | _ => .error .permissionDenied

/-- Tries names in turn. A name that is not found, or that may not be run, gives way to the next;
a refusal to run one is remembered, so that it is the answer when no later name can be started. -/
def firstStartable (tree : FileTree) (cwd : Location) (last : OsError) (denied : Bool) :
    List String → Except OsError Unit
  | [] => .error (if denied then .permissionDenied else last)
  | path :: rest =>
    match tree.startable cwd path with
    | .ok () => .ok ()
    | .error .permissionDenied => tree.firstStartable cwd .permissionDenied true rest
    | .error .notFound => tree.firstStartable cwd .notFound denied rest
    | .error .notDirectory => tree.firstStartable cwd .notDirectory denied rest
    | .error e => .error e

/-- Whether a program can be started: a name with a slash is looked up as it stands, any other in
the directories of `searchPath`. -/
def startProgram (tree : FileTree) (cwd : Location) (searchPath : List String) (name : String) :
    Except OsError Unit :=
  if name.isEmpty then .error .notFound
  else if name.toList.contains '/' then tree.startable cwd name
  else if maxComponent < name.utf8ByteSize then .error .nameTooLong
  else tree.firstStartable cwd .notFound false (searchPath.map (Path.join · name))

end FileTree

end GuestNat
