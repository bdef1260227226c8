import GuestNat.Host.Machine

/-!
# Writing a file

A file is written by opening it and then writing to what was opened. Both are seen by the next
reading of the file, and by nothing else: names lead where they led before, and the same programs
can be started.

* `FileTree.SameOutline`: trees that differ in the content of files only;
* `FileTree.Rewritten`: trees that differ in the content of one file only;
* `FileTree.open_file`: what opening a file that is there does to it, and then writing to it;
* `FileTree.open_refused`: what is not there is opened only by a mode that makes a file.
-/

namespace GuestNat

/-- An entry without the content of a file. -/
def Entry.outline : Entry → Entry
  | file _ executable => .file [] executable
  | directory => .directory
  | loop => .loop

/-- The entry is a program. -/
def Entry.isProgram : Entry → Bool
  | file _ executable => executable
  | directory | loop => false

theorem Entry.isProgram_outline (entry : Entry) : entry.outline.isProgram = entry.isProgram := by
  cases entry <;> rfl

/-- What opening leaves of a content. -/
def OpenMode.kept (mode : OpenMode) (old : Bytes) : Bytes := if mode.truncate then [] else old

/-- Behind an opening that cuts the file, it holds what is written and nothing else. -/
theorem OpenMode.written_of_truncate {mode : OpenMode} (h : mode.truncate = true)
    (old new : Bytes) : new ++ (mode.kept old).drop new.length = new := by
  rw [kept, if_pos h, List.drop_nil, List.append_nil]

namespace FileTree

variable {tree other : FileTree}

/-- At every location there stands the same in both trees, but for the content of files. -/
def SameOutline (tree other : FileTree) : Prop :=
  ∀ location, (tree.entry? location).map Entry.outline = (other.entry? location).map Entry.outline

theorem entry_put (tree : FileTree) (location : Location) (entry : Entry) (at' : Location)
    (hroot : location ≠ []) :
    FileTree.entry? (tree.put location entry) at' =
      if at' = location then some entry else tree.entry? at' := by
  unfold entry? put
  by_cases hempty : at' = []
  · have hne : at' ≠ location := fun h => hroot (h ▸ hempty)
    rw [if_pos hempty, if_neg hne, if_pos hempty]
  · rw [if_neg hempty, List.find?_cons]
    by_cases heq : at' = location
    · simp [heq]
    · simp [heq, Ne.symm heq, hempty]

variable {cwd location : Location} {path : String}

theorem find_of_locate (h : tree.locate cwd path = .ok location) :
    tree.find cwd path =
      match tree.entry? location with
      | some entry => .ok entry
      | none => .error .notFound := by
  unfold find
  rw [h]
  rfl

theorem find_of_locate_error {e : OsError} (h : tree.locate cwd path = .error e) :
    tree.find cwd path = .error e := by
  unfold find
  rw [h]
  rfl

theorem contains_of_find {entry : Entry} (h : tree.find cwd path = .ok entry) :
    tree.contains cwd path = .ok true := by
  unfold contains
  rw [h]

theorem read_of_find {content : Bytes} {executable : Bool}
    (h : tree.find cwd path = .ok (.file content executable)) :
    tree.read cwd path = .ok content := by
  unfold read
  rw [h]
  rfl

theorem startable_of_find {entry : Entry} (h : tree.find cwd path = .ok entry) :
    tree.startable cwd path = if entry.isProgram then .ok () else .error .permissionDenied := by
  unfold startable
  rw [h]
  cases entry with
  | file content executable => cases executable <;> rfl
  | directory => rfl
  | loop => rfl

theorem startable_of_find_error {e : OsError} (h : tree.find cwd path = .error e) :
    tree.startable cwd path = .error e := by
  unfold startable
  rw [h]
  rfl

namespace SameOutline

variable (h : tree.SameOutline other)

include h

theorem directory_iff (location : Location) :
    tree.entry? location = some .directory ↔ other.entry? location = some .directory := by
  have hsame := h location
  cases htree : tree.entry? location with
  | none => cases hother : other.entry? location <;> simp_all
  | some entry =>
      cases hother : other.entry? location with
      | none => simp_all
      | some entry' => cases entry <;> cases entry' <;> simp_all [Entry.outline]

/-- Names lead to the same locations, by induction on the components. -/
theorem walk (here : Location) (components : List String) :
    tree.walk here components = other.walk here components := by
  induction components generalizing here with
  | nil => rfl
  | cons c rest ih =>
      unfold FileTree.walk
      have hsame := h (here ++ [c])
      -- the walk asks only what kind of entry a name is, and outlines tell that
      simp only [ne_eq, h.directory_iff here, ih]
      cases htree : tree.entry? (here ++ [c]) with
      | none => cases hother : other.entry? (here ++ [c]) <;> simp_all
      | some entry =>
          cases hother : other.entry? (here ++ [c]) with
          | none => simp_all
          | some entry' => cases entry <;> cases entry' <;> simp_all [Entry.outline]

theorem locate (cwd : Location) (path : String) : tree.locate cwd path = other.locate cwd path := by
  unfold FileTree.locate
  rw [h.walk]

/-- What is found is the same, but for the content of files. -/
theorem find (cwd : Location) (path : String) :
    (tree.find cwd path).map Entry.outline = (other.find cwd path).map Entry.outline := by
  cases hlocation : other.locate cwd path with
  | error e => rw [find_of_locate_error ((h.locate cwd path).trans hlocation),
      find_of_locate_error hlocation]
  | ok location =>
      have hsame := h location
      rw [find_of_locate ((h.locate cwd path).trans hlocation), find_of_locate hlocation]
      cases htree : tree.entry? location with
      | none => cases hother : other.entry? location <;> simp_all
      | some entry =>
          cases hother : other.entry? location with
          | none => simp_all
          | some entry' => simpa [htree, hother, Except.map] using hsame

theorem contains (cwd : Location) (path : String) :
    tree.contains cwd path = other.contains cwd path := by
  have hfind := h.find cwd path
  unfold FileTree.contains
  cases htree : tree.find cwd path <;> cases hother : other.find cwd path <;>
    simp_all [Except.map]

theorem startable (cwd : Location) (path : String) :
    tree.startable cwd path = other.startable cwd path := by
  have hfind := h.find cwd path
  cases htree : tree.find cwd path with
  | error e =>
      cases hother : other.find cwd path with
      | error e' =>
          rw [startable_of_find_error htree, startable_of_find_error hother]
          simp_all [Except.map]
      | ok entry => simp_all [Except.map]
  | ok entry =>
      cases hother : other.find cwd path with
      | error e => simp_all [Except.map]
      | ok entry' =>
          rw [htree, hother] at hfind
          have houtline : entry.outline = entry'.outline := Except.ok.inj hfind
          rw [startable_of_find htree, startable_of_find hother, ← entry.isProgram_outline,
            houtline, entry'.isProgram_outline]

theorem firstStartable (cwd : Location) (last : OsError) (denied : Bool) (paths : List String) :
    tree.firstStartable cwd last denied paths = other.firstStartable cwd last denied paths := by
  induction paths generalizing last denied with
  | nil => rfl
  | cons path rest ih =>
      unfold FileTree.firstStartable
      rw [h.startable]
      simp only [ih]

/-- The same programs can be started. -/
theorem startProgram (cwd : Location) (searchPath : List String) (name : String) :
    tree.startProgram cwd searchPath name = other.startProgram cwd searchPath name := by
  unfold FileTree.startProgram
  rw [h.startable, h.firstStartable]

end SameOutline

/-! ## Opening and writing -/

theorem find_of_read {content : Bytes} (h : tree.read cwd path = .ok content) :
    ∃ executable, tree.find cwd path = .ok (.file content executable) := by
  unfold read at h
  cases hfind : tree.find cwd path with
  | error e =>
      rw [hfind] at h
      cases h
  | ok entry =>
      rw [hfind] at h
      -- only a file has a content to read
      cases entry with
      | file content executable =>
          obtain rfl := Except.ok.inj h
          exact ⟨executable, rfl⟩
      | directory => cases h
      | loop => cases h

/-- A name means a file with this content. -/
structure FileAt (tree : FileTree) (cwd : Location) (path : String) (location : Location)
    (content : Bytes) (executable : Bool) : Prop where
  locate : tree.locate cwd path = .ok location
  entry : tree.entry? location = some (.file content executable)

/-- Only the content of the file under a name is another one. -/
structure Rewritten (tree : FileTree) (cwd : Location) (path : String) (new : Bytes)
    (after : FileTree) : Prop where
  outline : tree.SameOutline after
  content : after.read cwd path = .ok new
  elsewhere : ∀ location, tree.locate cwd path ≠ .ok location →
    after.entry? location = tree.entry? location

section FileAt

variable {content new : Bytes} {executable : Bool}

theorem file_at_of_find (h : tree.find cwd path = .ok (.file content executable)) :
    ∃ location, tree.FileAt cwd path location content executable := by
  cases hlocation : tree.locate cwd path with
  | error e =>
      rw [find_of_locate_error hlocation] at h
      cases h
  | ok location =>
      rw [find_of_locate hlocation] at h
      refine ⟨location, hlocation, ?_⟩
      cases hentry : tree.entry? location with
      | none => simp [hentry] at h
      | some entry => simpa [hentry] using h

namespace FileAt

variable (h : tree.FileAt cwd path location content executable)

include h

theorem not_root : location ≠ [] := by
  rintro rfl
  cases h.entry

theorem read : tree.read cwd path = .ok content := by
  have hfind : tree.find cwd path = .ok (.file content executable) := by
    rw [find_of_locate h.locate, h.entry]
  exact read_of_find hfind

/-- A file that is left as it is keeps its content. -/
theorem rewritten_self : tree.Rewritten cwd path content tree where
  outline := fun _ => rfl
  content := h.read
  elsewhere := fun _ _ => rfl

theorem sameOutline_put (new : Bytes) :
    tree.SameOutline (tree.put location (.file new executable)) := by
  intro at'
  rw [entry_put tree location _ at' h.not_root]
  by_cases heq : at' = location
  · rw [if_pos heq, heq, h.entry]
    rfl
  · rw [if_neg heq]

/-- Another content in its place is a file under the same name. -/
theorem put (new : Bytes) :
    (tree.put location (.file new executable)).FileAt cwd path location new executable where
  locate := by
    rw [← (h.sameOutline_put new).locate]
    exact h.locate
  entry := by rw [entry_put tree location _ location h.not_root, if_pos rfl]

theorem rewritten_put (new : Bytes) :
    tree.Rewritten cwd path new (tree.put location (.file new executable)) where
  outline := h.sameOutline_put new
  content := (h.put new).read
  elsewhere := by
    intro at' hother
    have hne : at' ≠ location := fun heq => hother (heq ▸ h.locate)
    rw [entry_put tree location _ at' h.not_root, if_neg hne]

/-- What an open file holds is replaced as far as the octets reach. -/
theorem write (octets : Bytes) : tree.write ⟨location⟩ octets =
    tree.put location (.file (octets ++ content.drop octets.length) executable) := by
  unfold FileTree.write
  rw [h.entry]

end FileAt

end FileAt

theorem Rewritten.trans {after later : FileTree} {new newer : Bytes}
    (h : tree.Rewritten cwd path new after) (h' : after.Rewritten cwd path newer later) :
    tree.Rewritten cwd path newer later where
  outline := fun location => (h.outline location).trans (h'.outline location)
  content := h'.content
  elsewhere := by
    intro location hother
    -- the name leads to the same location in both trees
    have hother' : after.locate cwd path ≠ .ok location := by
      rw [← h.outline.locate]
      exact hother
    exact (h'.elsewhere location hother').trans (h.elsewhere location hother)

variable {mode : OpenMode} {old : Bytes} {executable : Bool} {cause : OsError}

/-- A mode that asks for writing opens what the name means, and makes a file only where nothing is
found. -/
theorem open_of_write (hwrite : mode.write = true) :
    tree.openFile cwd path mode =
      match tree.locate cwd path with
      | .error .notFound => if mode.create then tree.createFile cwd path else .error .notFound
      | .error cause => .error cause
      | .ok location =>
        match tree.entry? location with
        | some (.file _ executable) =>
          .ok (⟨location⟩, if mode.truncate then tree.put location (.file [] executable) else tree)
        | some .directory => .error .isDirectory
        | some .loop => .error .tooManyLinks
        | none => .error .notFound := by
  unfold openFile
  -- a path with a NUL is turned away before it is looked up, by the opening as by the look-up
  by_cases hnul : path.toList.contains '\x00'
  · have hlocate : tree.locate cwd path = .error .nulInName := by
      unfold locate
      rw [if_pos hnul]
    rw [if_pos hnul, hlocate]
  · rw [if_neg hnul, hwrite]
    rfl

/-- A file that is there is opened, and loses its content if the mode says so. What is written to it
then stands before what is left. -/
theorem open_file (h : tree.find cwd path = .ok (.file old executable))
    (hwrite : mode.write = true) :
    ∃ handle opened, tree.openFile cwd path mode = .ok (handle, opened) ∧
      tree.Rewritten cwd path (mode.kept old) opened ∧
      ∀ new, tree.Rewritten cwd path (new ++ (mode.kept old).drop new.length)
        (opened.write handle new) := by
  obtain ⟨location, hfile⟩ := file_at_of_find h
  have hopen : ∃ opened, tree.openFile cwd path mode = .ok (⟨location⟩, opened) ∧
      tree.Rewritten cwd path (mode.kept old) opened ∧
      opened.FileAt cwd path location (mode.kept old) executable := by
    rw [open_of_write hwrite, hfile.locate]
    dsimp only
    rw [hfile.entry]
    unfold OpenMode.kept
    -- a truncating open empties the file at once, another one leaves it as it is
    cases mode.truncate with
    | true => exact ⟨_, rfl, hfile.rewritten_put [], hfile.put []⟩
    | false => exact ⟨_, rfl, hfile.rewritten_self, hfile⟩
  obtain ⟨opened, hopened, hkept, hfile'⟩ := hopen
  refine ⟨⟨location⟩, opened, hopened, hkept, ?_⟩
  intro new
  rw [hfile'.write]
  exact hkept.trans (hfile'.rewritten_put _)

/-- What cannot be read is not opened, for the same cause, by a mode that makes no file. -/
theorem open_refused (h : tree.read cwd path = .error cause) (hwrite : mode.write = true)
    (hcreate : mode.create = false) : tree.openFile cwd path mode = .error cause := by
  rw [open_of_write hwrite, hcreate]
  unfold read at h
  -- reading and opening look the path up alike; an open that may not create keeps the cause
  cases hlocate : tree.locate cwd path with
  | error e =>
      rw [find_of_locate_error hlocate] at h
      obtain rfl : e = cause := Except.error.inj h
      cases e <;> rfl
  | ok there =>
      rw [find_of_locate hlocate] at h
      cases hentry : tree.entry? there with
      | none =>
          rw [hentry] at h
          simpa [bind, Except.bind, hentry] using h
      | some entry =>
          rw [hentry] at h
          cases entry with
          | file old executable => cases h
          | directory => simpa [bind, Except.bind, hentry] using h
          | loop => simpa [bind, Except.bind, hentry] using h

/-- With other flags a missing file is made, and what is longer than the new content stays. -/
example :
    let tree : FileTree := { entries := [(["old"], .file [1, 2, 3] false)] }
    ((tree.openFile [] "/new" { write := true, create := true }).map fun (_, opened) =>
        opened.read [] "/new") = .ok (.ok []) ∧
      ((tree.openFile [] "/old" { write := true }).map fun (handle, opened) =>
        (opened.write handle [4]).read [] "/old") = .ok (.ok [4, 2, 3]) := by
  exact ⟨rfl, rfl⟩

end FileTree

/-- A machine on which a name means a file opens and writes it. -/
theorem Machine.opens_file {machine : Machine} {path : String} {old : Bytes} {executable : Bool}
    (h : machine.files.find machine.cwd path = .ok (.file old executable)) {mode : OpenMode}
    (hwrite : mode.write = true) :
    ∃ handle opened, machine.openFile path mode = (.ok handle, { machine with files := opened }) ∧
      machine.files.Rewritten machine.cwd path (mode.kept old) opened ∧
      ∀ new, machine.files.Rewritten machine.cwd path (new ++ (mode.kept old).drop new.length)
        (opened.write handle new) := by
  obtain ⟨handle, opened, hopened, hkept, hwritten⟩ := FileTree.open_file h hwrite
  refine ⟨handle, opened, ?_, hkept, hwritten⟩
  unfold openFile
  rw [hopened]

end GuestNat
