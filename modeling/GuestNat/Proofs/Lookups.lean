import Mathlib.Data.List.Basic
import GuestNat.Proofs.FileWrites
import GuestNat.Proofs.SubnetText

/-!
# Looking for a name in a directory

A name is looked for in a directory by joining the two. Where the directory is found, the answer
depends on nothing but what stands under the name in it.

* `Path.parts_join`, `Path.components_join`: the joined path goes through the directory to the name;
* `FileTree.walk_append`: a walk of two parts;
* `FileTree.contains_join`: the answer.
-/

namespace GuestNat

namespace Path

/-- The components but for the one that asks for a directory. -/
def parts (path : String) : List String :=
  ((Text.fields '/' path.toList).filter (!·.isEmpty)).map String.ofList

theorem components_eq (path : String) :
    components path = parts path ∨ components path = parts path ++ ["."] := by
  unfold components parts
  dsimp only
  split
  · exact Or.inr List.map_append
  · exact Or.inl (by rw [List.append_nil])

theorem components_of_last (path : String) (h : path.toList.getLast? ≠ some '/') :
    components path = parts path := by
  unfold components parts
  simp [h]

theorem parts_append {path : String} {front rest : List Char}
    (h : path.toList = front ++ '/' :: rest) :
    parts path = parts (.ofList front) ++ parts (.ofList rest) := by
  unfold parts
  rw [h, Text.fields_append]
  simp

/-- Without a slash there is none in front. -/
theorem isAbsolute_of_no_slash {name : String} (h : '/' ∉ name.toList) :
    isAbsolute name = false := by
  unfold isAbsolute
  rw [beq_eq_false_iff_ne]
  exact fun hhead => h (List.mem_of_head? hhead)

section Join

variable (base : String) {name : String} (hslash : '/' ∉ name.toList)

include hslash

/-- A name without slashes is one part. -/
theorem parts_name (hname : name.toList ≠ []) : parts name = [name] := by
  unfold parts
  rw [Text.fields_of_not_mem hslash]
  simp_all

theorem join_eq : join base name =
    match base.toList.getLast? with
    | none => name
    | some '/' => base ++ name
    | some _ => base ++ "/" ++ name := by
  unfold join
  rw [isAbsolute_of_no_slash hslash]
  rfl

/-- The path is that of the directory with the name behind it, and perhaps a slash between. -/
theorem join_eq_append : ∃ slash ∈ ["", "/"], join base name = base ++ (slash ++ name) := by
  rw [join_eq base hslash]
  split
  · rename_i hbase
    have hempty : base = "" := String.toList_eq_nil_iff.mp (List.getLast?_eq_none_iff.mp hbase)
    exact ⟨"", by decide, by simp [hempty]⟩
  · exact ⟨"", by decide, by simp⟩
  · exact ⟨"/", by decide, String.append_assoc⟩

/-- It is absolute if that of the directory is. -/
theorem isAbsolute_join : isAbsolute (join base name) = isAbsolute base := by
  by_cases hbase : base.toList = []
  · -- without a path for the directory, the name is looked for as it is
    obtain rfl : base = "" := String.toList_eq_nil_iff.mp hbase
    rw [join_eq "" hslash]
    exact isAbsolute_of_no_slash hslash
  · obtain ⟨slash, -, hjoin⟩ := join_eq_append base hslash
    unfold isAbsolute
    rw [hjoin, String.toList_append, List.head?_append_of_ne_nil _ hbase]

theorem size_join : (join base name).utf8ByteSize ≤ base.utf8ByteSize + 1 + name.utf8ByteSize := by
  obtain ⟨slash, hmem, hjoin⟩ := join_eq_append base hslash
  have hsize : ∀ slash ∈ ["", "/"], slash.utf8ByteSize ≤ 1 := by decide
  have hle := hsize slash hmem
  rw [hjoin, String.utf8ByteSize_append, String.utf8ByteSize_append]
  omega

/-- No character comes in but the slash. -/
theorem mem_join {c : Char} (h : c ∈ (join base name).toList) :
    c ∈ base.toList ∨ c = '/' ∨ c ∈ name.toList := by
  obtain ⟨slash, hmem, hjoin⟩ := join_eq_append base hslash
  have hchars : ∀ slash ∈ ["", "/"], slash.toList = [] ∨ slash.toList = ['/'] := by decide
  rw [hjoin, String.toList_append, String.toList_append] at h
  rcases List.mem_append.mp h with hbase | hrest
  · exact Or.inl hbase
  · rcases List.mem_append.mp hrest with hc | hc
    · rcases hchars slash hmem with hnone | hone
      · rw [hnone] at hc
        exact absurd hc List.not_mem_nil
      · rw [hone] at hc
        exact Or.inr (Or.inl (List.mem_singleton.mp hc))
    · exact Or.inr (Or.inr hc)

variable (hname : name.toList ≠ [])

include hname

/-- The path goes through the directory to the name. -/
theorem parts_join : parts (join base name) = parts base ++ [name] := by
  have hnone : parts "" = [] := rfl
  rw [join_eq base hslash, ← parts_name hslash hname]
  split
  · rename_i hbase
    have hempty : base = "" := String.toList_eq_nil_iff.mp (List.getLast?_eq_none_iff.mp hbase)
    rw [hempty, hnone, List.nil_append]
  · rename_i hbase
    obtain ⟨front, hfront⟩ := List.getLast?_eq_some_iff.mp hbase
    have hjoined : (base ++ name).toList = front ++ '/' :: name.toList := by simp [hfront]
    -- the slash at the end of the directory adds nothing to its own parts
    rw [parts_append hjoined, parts_append hfront, String.ofList_toList]
    exact congrArg (· ++ parts name) (List.append_nil _).symm
  · have hjoined : (base ++ "/" ++ name).toList = base.toList ++ '/' :: name.toList := by simp
    rw [parts_append hjoined, String.ofList_toList, String.ofList_toList]

theorem components_join : components (join base name) = parts base ++ [name] := by
  obtain ⟨slash, -, hjoin⟩ := join_eq_append base hslash
  -- the path ends as the name does, which has no slash
  have hlast : (join base name).toList.getLast? = name.toList.getLast? := by
    rw [hjoin, ← String.append_assoc, String.toList_append, List.getLast?_append_of_ne_nil _ hname]
  rw [components_of_last, parts_join base hslash hname]
  rw [hlast]
  intro hslashLast
  exact hslash (List.mem_of_getLast? hslashLast)

end Join

end Path

/-! ## The answer -/

namespace FileTree

variable {tree : FileTree} {cwd location : Location} {base name : String}

/-- A walk of two parts is a walk from where the first one led, by induction on the first one. -/
theorem walk_append (tree : FileTree) (here : Location) (front rest : List String) :
    tree.walk here (front ++ rest) = (tree.walk here front).bind (tree.walk · rest) := by
  induction front generalizing here with
  | nil => rfl
  | cons c front ih =>
      rw [List.cons_append, walk, walk]
      -- each component either ends the walk, in the same way with and without the rest, or goes on
      split
      · rfl
      split
      · exact ih here
      split
      · exact ih here.dropLast
      split
      · rfl
      split
      · rfl
      · rfl
      · exact ih (here ++ [c])

/-- The name of a directory leads where its parts lead. -/
theorem walk_parts {here : Location} {path : String}
    (h : tree.walk here (Path.components path) = .ok location) :
    tree.walk here (Path.parts path) = .ok location := by
  rcases Path.components_eq path with heq | heq
  · rwa [heq] at h
  · rw [heq, walk_append] at h
    cases hparts : tree.walk here (Path.parts path) with
    | error e =>
        rw [hparts] at h
        cases h
    | ok there =>
        rw [hparts] at h
        -- the component behind asks for a directory and leads nowhere else
        have hhere : tree.walk there ["."] = .ok location := h
        rw [walk] at hhere
        split at hhere
        · cases hhere
        · exact hhere

/-- A name that is located is a text that can be looked up. -/
theorem locate_eq_ok_iff :
    tree.locate cwd base = .ok location ↔ '\x00' ∉ base.toList ∧ base.toList ≠ [] ∧
      base.utf8ByteSize < maxPath ∧ tree.walk (if Path.isAbsolute base then [] else cwd)
        (Path.components base) = .ok location := by
  unfold locate
  have hempty : base.isEmpty = true ↔ base.toList = [] := by
    simp [String.toList_eq_nil_iff]
  -- the path is turned away for a NUL, for being empty or for its length, in this order
  split
  · simp_all
  split
  · simp_all
  split
  · rename_i hsize
    constructor
    · intro h
      cases h
    · rintro ⟨-, -, hshort, -⟩
      exact absurd hsize (Nat.not_le.mpr hshort)
  · simp_all

/-- An entry of a directory can have the name. -/
structure IsName (name : String) : Prop where
  ne_nil : name.toList ≠ []
  no_slash : '/' ∉ name.toList
  no_nul : '\x00' ∉ name.toList
  not_here : name ≠ "."
  not_above : name ≠ ".."
  size : name.utf8ByteSize ≤ maxComponent

/-- A walk of one name. -/
theorem walk_name (hdirectory : tree.entry? location = some .directory) (hname : IsName name) :
    tree.walk location [name] =
      match tree.entry? (location ++ [name]) with
      | none => .error .notFound
      | some .loop => .error .tooManyLinks
      | some _ => .ok (location ++ [name]) := by
  rw [walk, if_neg (not_not.mpr hdirectory), if_neg hname.not_here, if_neg hname.not_above,
    if_neg (Nat.not_lt.mpr hname.size)]
  rfl

/-- Where a directory is found, a name is looked for in it. -/
theorem locate_join (hlocate : tree.locate cwd base = .ok location) (hname : IsName name)
    (hsize : base.utf8ByteSize + 1 + name.utf8ByteSize < maxPath) :
    tree.locate cwd (Path.join base name) = tree.walk location [name] := by
  obtain ⟨hnul, -, -, hwalk⟩ := locate_eq_ok_iff.mp hlocate
  have hchars : '\x00' ∉ (Path.join base name).toList := by
    intro hmem
    rcases Path.mem_join base hname.no_slash hmem with h | h | h
    · exact hnul h
    · cases h
    · exact hname.no_nul h
  have hshort : ¬ maxPath ≤ (Path.join base name).utf8ByteSize := by
    have hle := Path.size_join base hname.no_slash
    omega
  -- the joined path has the name for a part, so it is not empty
  have hne : (Path.join base name).isEmpty = false := by
    rw [Bool.eq_false_iff, ne_eq, String.isEmpty_iff]
    intro hempty
    have hparts := Path.parts_join base hname.no_slash hname.ne_nil
    rw [hempty] at hparts
    exact absurd hparts.symm (List.append_ne_nil_of_right_ne_nil _ (List.cons_ne_nil _ _))
  have hcontains : (Path.join base name).toList.contains '\x00' = false := by
    simpa using hchars
  unfold locate
  rw [hcontains, hne, if_neg Bool.false_ne_true, if_neg Bool.false_ne_true, if_neg hshort,
    Path.isAbsolute_join base hname.no_slash,
    Path.components_join base hname.no_slash hname.ne_nil, walk_append, walk_parts hwalk]
  rfl

/-- What is answered is whether something stands under the name. A link to itself cannot be
followed, so there the question stays open. -/
theorem contains_join (hlocate : tree.locate cwd base = .ok location)
    (hdirectory : tree.entry? location = some .directory) (hname : IsName name)
    (hsize : base.utf8ByteSize + 1 + name.utf8ByteSize < maxPath) :
    tree.contains cwd (Path.join base name) =
      match tree.entry? (location ++ [name]) with
      | none => .ok false
      | some .loop => .error .tooManyLinks
      | some _ => .ok true := by
  have hwalk := (locate_join hlocate hname hsize).trans (walk_name hdirectory hname)
  unfold contains
  cases hentry : tree.entry? (location ++ [name]) with
  | none =>
      rw [hentry] at hwalk
      rw [find_of_locate_error hwalk]
  | some entry =>
      rw [hentry] at hwalk
      -- a loop of links has no place to be at, so nothing can be told about the name
      cases entry with
      | file content executable => rw [find_of_locate hwalk, hentry]
      | directory => rw [find_of_locate hwalk, hentry]
      | loop => rw [find_of_locate_error hwalk]

end FileTree

end GuestNat
