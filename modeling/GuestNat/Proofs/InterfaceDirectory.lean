import GuestNat.Proofs.CallLimits
import GuestNat.Proofs.Machines

/-!
# The directory of interfaces

An interface is looked for under its name in the directory of interfaces. With a proper
configuration no name leads out of the directory, and no two names to the same place; with another
one nothing is looked for.

* `InterfaceName.Ordinary`: what makes of a name one component of a path;
* `Path.IsEntry`: a path goes through a directory to a name in it, and no further;
* `Path.IsEntry.stands_in`: what is found there stands in the directory;
* `Placement.lookups`: the paths at which a run has looked for interfaces;
* `System.run_of_same`: what is at other paths is of no consequence to the run;
* `LooksInside`, `interfaces_are_looked_for_in_directory`: the lookups of procedures and looks.

Where the directory leads to, and whether there is one, is left open.
-/

namespace GuestNat

/-! ## Names as components -/

/-- A name of 1 to 15 octets that is one component of a path, and is not about the directory that it
is looked for in. -/
structure InterfaceName.Ordinary (name : String) : Prop where
  nonempty : 1 ≤ name.utf8ByteSize
  short : name.utf8ByteSize ≤ 15
  no_slash : '/' ∉ name.toList
  relative : Path.isAbsolute name = false
  not_here : name ≠ "."
  not_above : name ≠ ".."

namespace Path

/-- The path goes through the directory to the name in it, and no further. -/
structure IsEntry (directory name path : String) : Prop where
  ordinary : InterfaceName.Ordinary name
  /-- It is written as the directory and the name, perhaps with a slash between them. -/
  text : ∃ slash ∈ ["", "/"], path = directory ++ (slash ++ name)
  /-- The name is the one component behind those of the directory, -/
  components : Path.components path = Path.parts directory ++ [name]
  /-- which start at the same place. -/
  start : isAbsolute path = isAbsolute directory

end Path

/-- A name that passes is ordinary. -/
theorem InterfaceName.ordinary {name : String} (h : InterfaceName.check name = .ok ()) :
    InterfaceName.Ordinary name := by
  obtain ⟨hne, hsize, ⟨hhere, habove⟩, hallowed⟩ := InterfaceName.check_eq_ok_iff.mp h
  have hslash : '/' ∉ name.toList := by
    intro hslash
    cases hallowed '/' hslash
  have hpos : name.utf8ByteSize ≠ 0 := by
    rw [ne_eq, String.utf8ByteSize_eq_zero_iff, ← String.toList_eq_nil_iff]
    exact hne
  exact ⟨Nat.one_le_iff_ne_zero.mpr hpos, hsize, hslash, Path.isAbsolute_of_no_slash hslash, hhere,
    habove⟩

theorem InterfaceName.Ordinary.ne_nil {name : String} (h : InterfaceName.Ordinary name) :
    name.toList ≠ [] := by
  intro hnil
  have hpos := h.nonempty
  rw [String.toList_eq_nil_iff.mp hnil] at hpos
  exact absurd hpos (by decide)

namespace Path

variable {directory name other path : String}

/-- An ordinary name is looked for in the directory. -/
theorem isEntry_join (directory : String) (h : InterfaceName.Ordinary name) :
    IsEntry directory name (join directory name) where
  ordinary := h
  text := join_eq_append directory h.no_slash
  components := components_join directory h.no_slash h.ne_nil
  start := isAbsolute_join directory h.no_slash

/-- A path is that of one name. -/
theorem IsEntry.name_unique (h : IsEntry directory name path) (h' : IsEntry directory other path) :
    name = other := by
  have heq := h.components.symm.trans h'.components
  exact List.singleton_inj.mp (List.append_cancel_left heq)

end Path

/-- The location is right under the one that the path of a directory leads to. -/
def FileTree.StandsIn (tree : FileTree) (cwd : Location) (directory name : String)
    (location : Location) : Prop :=
  ∃ there, tree.walk (if Path.isAbsolute directory then [] else cwd) (Path.parts directory) =
      .ok there ∧ tree.entry? there = some .directory ∧ location = there ++ [name]

/-- A walk of one ordinary name leads right under where it starts. -/
theorem FileTree.walk_last {tree : FileTree} {there location : Location} {name : String}
    (hhere : name ≠ ".") (habove : name ≠ "..") (h : tree.walk there [name] = .ok location) :
    tree.entry? there = some .directory ∧ location = there ++ [name] := by
  rw [walk, if_neg hhere, if_neg habove] at h
  -- of what can come of a component, only one thing is a location
  split at h
  · cases h
  · next hdirectory =>
      refine ⟨not_not.mp hdirectory, ?_⟩
      split at h
      · cases h
      · split at h
        · cases h
        · cases h
        · exact (Except.ok.inj h).symm

/-- What is found at the path of an entry stands in the directory. -/
theorem Path.IsEntry.stands_in {directory name path : String}
    (hentry : Path.IsEntry directory name path) {tree : FileTree} {cwd location : Location}
    (h : tree.locate cwd path = .ok location) : tree.StandsIn cwd directory name location := by
  obtain ⟨-, -, -, hwalk⟩ := FileTree.locate_eq_ok_iff.mp h
  rw [hentry.components, hentry.start, FileTree.walk_append] at hwalk
  -- the walk to the entry passes through the directory, so the directory was reached
  cases hthere : tree.walk (if Path.isAbsolute directory then [] else cwd)
      (Path.parts directory) with
  | error e =>
      rw [hthere] at hwalk
      cases hwalk
  | ok there =>
      rw [hthere] at hwalk
      obtain ⟨hdirectory, hlocation⟩ :=
        FileTree.walk_last hentry.ordinary.not_here hentry.ordinary.not_above hwalk
      exact ⟨there, hthere, hdirectory, hlocation⟩

/-! ## What a run looks at -/

section Lookups

variable {α σ : Type} {place : Placement}

/-- The path that a question about an interface is answered by. -/
def Placement.lookup? (place : Placement) : Question → Option String
  | .interface name => some (System.interfacePath place name)
  | .forwarding | .rule _ => none

/-- The paths at which interfaces were looked for, in order. -/
def Placement.lookups (place : Placement) (trace : List Occurrence) : List String :=
  (questionsOf trace).filterMap place.lookup?

theorem lookups_of_call {ρ : Type} (r : Response σ ρ) {call : Occurrence} (hcall : call.isCall)
    (t : List Occurrence) : place.lookups (r.trace call ++ t) =
      (call.question?.bind place.lookup?).toList ++ place.lookups t := by
  unfold Placement.lookups
  rw [questions_of_append, questions_of_call r hcall, List.filterMap_append]
  cases call.question? with
  | none => rfl
  | some question => cases hpath : place.lookup? question <;> simp [hpath]

section Run

variable {host : Host σ} {s : σ}

theorem lookups_of_ask (question : Question) (next : Reply Bool → Plan α) :
    let r := host.ask question s
    place.lookups ((Plan.ask question next).run host s).trace =
      (place.lookup? question).toList ++ place.lookups ((next r.reply).run host r.state).trace :=
  lookups_of_call (host.ask question s) rfl _

/-- A change looks for no interface. -/
theorem lookups_of_make (change : Change) (next : Reply Unit → Plan α) :
    let r := host.make change s
    place.lookups ((Plan.make change next).run host s).trace =
      place.lookups ((next r.reply).run host r.state).trace :=
  lookups_of_call (host.make change s) rfl _

end Run

/-- A question is about none but some interfaces. -/
def Question.Seeks (names : List String) : Question → Prop
  | .interface name => name ∈ names
  | .forwarding | .rule _ => True

/-- A plan that asks about some interfaces looks for these, by induction on the plan. -/
theorem Plan.Within.lookups {names : List String} {makes : Change → Prop} {plan : Plan α}
    (h : plan.Within (Question.Seeks names) makes) (host : Host σ) (s : σ) :
    ∀ path ∈ place.lookups (plan.run host s).trace,
      ∃ name ∈ names, path = System.interfacePath place name := by
  induction plan generalizing s with
  | done a => exact List.forall_mem_nil _
  | note event next ih => exact ih h s
  | ask question next ih =>
      rw [lookups_of_ask]
      refine List.forall_mem_append.mpr ⟨?_, ih _ (h.2 _) _⟩
      intro path hpath
      -- only the question about an interface looks a path up in the directory
      cases question with
      | forwarding => cases hpath
      | rule rule => cases hpath
      | interface name =>
          obtain rfl := List.mem_singleton.mp hpath
          exact ⟨name, h.1, rfl⟩
  | make change next ih =>
      rw [lookups_of_make]
      exact ih _ (h.2 _) _

end Lookups

/-! ## What it does not look at -/

/-- The systems do the same, and find the same under some paths. Under other ones they may find
what they like. -/
structure System.SameAt {σ : Type} (system other : System σ) (paths : String → Prop) : Prop where
  read : other.read = system.read
  openFile : other.openFile = system.openFile
  write : other.write = system.write
  start : other.start = system.start
  contains : ∀ path, paths path → other.contains path = system.contains path

section Same

variable {α σ : Type} {system other : System σ} {place : Placement} {paths : String → Prop}

theorem System.SameAt.mono (h : system.SameAt other paths) {fewer : String → Prop}
    (hfewer : ∀ path, fewer path → paths path) : system.SameAt other fewer :=
  ⟨h.read, h.openFile, h.write, h.start, fun path hpath => h.contains path (hfewer path hpath)⟩

/-- A question is answered from the one path that it is about. -/
theorem System.SameAt.ask (h : system.SameAt other paths) {question : Question}
    (hpath : ∀ path, place.lookup? question = some path → paths path) (s : σ) :
    (other.host place).ask question s = (system.host place).ask question s := by
  -- each question reads one thing of the machine: the knob, one path, or the program's reply
  cases question with
  | forwarding =>
      unfold System.host
      rw [h.read]
  | interface name =>
      unfold System.host
      dsimp only
      rw [h.contains _ (hpath _ rfl)]
  | rule rule =>
      unfold System.host System.runFirewall
      rw [h.start]

/-- A change is made without looking at anything but the knob. -/
theorem System.SameAt.make (h : system.SameAt other paths) (hknob : paths place.knob)
    (change : Change) (s : σ) :
    (other.host place).make change s = (system.host place).make change s := by
  cases change with
  | setForwarding on =>
      unfold System.host System.writeKnob System.overwriteKnob
      rw [h.contains _ hknob, h.openFile, h.write]
  | append rule =>
      unfold System.host System.runFirewall
      rw [h.start]
  | delete rule =>
      unfold System.host System.runFirewall
      rw [h.start]

/-- A run looks at the knob and at its lookups and at nothing else: whatever is found elsewhere, it
is the same run. The induction is on the plan. -/
theorem System.run_of_same {plan : Plan α} {s : σ}
    (h : system.SameAt other fun path =>
      path = place.knob ∨ path ∈ place.lookups (plan.run (system.host place) s).trace) :
    plan.run (other.host place) s = plan.run (system.host place) s := by
  induction plan generalizing s with
  | done a => rfl
  | note event next ih =>
      unfold Plan.run
      rw [ih h]
  -- the answers agree, so both runs go on alike, with the lookups still to come
  | ask question next ih =>
      rw [lookups_of_ask] at h
      unfold Plan.run
      dsimp only
      rw [h.ask, ih]
      · refine h.mono ?_
        rintro path (hknob | hpath)
        · exact .inl hknob
        · exact .inr (List.mem_append_right _ hpath)
      · intro path hpath
        exact .inr (List.mem_append_left _ (Option.mem_toList.mpr hpath))
  | make change next ih =>
      rw [lookups_of_make] at h
      unfold Plan.run
      dsimp only
      rw [h.make (.inl rfl), ih _ h]

end Same

/-! ## Procedures and looks -/

variable {α σ : Type}

/-- A run looks for interfaces at entries of their directory and nowhere else. -/
structure LooksInside (system : System σ) (place : Placement) (names : List String)
    (plan : Plan α) (s : σ) : Prop where
  /-- What is looked up is the entry for one of the names, -/
  entries : ∀ path ∈ place.lookups (plan.run (system.host place) s).trace,
    ∃ name ∈ names, Path.IsEntry place.interfaces name path
  /-- and what is elsewhere is of no consequence. -/
  elsewhere : ∀ other : System σ, (system.SameAt other fun path => path = place.knob ∨
    ∃ name ∈ names, Path.IsEntry place.interfaces name path) →
      plan.run (other.host place) s = plan.run (system.host place) s

theorem Plan.Within.looks_inside {names : List String} {makes : Change → Prop} {plan : Plan α}
    (h : plan.Within (Question.Seeks names) makes)
    (hnames : ∀ name ∈ names, InterfaceName.Ordinary name) (system : System σ)
    (place : Placement) (s : σ) : LooksInside system place names plan s := by
  have hentries : ∀ path ∈ place.lookups (plan.run (system.host place) s).trace,
      ∃ name ∈ names, Path.IsEntry place.interfaces name path := by
    intro path hpath
    obtain ⟨name, hname, rfl⟩ := h.lookups (system.host place) s path hpath
    exact ⟨name, hname, Path.isEntry_join place.interfaces (hnames name hname)⟩
  refine ⟨hentries, ?_⟩
  intro other hsame
  refine System.run_of_same (hsame.mono ?_)
  intro path hpath
  exact hpath.imp_right (hentries path)

/-- The questions about a configuration are about no interfaces but its own. -/
theorem NatConfig.Asks.seeks {config : NatConfig} {question : Question}
    (h : config.Asks question) : question.Seeks [config.tap, config.uplink] := by
  cases question with
  | forwarding => trivial
  | interface name => exact h
  | rule rule => trivial

/-- A configuration that does not pass ends a procedure before any call. -/
theorem Procedure.run_refused (procedure : Procedure) {config : NatConfig} {fault : InterfaceFault}
    (hcheck : config.check = .error fault) (privilege : Privilege) (host : Host σ) (s : σ) :
    (procedure.setup config privilege).run.run host s =
      ⟨.error (.config (.interfaces fault)), s, []⟩ := by
  have hplan : (procedure.setup config privilege).run =
      .done (.error (.config (.interfaces fault))) := by
    rw [procedure.setup_eq]
    unfold Setup.checkConfig
    rw [hcheck]
    rfl
  rw [hplan]
  rfl

/-- **Interfaces are looked for in their directory.** With a proper configuration, every procedure
and every look searches for interfaces at paths that go through the directory of interfaces to one
ordinary name and no further, and what is found anywhere else makes no difference; so what is found
stands in that directory. Different names have different paths there. With a configuration that does
not pass, nothing is looked for and nothing else is called. -/
theorem interfaces_are_looked_for_in_directory (system : System σ) (place : Placement)
    (config : NatConfig) (s : σ) :
    (config.check = .ok () →
      (∀ (procedure : Procedure) (privilege : Privilege), LooksInside system place
        [config.tap, config.uplink] (procedure.setup config privilege).run s) ∧
      LooksInside system place [config.tap, config.uplink] (Status.probe config) s) ∧
    (∀ name path, Path.IsEntry place.interfaces name path →
      ∀ (tree : FileTree) (cwd location : Location), tree.locate cwd path = .ok location →
        tree.StandsIn cwd place.interfaces name location) ∧
    (∀ name other, InterfaceName.check name = .ok () → InterfaceName.check other = .ok () →
      System.interfacePath place name = System.interfacePath place other → name = other) ∧
    (∀ fault, config.check = .error fault → ∀ (procedure : Procedure) (privilege : Privilege),
      let run := (procedure.setup config privilege).run.run (system.host place) s
      run.value = .error (.config (.interfaces fault)) ∧ run.trace = [] ∧
        place.lookups run.trace = [] ∧ run.state = s) := by
  refine ⟨?_, ?_, ?_, ?_⟩
  · intro hcheck
    have hnames : ∀ name ∈ [config.tap, config.uplink], InterfaceName.Ordinary name :=
      fun name hname => InterfaceName.ordinary (config.check_names hcheck name hname)
    -- both kinds of run seek the two names only, which the check found to be ordinary
    constructor
    · intro procedure privilege
      have hwithin := (procedure.within_setup config privilege).mono
        (fun _ h => h.asks.seeks) fun _ h => h
      exact hwithin.looks_inside hnames system place s
    · have hwithin : (Status.probe config).Within (Question.Seeks [config.tap, config.uplink])
          fun _ => False := within_probe.mono (fun _ h => h.seeks) fun _ h => h
      exact hwithin.looks_inside hnames system place s
  · exact fun name path hentry tree cwd location => hentry.stands_in
  · intro name other hname hother hpath
    have hentry := Path.isEntry_join place.interfaces (InterfaceName.ordinary hname)
    have hentry' := Path.isEntry_join place.interfaces (InterfaceName.ordinary hother)
    unfold System.interfacePath at hpath
    rw [← hpath] at hentry'
    exact hentry.name_unique hentry'
  · intro fault hcheck procedure privilege run
    have hrun : run = ⟨.error (.config (.interfaces fault)), s, []⟩ :=
      procedure.run_refused hcheck privilege (system.host place) s
    rw [hrun]
    exact ⟨rfl, rfl, rfl, rfl⟩

/-- Names that are all but reserved, and one that would lead elsewhere. -/
theorem interfaces_are_looked_for_in_directory_of_dots :
    let host := Machine.system.host {}
    let machine := Machine.standard true [] ["...", "Gäste"]
    let config : NatConfig := { tap := "...", uplink := "Gäste" }
    let run := (Setup.apply config {} .elevated).run.run host machine
    let refused := (Setup.apply { config with tap := "../eth0" } {} .elevated).run.run host machine
    Placement.lookups {} run.trace =
      ["/sys/class/net/...", "/sys/class/net/...", "/sys/class/net/Gäste"] ∧
    (∀ path ∈ Placement.lookups {} run.trace, ∃ name ∈ ["...", "Gäste"],
      Path.IsEntry "/sys/class/net" name path) ∧
    Placement.lookups {} refused.trace = [] := by
  intro host machine config run refused
  have hinside := interfaces_are_looked_for_in_directory Machine.system {} config machine
  have hrefused := interfaces_are_looked_for_in_directory Machine.system {}
    { config with tap := "../eth0" } machine
  obtain ⟨hprocedure, -⟩ := hinside.1 (by decide +kernel)
  obtain ⟨-, -, hnone, -⟩ :=
    hrefused.2.2.2 (.badName (.badCharacter "../eth0")) (by decide +kernel) (.apply {}) .elevated
  exact ⟨by decide +kernel, (hprocedure (.apply {}) .elevated).entries, hnone⟩

end GuestNat
