import GuestNat.Host.Machine
import GuestNat.Proofs.Lookups
import GuestNat.Proofs.Systems

/-!
# Machines obey

A machine with an unscripted firewall command, a knob that is a file, and interfaces that can all be
looked for is a system that does as it is told: what is expected of systems is kept by one.

* `Rule.text_mem_iff`, `Rule.erase_text`: plain rules and their texts;
* `Machine.Shows`: what a machine shows;
* `machine_obeys`: a machine obeys;
* `FileTree.contains_interface`: a directory in which all interfaces can be looked for.
-/

namespace GuestNat

/-! ## Rules as texts -/

section Texts

variable {rules : List Rule} {rule : Rule} (hrules : ∀ rule ∈ rules, rule.Plain) (h : rule.Plain)

include hrules h

theorem Rule.text_mem_iff : rule.text ∈ rules.map Rule.text ↔ rule ∈ rules := by
  rw [List.mem_map]
  -- the text of a plain rule tells which rule it is
  constructor
  · rintro ⟨other, hother, htext⟩
    rwa [← (hrules other hother).text_injective h htext]
  · intro hmem
    exact ⟨rule, hmem, rfl⟩

/-- Taking a text away is taking the rule away, by induction on the rules. -/
theorem Rule.erase_text :
    (rules.map Rule.text).erase rule.text = (rules.erase rule).map Rule.text := by
  induction rules with
  | nil => rfl
  | cons first others ih =>
      rw [List.map_cons, List.erase_cons, List.erase_cons]
      by_cases heq : first = rule
      · simp [heq]
      · have htext : first.text ≠ rule.text := fun htext =>
          heq ((hrules first List.mem_cons_self).text_injective h htext)
        have hothers := ih fun other hother => hrules other (List.mem_cons_of_mem first hother)
        simp [heq, htext, hothers]

end Texts

/-- The words that a system is handed for a rule hold no NUL. -/
theorem Rule.Usable.no_nul {rule : Rule} (h : rule.Usable) (action : Action) :
    ∀ word ∈ FirewallCommand.arguments rule action, '\x00' ∉ word.toList := by
  obtain ⟨config, husable, hrule⟩ := h
  -- a printed subnet is digits, points and a slash
  have hsubnet : '\x00' ∉ config.subnet.text.toList := by
    intro hmem
    rcases config.subnet.mem_text hmem with h | h | h <;> exact absurd h (by decide)
  have hwords : '\x00' ∉ rule.chain.toList ∧ ∀ arg ∈ rule.args, '\x00' ∉ arg.toList :=
    config.forall_words (by decide) husable.no_nul hsubnet rule hrule
  have htable : '\x00' ∉ rule.table.name.toList := by
    cases rule.table <;> decide
  have hflag : '\x00' ∉ action.flag.toList := by
    cases action <;> decide
  simp only [FirewallCommand.arguments, Rule.commandArgs, List.forall_mem_cons]
  exact ⟨by decide, by decide, htable, hflag, hwords⟩

/-! ## The firewall command -/

namespace RuleKeeper

variable {keeper : RuleKeeper}

/-- Without a script the command obeys. -/
theorem invoke_unscripted (h : keeper.script = []) (rule : Rule) (action : Action) :
    ∃ after : RuleKeeper, after.script = [] ∧
      after.rules = (obey keeper.rules action.flag rule.text).2 ∧
      keeper.invoke (FirewallCommand.arguments rule action) =
        ((obey keeper.rules action.flag rule.text).1, after) := by
  refine ⟨{ rules := (obey keeper.rules action.flag rule.text).2
            runs := keeper.runs ++
              [(action.flag, Text.joinWords (FirewallCommand.arguments rule action))] },
    rfl, rfl, ?_⟩
  unfold FirewallCommand.arguments Rule.commandArgs invoke entry?
  rw [h]
  rfl

/-- What a run that finds no rule says. -/
theorem noMatch_foundNone : noMatch.FoundNone := ⟨"\n", by decide, rfl⟩

/-- A search succeeds if there is what it looks for, and else says that there is none. -/
theorem answer_of_search {found : Prop} [Decidable found] {outcome : Outcome}
    (h : outcome = if found then .exited 0 [] else noMatch) :
    if found then outcome.Succeeded else outcome.FoundNone := by
  rw [h]
  split
  · exact ⟨[], rfl⟩
  · exact noMatch_foundNone

section Plain

variable {rules : List Rule} {rule : Rule}

theorem obey_append :
    obey (rules.map Rule.text) Action.append.flag rule.text =
      (.exited 0 [], (rules ++ [rule]).map Rule.text) := by
  rw [List.map_append]
  rfl

variable (hrules : ∀ rule ∈ rules, rule.Plain) (h : rule.Plain)

include hrules h

theorem obey_check :
    obey (rules.map Rule.text) Action.check.flag rule.text =
      (if rule ∈ rules then .exited 0 [] else noMatch, rules.map Rule.text) := by
  have hfound : (rules.map Rule.text).contains rule.text = decide (rule ∈ rules) := by
    rw [List.contains_eq_mem]
    exact decide_eq_decide.mpr (Rule.text_mem_iff hrules h)
  have hobey : obey (rules.map Rule.text) Action.check.flag rule.text =
      (if (rules.map Rule.text).contains rule.text then .exited 0 [] else noMatch,
        rules.map Rule.text) := rfl
  rw [hobey, hfound]
  simp only [decide_eq_true_eq]

theorem obey_delete :
    obey (rules.map Rule.text) Action.delete.flag rule.text =
      (if rule ∈ rules then .exited 0 [] else noMatch, (rules.erase rule).map Rule.text) := by
  have hobey : obey (rules.map Rule.text) Action.delete.flag rule.text =
      if (rules.map Rule.text).contains rule.text then
        (.exited 0 [], (rules.map Rule.text).erase rule.text)
      else (noMatch, rules.map Rule.text) := rfl
  rw [hobey, List.contains_eq_mem, Rule.erase_text hrules h]
  by_cases hmem : rule ∈ rules
  · simp [hmem, (Rule.text_mem_iff hrules h).mpr hmem]
  · have hnot : rule.text ∉ rules.map Rule.text := fun htext =>
      hmem ((Rule.text_mem_iff hrules h).mp htext)
    simp [hmem, hnot, List.erase_of_not_mem]

end Plain

end RuleKeeper

/-! ## Machines -/

/-- What a machine shows under a placement: rules of which nothing is scripted, a knob, and
interfaces. -/
structure Machine.Shows (place : Placement) (present : String → Bool) (machine : Machine)
    (rules : List Rule) (knob : Bytes) : Prop where
  rules_eq : machine.firewall.rules = rules.map Rule.text
  plain : ∀ rule ∈ rules, rule.Plain
  unscripted : machine.firewall.script = []
  /-- The firewall command can be started. -/
  started : machine.files.startProgram machine.cwd machine.searchPath place.firewall = .ok ()
  no_nul : '\x00' ∉ place.firewall.toList
  /-- The knob is a file. -/
  knob_file : ∃ executable,
    machine.files.find machine.cwd place.knob = .ok (.file knob executable)
  /-- Every interface can be looked for. -/
  interface : ∀ name, InterfaceName.Usable name →
    machine.files.contains machine.cwd (System.interfacePath place name) = .ok (present name)

namespace Machine

variable {place : Placement} {present : String → Bool} {machine : Machine} {rules : List Rule}
  {knob : Bytes}

/-- A run of the firewall command is left to its keeper, and with the rules that the keeper then
has the machine shows the rest as before. -/
theorem Shows.run (h : Shows place present machine rules knob) {rule : Rule} (hrule : rule.Usable)
    {action : Action} {outcome : Outcome} {rules' : List Rule}
    (hobey : RuleKeeper.obey (rules.map Rule.text) action.flag rule.text =
      (outcome, rules'.map Rule.text)) (hrules' : ∀ rule ∈ rules', rule.Plain) :
    (machine.start place.firewall (FirewallCommand.arguments rule action)).1 = outcome ∧
      Shows place present (machine.start place.firewall (FirewallCommand.arguments rule action)).2
        rules' knob := by
  obtain ⟨firewall, hscript, hrules, hinvoke⟩ :=
    RuleKeeper.invoke_unscripted h.unscripted rule action
  rw [h.rules_eq, hobey] at hrules hinvoke
  -- no word that is handed over keeps the command from being started
  have hwords : (place.firewall :: FirewallCommand.arguments rule action).any hasNul = false := by
    rw [List.any_eq_false]
    simp only [hasNul, List.contains_eq_mem, decide_eq_true_eq, List.forall_mem_cons]
    exact ⟨h.no_nul, hrule.no_nul action⟩
  have hstart : machine.start place.firewall (FirewallCommand.arguments rule action) =
      (outcome, { machine with firewall }) := by
    unfold Machine.start
    rw [hwords, h.started, hinvoke]
    rfl
  rw [hstart]
  exact ⟨rfl, { h with rules_eq := hrules, plain := hrules', unscripted := hscript }⟩

/-- With another content in the knob, a machine shows this one. -/
theorem Shows.rewritten (h : Shows place present machine rules knob) {content : Bytes}
    {files : FileTree} (hfiles : machine.files.Rewritten machine.cwd place.knob content files) :
    Shows place present { machine with files } rules content := by
  refine { h with started := ?_, knob_file := FileTree.find_of_read hfiles.content, interface := ?_ }
  · rw [← hfiles.outline.startProgram]
    exact h.started
  · intro name hname
    rw [← hfiles.outline.contains]
    exact h.interface name hname

/-- The knob can be opened without what it held, and then takes what is written to it. -/
theorem Shows.knob_written (h : Shows place present machine rules knob) (content : Bytes) :
    let opened := machine.openFile place.knob { write := true, truncate := true }
    ∃ handle, opened.1 = .ok handle ∧
      let written := opened.2.write handle content
      written.1 = .ok () ∧ Shows place present written.2 rules content := by
  intro opened
  obtain ⟨executable, hknob⟩ := h.knob_file
  let mode : OpenMode := { write := true, truncate := true }
  have hmode : mode.write = true := rfl
  obtain ⟨handle, files, hopen, -, hwritten⟩ := opens_file hknob hmode
  have hcontent := hwritten content
  rw [OpenMode.written_of_truncate rfl] at hcontent
  have hopened : opened = (.ok handle, { machine with files }) := hopen
  rw [hopened]
  exact ⟨handle, rfl, rfl, h.rewritten hcontent⟩

end Machine

/-- A machine is a system that does as it is told. -/
theorem machine_obeys (place : Placement) (present : String → Bool) :
    Obeys Machine.system place present (Machine.Shows place present) where
  appends := by
    intro machine rules knob rule h hrule
    have hplain : ∀ other ∈ rules ++ [rule], other.Plain :=
      List.forall_mem_append.mpr ⟨h.plain, List.forall_mem_singleton.mpr hrule.plain⟩
    obtain ⟨houtcome, hshows⟩ := h.run hrule RuleKeeper.obey_append hplain
    exact ⟨⟨[], houtcome⟩, hshows⟩
  checks := by
    intro machine rules knob rule h hrule
    obtain ⟨houtcome, hshows⟩ := h.run hrule (RuleKeeper.obey_check h.plain hrule.plain) h.plain
    exact ⟨RuleKeeper.answer_of_search houtcome, hshows⟩
  -- the rules behind a deletion are still plain, as `Shows` wants them
  deletes := by
    intro machine rules knob rule h hrule
    have hplain : ∀ other ∈ rules.erase rule, other.Plain := fun other hother =>
      h.plain other (List.mem_of_mem_erase hother)
    obtain ⟨houtcome, hshows⟩ := h.run hrule (RuleKeeper.obey_delete h.plain hrule.plain) hplain
    exact ⟨RuleKeeper.answer_of_search houtcome, hshows⟩
  knob_there := by
    intro machine rules knob h
    obtain ⟨executable, hknob⟩ := h.knob_file
    exact FileTree.contains_of_find hknob
  knob_read := by
    intro machine rules knob h
    obtain ⟨executable, hknob⟩ := h.knob_file
    exact FileTree.read_of_find hknob
  knob_written := fun machine rules knob content h => h.knob_written content
  interface := fun machine rules knob name h hname => h.interface name hname

/-! ## Interfaces as entries of a directory -/

/-- An entry of a directory can have the name of an interface. -/
theorem InterfaceName.Usable.isName {name : String} (h : InterfaceName.Usable name) :
    FileTree.IsName name := by
  obtain ⟨hne, hsize, ⟨hhere, habove⟩, hallowed⟩ := InterfaceName.check_eq_ok_iff.mp h.check
  refine ⟨hne, ?_, h.no_nul, hhere, habove, Nat.le_trans hsize (by decide)⟩
  intro hslash
  cases hallowed '/' hslash

/-- In a directory without links to themselves every interface can be looked for. -/
theorem FileTree.contains_interface {tree : FileTree} {cwd location : Location} {place : Placement}
    (hlocate : tree.locate cwd place.interfaces = .ok location)
    (hdirectory : tree.entry? location = some .directory)
    (hloops : ∀ name, tree.entry? (location ++ [name]) ≠ some .loop)
    (hsize : place.interfaces.utf8ByteSize + 1 + InterfaceName.maxSize < maxPath) {name : String}
    (hname : InterfaceName.Usable name) :
    tree.contains cwd (System.interfacePath place name) =
      .ok (tree.entry? (location ++ [name])).isSome := by
  obtain ⟨-, hshort, -⟩ := InterfaceName.check_eq_ok_iff.mp hname.check
  unfold System.interfacePath
  rw [contains_join hlocate hdirectory hname.isName (by omega)]
  -- a name may stand for a file or a directory, and the look-up finds either
  have hloop := hloops name
  cases hentry : tree.entry? (location ++ [name]) with
  | none => rfl
  | some entry =>
      cases entry with
      | file content executable => rfl
      | directory => rfl
      | loop => exact absurd hentry hloop

/-! ## A machine for every host in memory -/

namespace Machine

/-- Files with everything where it is looked for. -/
def standardFiles (knob : Bytes) (interfaces : List String) : FileTree where
  entries :=
    [(["proc"], .directory), (["proc", "sys"], .directory), (["proc", "sys", "net"], .directory),
      (["proc", "sys", "net", "ipv4"], .directory),
      (["proc", "sys", "net", "ipv4", "ip_forward"], .file knob false),
      (["sbin"], .directory), (["sbin", "iptables"], .file [] true),
      (["sys"], .directory), (["sys", "class"], .directory),
      (["sys", "class", "net"], .directory)] ++
    interfaces.map fun name => (["sys", "class", "net", name], .directory)

/-- A machine that holds what a host in memory holds. -/
def standard (forwarding : Bool) (rules : List Rule) (interfaces : List String) : Machine where
  files := standardFiles (Knob.content forwarding) interfaces
  searchPath := ["/sbin"]
  firewall := { rules := rules.map Rule.text }

variable {knob : Bytes} {interfaces : List String}

theorem standard_knob :
    (standardFiles knob interfaces).find [] Knob.standardPath = .ok (.file knob false) := by
  rfl

theorem standard_program :
    (standardFiles knob interfaces).startProgram [] ["/sbin"] "iptables" = .ok () := by
  rfl

theorem standard_directory :
    (standardFiles knob interfaces).locate [] "/sys/class/net" = .ok ["sys", "class", "net"] := by
  rfl

/-- Of the interfaces the one with the name is found, by induction on the interfaces. -/
theorem find_interface (interfaces : List String) (name : String) :
    (interfaces.map fun name => (["sys", "class", "net", name], Entry.directory)).find?
        (·.1 = ["sys", "class", "net", name]) =
      if name ∈ interfaces then some (["sys", "class", "net", name], .directory) else none := by
  induction interfaces with
  | nil => rfl
  | cons first others ih =>
      rw [List.map_cons, List.find?_cons, ih]
      by_cases heq : first = name
      · simp [heq]
      · simp [heq, Ne.symm heq]

/-- In the directory of the interfaces there stand the interfaces. -/
theorem standard_interface (name : String) :
    FileTree.entry? (standardFiles knob interfaces) (["sys", "class", "net"] ++ [name]) =
      if name ∈ interfaces then some .directory else none := by
  have hfind := find_interface interfaces name
  unfold FileTree.entry? standardFiles
  rw [List.find?_append]
  by_cases hmem : name ∈ interfaces <;> simp_all

theorem standard_contains {name : String} (hname : InterfaceName.Usable name) :
    (standardFiles knob interfaces).contains [] (System.interfacePath {} name) =
      .ok (interfaces.contains name) := by
  have hloops : ∀ name, FileTree.entry? (standardFiles knob interfaces)
      (["sys", "class", "net"] ++ [name]) ≠ some .loop := by
    intro name
    rw [standard_interface]
    split <;> simp
  have hcontains : (standardFiles knob interfaces).contains [] (System.interfacePath {} name) =
      .ok (FileTree.entry? (standardFiles knob interfaces)
        (["sys", "class", "net"] ++ [name])).isSome :=
    FileTree.contains_interface standard_directory rfl hloops (by decide) hname
  rw [hcontains, standard_interface]
  by_cases hmem : name ∈ interfaces <;> simp [hmem]

/-- Every host in memory that refuses nothing is depicted by a machine, if its rules are plain. -/
theorem standard_depicts (forwarding : Bool) {rules : List Rule}
    (hplain : ∀ rule ∈ rules, rule.Plain) (interfaces : List String) :
    Depicts interfaces.contains (Machine.Shows {} interfaces.contains)
      (standard forwarding rules interfaces)
      { forwarding, rules, interfaces := some interfaces } where
  shown := by
    exact ⟨Knob.content forwarding, ⟨rfl, hplain, rfl, standard_program, by decide,
      ⟨false, standard_knob⟩, fun _ => standard_contains⟩, Knob.holds_content forwarding⟩
  interfaces := fun _ _ => rfl
  is_open := ⟨rfl, rfl⟩

end Machine

end GuestNat
