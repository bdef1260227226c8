import GuestNat.Proofs.Applying
import GuestNat.Proofs.Completion
import GuestNat.Proofs.Looking

/-!
# What removal undoes

Runs that add the rules without looking for them put one block of the three rules behind the other.
Removal takes the first copies of each rule, so it takes whole blocks, as many as its limit allows.

* `blocksOf`: equal blocks of rules, one behind the other;
* `effects_of_removing`: the effect of removal on any host;
* `removal_after_runs`: what is left of the rules after any number of runs and a removal.

Removal therefore undoes no more runs than its limit, and says nothing of the others but in its log.
-/

namespace GuestNat

variable {σ : Type} {host : Host σ} {memory : σ → Rehearsal} {s : σ} {config : NatConfig}

/-! ## Blocks of rules -/

/-- A number of equal blocks, one behind the other. -/
def blocksOf (number : Nat) (block : List Rule) : List Rule := (List.replicate number block).flatten

section Blocks

variable (number more : Nat) (block : List Rule)

@[simp] theorem blocks_of_zero : blocksOf 0 block = [] := rfl

theorem blocks_of_succ : blocksOf (number + 1) block = block ++ blocksOf number block := rfl

theorem blocks_of_add :
    blocksOf (number + more) block = blocksOf number block ++ blocksOf more block := by
  unfold blocksOf
  rw [List.replicate_add, List.flatten_append]

theorem blocks_of_nil : blocksOf number [] = [] := List.flatten_replicate_nil

theorem count_blocks_of (rule : Rule) :
    (blocksOf number block).count rule = number * block.count rule := by
  induction number with
  | zero => rw [blocks_of_zero, List.count_nil, Nat.zero_mul]
  | succ number ih => rw [blocks_of_succ, List.count_append, ih, Nat.succ_mul, Nat.add_comm]

theorem mem_blocks_of {rule : Rule} {block : List Rule} (hrule : rule ∈ block) :
    rule ∈ blocksOf number block ↔ 0 < number := by
  rw [← List.count_pos_iff, count_blocks_of]
  have hpos : 0 < block.count rule := List.count_pos_iff.mpr hrule
  exact Nat.mul_pos_iff_of_pos_right hpos

theorem blocks_of_eq_nil_iff {block : List Rule} (hblock : block ≠ []) :
    blocksOf number block = [] ↔ number = 0 := by
  cases number with
  | zero => simp
  | succ number => simp [blocks_of_succ, hblock]

end Blocks

/-- As many deletions of a rule as there are blocks in front take it out of these blocks. -/
theorem rules_after_deletes {rule : Rule} {block base rest : List Rule} (number : Nat)
    (hbase : rule ∉ base) (hmem : rule ∈ block) (hnodup : block.Nodup) :
    (List.replicate number (Change.delete rule)).foldl Change.onRules
        (base ++ blocksOf number block ++ rest) =
      base ++ blocksOf number (block.erase rule) ++ rest := by
  induction number generalizing base with
  | zero => rfl
  | succ number ih =>
      have hfirst : (base ++ blocksOf (number + 1) block ++ rest).erase rule =
          base ++ block.erase rule ++ blocksOf number block ++ rest := by
        rw [blocks_of_succ, List.append_assoc, List.append_assoc, List.append_assoc,
          List.erase_append_right _ hbase, List.erase_append_left _ hmem]
        simp only [List.append_assoc]
      have hbase' : rule ∉ base ++ block.erase rule := by
        intro h
        rcases List.mem_append.mp h with h | h
        · exact hbase h
        · exact hnodup.not_mem_erase h
      -- the block without the rule joins those in front, which stay without it
      rw [List.replicate_succ, List.foldl_cons]
      change (List.replicate number (Change.delete rule)).foldl Change.onRules
        ((base ++ blocksOf (number + 1) block ++ rest).erase rule) = _
      rw [hfirst, ih hbase', blocks_of_succ]
      simp only [List.append_assoc]

/-- The same for several rules in turn. -/
theorem rules_after_deletes_of_all {wanted block base rest : List Rule} (number : Nat)
    (hbase : ∀ rule ∈ wanted, rule ∉ base) (hmem : ∀ rule ∈ wanted, rule ∈ block)
    (hwanted : wanted.Nodup) (hnodup : block.Nodup) :
    (wanted.flatMap fun rule => List.replicate number (Change.delete rule)).foldl Change.onRules
        (base ++ blocksOf number block ++ rest) =
      base ++ blocksOf number (block.diff wanted) ++ rest := by
  induction wanted generalizing block with
  | nil => rfl
  | cons rule wanted ih =>
      obtain ⟨hnot, hwanted'⟩ := List.nodup_cons.mp hwanted
      -- deleting one rule from the blocks leaves the others, which are still to be deleted
      have hmem' : ∀ other ∈ wanted, other ∈ block.erase rule := by
        intro other hother
        have hne : other ≠ rule := fun heq => hnot (heq ▸ hother)
        exact (List.mem_erase_of_ne hne).mpr (hmem other (List.mem_cons_of_mem rule hother))
      rw [List.flatMap_cons, List.foldl_append,
        rules_after_deletes number (hbase rule List.mem_cons_self) (hmem rule List.mem_cons_self)
          hnodup,
        ih (fun other hother => hbase other (List.mem_cons_of_mem rule hother)) hmem' hwanted'
          (hnodup.erase rule),
        List.diff_cons]

/-! ## The effect of removal -/

/-- Removal deletes every rule as often as it is there, up to the limit, the last rule first. -/
theorem effects_of_removing (config : NatConfig) (memory : Rehearsal) (disableForwarding : Bool) :
    (Procedure.teardown disableForwarding).effects config memory Step.removing =
      (config.rules.reverse.flatMap fun rule =>
        List.replicate (min Setup.maxRemovals (memory.rules.count rule)) (.delete rule)) ++
      if disableForwarding then [.setForwarding false] else [] := by
  have hsteps : (Procedure.teardown disableForwarding).effects config memory Step.removing =
      Step.removing.flatMap ((Procedure.teardown disableForwarding).effect config memory) :=
    (Procedure.teardown disableForwarding).effects_of_steps config memory
  rw [hsteps]
  simp [Step.removing, Procedure.effect, Step.rule, NatConfig.rules_eq]

/-- Of blocks behind rules of another kind, removal leaves those beyond the limit. -/
theorem rules_after_removing {start : List Rule} {number : Nat} (disableForwarding : Bool)
    (hfresh : ∀ rule ∈ config.rules, rule ∉ start) {now : Rehearsal}
    (hnow : now.rules = start ++ blocksOf number config.rules) :
    (now.afterAll ((Procedure.teardown disableForwarding).effects config now Step.removing)).rules =
      start ++ blocksOf (number - Setup.maxRemovals) config.rules := by
  have hcount : ∀ rule ∈ config.rules.reverse, now.rules.count rule = number := by
    intro rule hrule
    have hrule' : rule ∈ config.rules := List.mem_reverse.mp hrule
    rw [hnow, List.count_append, List.count_eq_zero_of_not_mem (hfresh rule hrule'),
      count_blocks_of, List.count_eq_one_of_mem config.nodup_rules hrule']
    omega
  have heffect : (config.rules.reverse.flatMap fun rule =>
      List.replicate (min Setup.maxRemovals (now.rules.count rule)) (Change.delete rule)) =
        config.rules.reverse.flatMap fun rule =>
          List.replicate (min Setup.maxRemovals number) (.delete rule) := by
    refine List.flatMap_congr ?_
    intro rule hrule
    rw [hcount rule hrule]
  -- only the blocks within the limit are touched
  have hsplit : blocksOf number config.rules =
      blocksOf (min Setup.maxRemovals number) config.rules ++
        blocksOf (number - Setup.maxRemovals) config.rules := by
    rw [← blocks_of_add]
    congr 1
    omega
  have hnone : config.rules.diff config.rules.reverse = [] := by
    simp [NatConfig.rules_eq, Rule.acceptTo, Rule.acceptFrom, Rule.masquerade]
  rw [Rehearsal.rules_after_all, effects_of_removing, heffect, List.foldl_append, hnow, hsplit,
    ← List.append_assoc,
    rules_after_deletes_of_all _ (fun rule hrule => hfresh rule (List.mem_reverse.mp hrule))
      (fun rule hrule => List.mem_reverse.mp hrule) (List.nodup_reverse.mpr config.nodup_rules)
      config.nodup_rules,
    hnone, blocks_of_nil, List.append_nil]
  cases disableForwarding <;> rfl

/-! ## Runs that add the rules -/

theorem ends_add (hcheck : config.check = .ok ()) {now : Rehearsal} (hopen : now.Open)
    (verifyInterfaces : Bool) :
    (Setup.up config false verifyInterfaces).run.Ends Rehearsal.host now fun v s' _ =>
      s'.Open ∧ ∀ report, v = .ok report → s'.rules = now.rules ++ config.rules := by
  let procedure := Procedure.apply { idempotent := false, verifyInterfaces }
  have htook : (procedure.setup config .elevated).run.Ends Rehearsal.host now fun v s' _ =>
      Took now (procedure.effects config now Step.applying) (fun _ => True) v s' :=
    procedure.took_setup mirrors_rehearsal hcheck
  refine htook.mono ?_
  intro v s' _ hv
  obtain ⟨changes, hchanges⟩ := hv.exists_changes
  refine ⟨hchanges ▸ hopen.after_all changes, ?_⟩
  rintro report rfl
  rw [hv.2, Procedure.effects_of_adding config _ now rfl]
  exact (now.after_applying config.rules).1

/-- Each run that comes to its end adds a block, by induction on the runs. -/
theorem ends_add_in_turn (hcheck : config.check = .ok ()) {now : Rehearsal} (hopen : now.Open)
    (verify : List Bool) :
    (Setup.upInTurn config false verify).Ends Rehearsal.host now fun values s' _ =>
      s'.Open ∧ ((∀ value ∈ values, ∃ report, value = .ok report) →
        s'.rules = now.rules ++ blocksOf verify.length config.rules) := by
  -- every run that is through adds one block behind what is there
  induction verify generalizing now with
  | nil => exact Plan.ends_pure.mpr ⟨hopen, fun _ => (List.append_nil now.rules).symm⟩
  | cons verifyInterfaces verify ih =>
      refine Setup.ends_in_turn_cons.mpr ?_
      refine (ends_add hcheck hopen verifyInterfaces).mono ?_
      rintro value s' - ⟨hopen', hrules⟩
      refine (ih hopen').mono ?_
      rintro values s'' - ⟨hopen'', hrules'⟩
      refine ⟨hopen'', ?_⟩
      intro hok
      obtain ⟨report, hreport⟩ := hok value List.mem_cons_self
      rw [hrules' fun v hv => hok v (List.mem_cons_of_mem value hv), hrules report hreport,
        List.append_assoc]
      rfl

/-- Such runs come to their end where nothing is refused and all interfaces are there. -/
theorem add_in_turn_completes (hcheck : config.check = .ok ()) {now : Rehearsal}
    (hopen : now.Open) (hinterfaces : now.interfaces = none) (verify : List Bool) :
    (Setup.upInTurn config false verify).Ends Rehearsal.host now fun values _ _ =>
      ∀ value ∈ values, ∃ report, value = .ok report := by
  induction verify generalizing now with
  | nil => exact Plan.ends_pure.mpr fun value hvalue => absurd hvalue List.not_mem_nil
  | cons verifyInterfaces verify ih =>
      refine Setup.ends_in_turn_cons.mpr ?_
      let procedure := Procedure.apply { idempotent := false, verifyInterfaces }
      have hserved : procedure.Served config now := procedure.served_of_no_list hinterfaces
      refine (procedure_completes procedure hcheck hopen hserved).mono ?_
      rintro value s' - ⟨hvalue, hopen', hinterfaces'⟩
      refine (ih hopen' (hinterfaces'.trans hinterfaces)).mono ?_
      intro values _ _ hvalues
      exact List.forall_mem_cons.mpr ⟨hvalue, hvalues⟩

/-! ## Removal behind runs -/

/-- Removal comes to its end and leaves the blocks beyond the limit. -/
theorem ends_removal (hcheck : config.check = .ok ()) {now : Rehearsal} (hopen : now.Open)
    {start : List Rule} {number : Nat} (hfresh : ∀ rule ∈ config.rules, rule ∉ start)
    (hnow : now.rules = start ++ blocksOf number config.rules) (disableForwarding : Bool) :
    (Setup.teardown config disableForwarding .elevated).run.Ends Rehearsal.host now fun v s' _ =>
      (∃ report, v = .ok report) ∧
        s'.rules = start ++ blocksOf (number - Setup.maxRemovals) config.rules := by
  refine (ends_on_open hcheck (.teardown disableForwarding) hopen trivial).mono ?_
  rintro v s' - ⟨hreport, rfl⟩
  exact ⟨hreport, rules_after_removing disableForwarding hfresh hnow⟩

/-- What a removal behind a number of runs comes to, seen from the rules before these runs. -/
structure RemovedUpToLimit (config : NatConfig) (start : List Rule) (runs : Nat)
    (removal : Run Rehearsal (Except SetupError Report)) : Prop where
  ends_well : ∃ report, removal.value = .ok report
  /-- The blocks of the runs beyond the limit are left. -/
  rules : removal.state.rules =
    start ++ (List.replicate (runs - Setup.maxRemovals) config.rules).flatten
  /-- The runs are undone exactly if there were no more of them than the limit allows. -/
  undone : removal.state.rules = start ↔ runs ≤ Setup.maxRemovals
  /-- A look at the rules then finds all of them missing, and else all of them there. -/
  status : ((Status.probe config).run Rehearsal.host removal.state).value.rules.map
      (fun found => (found.rule, found.present)) =
    config.rules.map fun rule => (rule, some (decide (Setup.maxRemovals < runs)))

/-- **Removal undoes as many runs as its limit.** On any host in memory that refuses nothing and has
none of the rules, any number of runs that add the rules and come to their end are followed by a
removal. It comes to its end as well and leaves exactly the rules of the runs beyond the limit. -/
theorem removal_after_runs (hcheck : config.check = .ok ()) {start : Rehearsal}
    (hopen : start.Open) (hfresh : ∀ rule ∈ config.rules, rule ∉ start.rules)
    (verify : List Bool) (disableForwarding : Bool)
    (hruns : ∀ value ∈ ((Setup.upInTurn config false verify).run Rehearsal.host start).value,
      ∃ report, value = .ok report) :
    RemovedUpToLimit config start.rules verify.length
      ((Setup.teardown config disableForwarding .elevated).run.run Rehearsal.host
        ((Setup.upInTurn config false verify).run Rehearsal.host start).state) := by
  obtain ⟨hopen', hrules'⟩ := ends_add_in_turn hcheck hopen verify
  obtain ⟨hreport, hrules⟩ :=
    ends_removal hcheck hopen' hfresh (hrules' hruns) disableForwarding
  have hnonempty : config.rules ≠ [] := List.cons_ne_nil _ _
  refine ⟨hreport, hrules, ?_, ?_⟩
  · rw [hrules, List.append_right_eq_self, blocks_of_eq_nil_iff _ hnonempty]
    omega
  · obtain ⟨hstatus, -⟩ := ends_probe config
      ((Setup.teardown config disableForwarding .elevated).run.run Rehearsal.host
        ((Setup.upInTurn config false verify).run Rehearsal.host start).state).state
    rw [hstatus, Rehearsal.status_rules]
    refine List.map_congr_left ?_
    intro rule hrule
    -- what is still seen of a rule is what the limit left of its blocks
    have hmem : rule ∈ start.rules ++ blocksOf (verify.length - Setup.maxRemovals) config.rules ↔
        Setup.maxRemovals < verify.length := by
      rw [List.mem_append, mem_blocks_of _ hrule]
      constructor
      · rintro (hstart | hpos)
        · exact absurd hstart (hfresh rule hrule)
        · omega
      · intro hlt
        exact Or.inr (by omega)
    rw [Rehearsal.answer_rule, hrules]
    simp only [hmem]

/-- Two runs on a host with a foreign rule and an interface for each check. -/
theorem removal_after_two_runs :
    let config : NatConfig := {}
    let start : Rehearsal :=
      { rules := [⟨.filter, "INPUT", ["-j", "DROP"]⟩], interfaces := some ["tap0", "enp1s0"] }
    let added := (Setup.upInTurn config false [true, false]).run Rehearsal.host start
    let removal := (Setup.teardown config true .elevated).run.run Rehearsal.host added.state
    added.state.rules.length = 7 ∧ removal.state.rules = start.rules ∧
      RemovedUpToLimit config start.rules 2 removal := by
  intro config start added removal
  have hcheck : config.check = .ok () := by decide +kernel
  have hruns : ∀ value ∈ added.value, ∃ report, value = .ok report := by
    have hvalues : added.value.map (·.isOk) = [true, true] := by decide +kernel
    intro value hvalue
    have hok : value.isOk ∈ added.value.map (·.isOk) := List.mem_map_of_mem hvalue
    rw [hvalues] at hok
    cases value with
    | ok report => exact ⟨report, rfl⟩
    | error e => simp [Except.isOk, Except.toBool] at hok
  have hopen : start.Open := ⟨rfl, rfl⟩
  have hfresh : ∀ rule ∈ config.rules, rule ∉ start.rules := by decide +kernel
  have hremoved := removal_after_runs hcheck hopen hfresh [true, false] true hruns
  exact ⟨by decide +kernel, hremoved.undone.mpr (by decide), hremoved⟩

/-- One run more than the limit allows, on a host without any rules: all runs and the removal come
to their end, and one copy of each rule is left. -/
theorem one_run_beyond_limit (hcheck : config.check = .ok ()) {verify : List Bool}
    (hlength : verify.length = Setup.maxRemovals + 1) :
    let start : Rehearsal := {}
    let added := (Setup.upInTurn config false verify).run Rehearsal.host start
    let removal := (Setup.teardown config false .elevated).run.run Rehearsal.host added.state
    start.Open ∧ (∀ rule ∈ config.rules, rule ∉ start.rules) ∧
      (∀ value ∈ added.value, ∃ report, value = .ok report) ∧
      (∃ report, removal.value = .ok report) ∧
      removal.state.rules = config.rules ∧ removal.state.rules ≠ start.rules := by
  intro start added removal
  have hopen : start.Open := ⟨rfl, rfl⟩
  have hfresh : ∀ rule ∈ config.rules, rule ∉ start.rules := fun _ _ => List.not_mem_nil
  have hruns := add_in_turn_completes hcheck hopen rfl verify
  obtain ⟨hopen', hadded⟩ := ends_add_in_turn hcheck hopen verify
  obtain ⟨hreport, hrules⟩ := ends_removal hcheck hopen' hfresh (hadded hruns) false
  have hone : verify.length - Setup.maxRemovals = 1 := by omega
  rw [hone] at hrules
  have hleft : removal.state.rules = config.rules := hrules
  refine ⟨hopen, hfresh, hruns, hreport, hleft, ?_⟩
  rw [hleft]
  exact List.cons_ne_nil _ _

/-- So removal does not undo 65 runs of the standard configuration. -/
theorem runs_beyond_limit_are_left :
    let config : NatConfig := {}
    let start : Rehearsal := {}
    let added := (Setup.upInTurn config false (List.replicate 65 true)).run Rehearsal.host start
    let removal := (Setup.teardown config false .elevated).run.run Rehearsal.host added.state
    start.Open ∧ (∀ rule ∈ config.rules, rule ∉ start.rules) ∧
      (∀ value ∈ added.value, ∃ report, value = .ok report) ∧
      (∃ report, removal.value = .ok report) ∧
      removal.state.rules = config.rules ∧ removal.state.rules ≠ start.rules :=
  one_run_beyond_limit (by decide +kernel) List.length_replicate

end GuestNat
