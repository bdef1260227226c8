import GuestNat.Proofs.Copy
import GuestNat.Proofs.Removal

/-!
# What a rehearsal foretells

A rehearsal shows the changes that a command makes to a copy of the host. This is compared with what
the command does to the host itself, provided that the host refuses nothing.

* Anything but a removal does to the host just what was shown, and ends the same way.
* A removal deletes the copies of a rule one after the other, but the copy of the host has each rule
  only once: what is shown are the deletions without their repetitions.
* `rehearsal_foretells`: both for all commands.
-/

namespace GuestNat

/-! ## Repeated deletions -/

namespace Change

def isDeletion : Change → Bool
  | delete _ => true
  | setForwarding _ | append _ => false

/-- The changes with every row of equal deletions made a single one. -/
def collapse : List Change → List Change
  | [] => []
  | change :: changes =>
    if change.isDeletion ∧ changes.head? = some change then collapse changes
    else change :: collapse changes

/-- A row of deletions collapses to one, unless what follows goes on with it. -/
theorem collapse_replicate_append {change : Change} {rest : List Change} (number : Nat)
    (hdeletion : change.isDeletion) (hrest : rest.head? ≠ some change) :
    collapse (List.replicate number change ++ rest) =
      List.replicate (min 1 number) change ++ collapse rest := by
  induction number with
  | zero => simp
  | succ number ih =>
      rw [List.replicate_succ, List.cons_append, collapse]
      cases number with
      | zero =>
          -- the last one of the row stays
          simp [hrest]
      | succ number =>
          have hhead : (List.replicate (number + 1) change ++ rest).head? = some change := rfl
          rw [if_pos ⟨hdeletion, hhead⟩, ih]
          have hmin : min 1 (number + 1) = min 1 (number + 1 + 1) := by omega
          rw [hmin]

theorem collapse_of_no_deletion {changes : List Change}
    (h : ∀ change ∈ changes, change.isDeletion = false) : collapse changes = changes := by
  induction changes with
  | nil => rfl
  | cons change changes ih =>
      have hchange : change.isDeletion = false := h change List.mem_cons_self
      rw [collapse, if_neg (by simp [hchange]), ih fun c hc => h c (List.mem_cons_of_mem change hc)]

end Change

/-- Deletions of rules, each of them a number of times, and then other changes. -/
def deletionsOf (wanted : List Rule) (number : Rule → Nat) (others : List Change) : List Change :=
  (wanted.flatMap fun rule => List.replicate (number rule) (.delete rule)) ++ others

section Deletions

variable {wanted : List Rule} {number : Rule → Nat} {others : List Change}

theorem deletions_of_cons (rule : Rule) (wanted : List Rule) :
    deletionsOf (rule :: wanted) number others =
      List.replicate (number rule) (.delete rule) ++ deletionsOf wanted number others := by
  unfold deletionsOf
  rw [List.flatMap_cons, List.append_assoc]

/-- Only rules that are wanted are deleted. -/
theorem delete_not_mem_deletions {rule : Rule}
    (hothers : ∀ change ∈ others, change.isDeletion = false) (hrule : rule ∉ wanted) :
    .delete rule ∉ deletionsOf wanted number others := by
  intro hmem
  rcases List.mem_append.mp hmem with hwanted | hother
  · obtain ⟨other, hother, hreplicate⟩ := List.mem_flatMap.mp hwanted
    rw [Change.delete.inj (List.eq_of_mem_replicate hreplicate)] at hrule
    exact hrule hother
  · exact absurd (hothers _ hother) (by simp [Change.isDeletion])

theorem count_deletions {rule : Rule} (hwanted : wanted.Nodup)
    (hothers : ∀ change ∈ others, change.isDeletion = false) (hrule : rule ∈ wanted) :
    (deletionsOf wanted number others).count (.delete rule) = number rule := by
  induction wanted with
  | nil => exact absurd hrule List.not_mem_nil
  | cons first wanted ih =>
      obtain ⟨hfirst, hwanted'⟩ := List.nodup_cons.mp hwanted
      rw [deletions_of_cons, List.count_append, List.count_replicate]
      -- each rule has its own block of deletions, so the count is that of one block
      rcases List.mem_cons.mp hrule with heq | hlater
      · subst heq
        rw [List.count_eq_zero_of_not_mem (delete_not_mem_deletions hothers hfirst)]
        simp
      · have hne : first ≠ rule := fun h => hfirst (h ▸ hlater)
        rw [ih hwanted' hlater]
        simp [hne]

/-- Deletions of different rules collapse to one deletion for each rule. -/
theorem collapse_deletions (hwanted : wanted.Nodup)
    (hothers : ∀ change ∈ others, change.isDeletion = false) :
    Change.collapse (deletionsOf wanted number others) =
      deletionsOf wanted (fun rule => min 1 (number rule)) others := by
  induction wanted with
  | nil => exact Change.collapse_of_no_deletion hothers
  | cons rule wanted ih =>
      obtain ⟨hrule, hwanted'⟩ := List.nodup_cons.mp hwanted
      have hhead : (deletionsOf wanted number others).head? ≠ some (.delete rule) := by
        intro h
        exact delete_not_mem_deletions hothers hrule (List.mem_of_head? h)
      rw [deletions_of_cons, deletions_of_cons,
        Change.collapse_replicate_append (number rule) rfl hhead, ih hwanted']

/-- Nothing was collapsed exactly if no rule was deleted twice. -/
theorem deletions_once_iff (hwanted : wanted.Nodup)
    (hothers : ∀ change ∈ others, change.isDeletion = false) :
    deletionsOf wanted (fun rule => min 1 (number rule)) others = deletionsOf wanted number others ↔
      ∀ rule ∈ wanted, number rule ≤ 1 := by
  constructor
  · intro heq rule hrule
    -- equal lists have equal counts, and the count of a rule's deletions is its number
    have hsame := congrArg (List.count (.delete rule)) heq
    rw [count_deletions hwanted hothers hrule, count_deletions hwanted hothers hrule] at hsame
    omega
  · intro hle
    unfold deletionsOf
    congr 1
    refine List.flatMap_congr ?_
    intro rule hrule
    have hmin : min 1 (number rule) = number rule := Nat.min_eq_right (hle rule hrule)
    dsimp only
    rw [hmin]

end Deletions

/-! ## Removals -/

section Removal

variable {config : NatConfig} {live now : Rehearsal}

/-- Of the copies of a rule, the copy of a host has one. -/
theorem count_copy {rule : Rule} (hrule : rule ∈ config.rules) :
    (live.copy config).rules.count rule = min 1 (live.rules.count rule) := by
  rw [live.copy_rules]
  -- the copy has one copy of each of the configuration's rules that the host has
  by_cases hmem : rule ∈ live.rules
  · have hpos : 0 < live.rules.count rule := List.count_pos_iff.mpr hmem
    have hcopied : rule ∈ config.rules.filter (· ∈ live.rules) :=
      List.mem_filter.mpr ⟨hrule, decide_eq_true hmem⟩
    rw [List.count_eq_one_of_mem (config.nodup_rules.filter _) hcopied]
    omega
  · have hleft : rule ∉ config.rules.filter (· ∈ live.rules) := by
      intro h
      exact hmem (of_decide_eq_true (List.mem_filter.mp h).2)
    rw [List.count_eq_zero_of_not_mem hmem, List.count_eq_zero_of_not_mem hleft]
    rfl

/-- How often removal deletes a rule. -/
def removalsOf (host : Rehearsal) (rule : Rule) : Nat :=
  min Setup.maxRemovals (host.rules.count rule)

/-- The changes of removal behind the deletions. -/
def switchOff (disableForwarding : Bool) : List Change :=
  if disableForwarding then [.setForwarding false] else []

theorem switch_off_deletes_nothing (disableForwarding : Bool) :
    ∀ change ∈ switchOff disableForwarding, change.isDeletion = false := by
  cases disableForwarding with
  | true => exact List.forall_mem_singleton.mpr rfl
  | false => exact fun _ h => absurd h List.not_mem_nil

/-- On the copy, removal does the same without the repetitions. -/
theorem deletions_of_copy (config : NatConfig) (live : Rehearsal) (disableForwarding : Bool) :
    deletionsOf config.rules.reverse (removalsOf (live.copy config)) (switchOff disableForwarding) =
      Change.collapse
        (deletionsOf config.rules.reverse (removalsOf live) (switchOff disableForwarding)) := by
  rw [collapse_deletions (List.nodup_reverse.mpr config.nodup_rules)
    (switch_off_deletes_nothing disableForwarding)]
  unfold deletionsOf
  congr 1
  refine List.flatMap_congr ?_
  intro rule hrule
  have hnumber : removalsOf (live.copy config) rule = min 1 (removalsOf live rule) := by
    unfold removalsOf Setup.maxRemovals
    rw [count_copy (List.mem_reverse.mp hrule)]
    omega
  rw [hnumber]

/-- Carrying a removal out on an open host succeeds and makes the changes of removal. -/
theorem ends_down (hcheck : config.check = .ok ()) (hopen : now.Open) (disableForwarding : Bool) :
    (Program.execute .elevated (.down disableForwarding) config).run.Ends Rehearsal.host now
      fun v s' _ => v.result = .ok Program.success ∧
        s'.changes = now.changes ++
          deletionsOf config.rules.reverse (removalsOf now) (switchOff disableForwarding) := by
  have hprocedure : (Command.down disableForwarding).procedure? =
      some (.teardown disableForwarding) := rfl
  obtain ⟨context, hexecute⟩ := run_of_procedure hprocedure config .elevated
  rw [hexecute]
  refine Plan.ends_map.mpr ?_
  refine (ends_on_open hcheck (.teardown disableForwarding) hopen trivial).mono ?_
  rintro v s' - ⟨⟨report, rfl⟩, rfl⟩
  refine ⟨rfl, ?_⟩
  rw [Rehearsal.changes_after_all]
  exact congrArg (now.changes ++ ·) (effects_of_removing config now disableForwarding)

end Removal

/-! ## Rehearsals -/

theorem Plan.ends_note_all {σ : Type} {host : Host σ} {s : σ} (events : List Event) :
    (Plan.noteAll events).Ends host s fun _ s' _ => s' = s := by
  induction events with
  | nil => rfl
  | cons event events ih => exact ih

/-- A rehearsal runs the command on the copy and leaves the host as it is. -/
theorem ends_rehearse (command : Command) (config : NatConfig) (live : Rehearsal) :
    (Program.rehearse command config).Ends Rehearsal.host live fun v s' _ =>
      v.seed = live.copy config ∧
      v.result = ((Program.execute .elevated command config).run.run Rehearsal.host
        (live.copy config)).value ∧
      v.final = ((Program.execute .elevated command config).run.run Rehearsal.host
        (live.copy config)).state ∧ s' = live := by
  unfold Program.rehearse
  rw [Plan.ends_monad_bind]
  refine (ends_probe config live).mono ?_
  rintro status s' - ⟨rfl, rfl⟩
  rw [Plan.ends_monad_bind]
  refine (Plan.ends_note_all _).mono ?_
  rintro _ s'' - rfl
  exact Plan.ends_pure.mpr ⟨rfl, rfl, rfl, rfl⟩

/-- How a rehearsal stands to a run of the command on the host, which came to this value and made
the changes of the effect. -/
def Foretells (config : NatConfig) (live : Rehearsal) (rehearsed : Program.Rehearsed)
    (value : Program.Printed Nat) (effect : List Change) : Command → Prop
  | .up _ | .status => rehearsed.result = value ∧ rehearsed.final.changes = effect
  | .down _ =>
    (Program.finish rehearsed.result).exitCode = (Program.finish value).exitCode ∧
      rehearsed.final.changes = Change.collapse effect ∧
      (rehearsed.final.changes = effect ↔ ∀ rule ∈ config.rules, live.rules.count rule ≤ 1)

/-- **A rehearsal foretells what the command does.** On any host in memory that refuses nothing,
with any rules, interfaces and earlier changes: a command other than a removal ends on the host as
it does in rehearsal, with the same output or the same failure, and makes just the changes that the
rehearsal shows. For a removal the exit status is the same and the rehearsal shows the changes
without repeated deletions, which are all of them exactly if no rule of the configuration is there
twice. The rehearsal itself leaves the host as it is. -/
theorem rehearsal_foretells {config : NatConfig} (hcheck : config.check = .ok ())
    {live : Rehearsal} (hopen : live.Open) (command : Command) :
    let rehearsal := (Program.rehearse command config).run Rehearsal.host live
    let real := (Program.execute .elevated command config).run.run Rehearsal.host live
    rehearsal.state = live ∧ ∃ effect, real.state.changes = live.changes ++ effect ∧
      Foretells config live rehearsal.value real.value effect command := by
  intro rehearsal real
  obtain ⟨-, hresult, hfinal, hlive⟩ := ends_rehearse command config live
  refine ⟨hlive, ?_⟩
  -- without a deletion the two runs keep in step, so the rehearsal tells the real one exactly
  have hexact : (∀ disableForwarding, command ≠ .down disableForwarding) →
      rehearsal.value.result = real.value ∧
        real.state.changes = live.changes ++ rehearsal.value.final.changes := by
    intro hcommand
    obtain ⟨hvalue, halike⟩ := execute_alike (alike_copy hopen) .elevated hcommand
    refine ⟨hresult.trans hvalue.symm, ?_⟩
    have hchanges := halike.changes
    rw [← hfinal] at hchanges
    exact hchanges
  cases command with
  | up options =>
      obtain ⟨hvalue, hchanges⟩ := hexact fun _ => by simp
      exact ⟨_, hchanges, hvalue, rfl⟩
  | status =>
      obtain ⟨hvalue, hchanges⟩ := hexact fun _ => by simp
      exact ⟨_, hchanges, hvalue, rfl⟩
  | down disableForwarding =>
      -- a removal differs in the number of deletions alone: the copy has each rule at most once
      have hcopy : (live.copy config).Open := ⟨rfl, rfl⟩
      obtain ⟨hvalue, hchanges⟩ := ends_down hcheck hopen disableForwarding
      obtain ⟨hvalue', hchanges'⟩ := ends_down hcheck hcopy disableForwarding
      have hplan : rehearsal.value.final.changes = Change.collapse (deletionsOf config.rules.reverse
          (removalsOf live) (switchOff disableForwarding)) := by
        rw [hfinal, hchanges', ← deletions_of_copy]
        rfl
      refine ⟨_, hchanges, ?_, hplan, ?_⟩
      · rw [hresult, Program.exit_code_of_ok hvalue, Program.exit_code_of_ok hvalue']
      · -- the limit is above one, so it does not matter here
        have hwanted : config.rules.reverse.Nodup := List.nodup_reverse.mpr config.nodup_rules
        have hothers := switch_off_deletes_nothing disableForwarding
        rw [hplan, collapse_deletions hwanted hothers, deletions_once_iff hwanted hothers]
        constructor
        · intro h rule hrule
          have hle : removalsOf live rule ≤ 1 := h rule (List.mem_reverse.mpr hrule)
          unfold removalsOf Setup.maxRemovals at hle
          omega
        · intro h rule hrule
          have hle : live.rules.count rule ≤ 1 := h rule (List.mem_reverse.mp hrule)
          unfold removalsOf
          omega

/-- A removal on a host with an earlier change, a foreign rule and two copies of one of the rules:
the rehearsal shows one deletion where two are made. -/
theorem rehearsal_foretells_down :
    let config : NatConfig := {}
    let rule : Rule := .acceptTo config.tap
    let live : Rehearsal :=
      { rules := [rule, ⟨.filter, "INPUT", ["-j", "DROP"]⟩, rule], changes := [.append rule] }
    let rehearsal := (Program.rehearse (.down true) config).run Rehearsal.host live
    let real := (Program.execute .elevated (.down true) config).run.run Rehearsal.host live
    rehearsal.value.final.changes = [.delete rule, .setForwarding false] ∧
      real.state.changes = [.append rule, .delete rule, .delete rule, .setForwarding false] ∧
      rehearsal.state = live ∧ ∃ effect, real.state.changes = live.changes ++ effect ∧
        Foretells config live rehearsal.value real.value effect (.down true) := by
  intro config rule live rehearsal real
  have hcheck : config.check = .ok () := by decide +kernel
  have hopen : live.Open := ⟨rfl, rfl⟩
  exact ⟨by decide +kernel, by decide +kernel, rehearsal_foretells hcheck hopen (.down true)⟩

end GuestNat
