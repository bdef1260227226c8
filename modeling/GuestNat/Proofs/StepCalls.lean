import GuestNat.Proofs.Procedure

/-!
# The calls of a step

Which calls a step makes to come to its outcome, and what the host replies to them. The outcome of a
step is settled by these replies, and the changes that it stands for are among the calls.

* `Rule.removalCalls`, `TookAway`: the calls by which copies of a rule are taken away;
* `Procedure.DoneBy`: the calls by which a step is done, for each outcome that it may have;
* `Procedure.AllDoneBy`: those of the steps of a report, one after the other;
* `Procedure.BrokenOff`: the calls of a step that does not come to its end;
* `Procedure.DoneBy.changes`, `Procedure.BrokenOff.begun`: the changes among them.
-/

namespace GuestNat

/-! ## Adding a rule -/

/-- The checks of the interfaces that a step of applying insists on. All of them are there. -/
def Step.checks (config : NatConfig) (options : ApplyOptions) (step : Step) : List Occurrence :=
  (if options.verifyInterfaces then step.interfaces config else []).map Occurrence.interfaceExists

/-- The look for a rule that turns out not to be installed, where there is a look at all. -/
def ApplyOptions.vainLook (options : ApplyOptions) (rule : Rule) : List Occurrence :=
  if options.idempotent then [.asked (.rule rule) (.ok false)] else []

/-- The calls by which a rule is added, or found to be there already. -/
inductive ApplyOptions.AddedBy (options : ApplyOptions) (rule : Rule) :
    StepOutcome → List Occurrence → Prop
  | alreadyThere (hidempotent : options.idempotent = true) :
      AddedBy options rule .alreadyPresent [.asked (.rule rule) (.ok true)]
  | appended :
      AddedBy options rule .applied (options.vainLook rule ++ [.made (.append rule) (.ok ())])

/-! ## Taking copies away -/

/-- What becomes of a step that took so many copies away. -/
def StepOutcome.ofRemovals (copies : Nat) : StepOutcome :=
  if copies = 0 then .notPresent else .removed copies

/-- The calls by which so many copies of a rule are deleted, up to the look that ends the loop and
says whether copies are left. -/
def Rule.removalCalls (rule : Rule) : (copies : Nat) → (left : Bool) → List Occurrence
  | 0, left => [.asked (.rule rule) (.ok left)]
  | copies + 1, left =>
    .asked (.rule rule) (.ok true) :: .made (.delete rule) (.ok ()) ::
      rule.removalCalls copies left

/-- What the outcome of a finished step says about the calls for its rule. Copies are left only
behind as many deletions as the limit allows. -/
inductive TookAway (rule : Rule) : StepOutcome → List Occurrence → Prop
  | copies {copies : Nat} {left : Bool} (hlimit : copies ≤ Setup.maxRemovals)
      (hleft : left = true → copies = Setup.maxRemovals) :
      TookAway rule (.ofRemovals copies) (rule.removalCalls copies left)

/-! ## Steps and reports -/

namespace Procedure

/-- The calls by which a step of a procedure is done, with its outcome. -/
inductive DoneBy (config : NatConfig) : Procedure → Step → StepOutcome → List Occurrence → Prop
  | switchedOn {options : ApplyOptions} :
      DoneBy config (.apply options) .enableForwarding .applied
        [.made (.setForwarding true) (.ok ())]
  | added {options : ApplyOptions} {step : Step} {rule : Rule} {outcome : StepOutcome}
      {calls : List Occurrence} (hrule : step.rule config = some rule)
      (hadded : options.AddedBy rule outcome calls) :
      DoneBy config (.apply options) step outcome (step.checks config options ++ calls)
  | takenAway {disableForwarding : Bool} {step : Step} {rule : Rule} {outcome : StepOutcome}
      {calls : List Occurrence} (hrule : step.rule config = some rule)
      (htook : TookAway rule outcome calls) :
      DoneBy config (.teardown disableForwarding) step outcome calls
  | switchedOff :
      DoneBy config (.teardown true) .disableForwarding .applied
        [.made (.setForwarding false) (.ok ())]
  | leftAlone : DoneBy config (.teardown false) .disableForwarding .skipped []

/-- The calls by which the steps of a report are done, one step after the other. -/
inductive AllDoneBy (procedure : Procedure) (config : NatConfig) :
    Report → List Occurrence → Prop
  | nil : AllDoneBy procedure config [] []
  | cons {step : Step} {outcome : StepOutcome} {report : Report} {calls rest : List Occurrence}
      (hstep : procedure.DoneBy config step outcome calls)
      (hrest : AllDoneBy procedure config report rest) :
      AllDoneBy procedure config ((step, outcome) :: report) (calls ++ rest)

/-- A step has begun with these calls and breaks off with the last one. With another reply to it, the
step could have been done. -/
def BrokenOff (procedure : Procedure) (config : NatConfig) (step : Step)
    (begun : List Occurrence) (last : Occurrence) : Prop :=
  Interrupts (procedure.DoneBy config step) begun last

end Procedure

/-! ## The changes among the calls -/

section Changes

variable {config : NatConfig} {options : ApplyOptions} {procedure : Procedure} {step : Step}
  {rule : Rule}

theorem changes_of_checks (config : NatConfig) (options : ApplyOptions) (step : Step) :
    changesOf (step.checks config options) = [] := by
  unfold Step.checks
  generalize (if options.verifyInterfaces then step.interfaces config else []) = names
  induction names with
  | nil => rfl
  | cons name names ih => exact ih

theorem changes_of_vain_look (options : ApplyOptions) (rule : Rule) :
    changesOf (options.vainLook rule) = [] := by
  unfold ApplyOptions.vainLook
  split <;> rfl

theorem changes_of_removal_calls (rule : Rule) (copies : Nat) (left : Bool) :
    changesOf (rule.removalCalls copies left) = List.replicate copies (.delete rule) := by
  induction copies with
  | zero => rfl
  | succ copies ih =>
      change .delete rule :: changesOf (rule.removalCalls copies left) = _
      rw [ih, List.replicate_succ]

theorem ApplyOptions.AddedBy.changes {outcome : StepOutcome} {calls : List Occurrence}
    (h : options.AddedBy rule outcome calls) (hrule : step.rule config = some rule) :
    changesOf calls = outcome.changes config step := by
  cases h with
  | alreadyThere => rfl
  | appended =>
      rw [changes_of_append, changes_of_vain_look]
      simp [changesOf, Occurrence.change?, StepOutcome.changes, Step.addition, hrule]

theorem TookAway.changes {outcome : StepOutcome} {calls : List Occurrence}
    (h : TookAway rule outcome calls) (hrule : step.rule config = some rule) :
    changesOf calls = outcome.changes config step := by
  cases h with
  | @copies copies left hlimit hleft =>
      rw [changes_of_removal_calls]
      -- that no copy was there is said in words of its own
      cases copies with
      | zero => rfl
      | succ copies => simp [StepOutcome.ofRemovals, StepOutcome.changes, Step.deletions, hrule]

namespace Procedure

/-- The calls that do a step make the changes that its outcome stands for. -/
theorem DoneBy.changes {outcome : StepOutcome} {calls : List Occurrence}
    (h : procedure.DoneBy config step outcome calls) :
    changesOf calls = outcome.changes config step := by
  cases h with
  | switchedOn => rfl
  | added hrule hadded =>
      rw [changes_of_append, changes_of_checks, List.nil_append]
      exact hadded.changes hrule
  | takenAway hrule htook => exact htook.changes hrule
  | switchedOff => rfl
  | leftAlone => rfl

/-- So do the calls for the steps of a report. -/
theorem AllDoneBy.changes {report : Report} {calls : List Occurrence}
    (h : procedure.AllDoneBy config report calls) : changesOf calls = report.changes config := by
  induction h with
  | nil => rfl
  | cons hstep hrest ih =>
      rw [changes_of_append, hstep.changes, ih]
      rfl

/-- A step of applying changes something with its last call only. -/
theorem DoneBy.last_change {outcome : StepOutcome} {calls : List Occurrence}
    (h : (Procedure.apply options).DoneBy config step outcome calls) :
    ∃ looks last, calls = looks ++ [last] ∧ changesOf looks = [] := by
  cases h with
  | switchedOn => exact ⟨[], _, rfl, rfl⟩
  | @added _ _ rule _ _ hrule hadded =>
      cases hadded with
      | alreadyThere => exact ⟨_, _, rfl, changes_of_checks config options step⟩
      | appended =>
          refine ⟨step.checks config options ++ options.vainLook rule, _,
            (List.append_assoc _ _ _).symm, ?_⟩
          rw [changes_of_append, changes_of_checks, changes_of_vain_look]
          rfl

/-- What a step has changed when it breaks off: nothing where a rule is added, and some deletions
where copies are taken away. -/
theorem BrokenOff.begun {begun : List Occurrence} {last : Occurrence}
    (h : procedure.BrokenOff config step begun last) :
    procedure.Begun config step (changesOf begun) := by
  obtain ⟨outcome, call, rest, hdone, -⟩ := h
  cases procedure with
  | apply options =>
      obtain ⟨looks, final, hcalls, hlooks⟩ := hdone.last_change
      -- the step breaks off at its last call at the latest
      have hbefore : begun ++ (call :: rest).dropLast = looks := by
        rw [← List.dropLast_append_cons, hcalls, List.dropLast_concat]
      rw [← hbefore, changes_of_append] at hlooks
      exact (List.append_eq_nil_iff.mp hlooks).1
  | teardown disableForwarding =>
      generalize hcalls : begun ++ call :: rest = calls at hdone
      cases hdone with
      | takenAway hrule htook =>
          cases htook with
          | @copies copies left hlimit hleft =>
              -- the deletions before the call are the first ones of all
              have hprefix := congrArg changesOf hcalls
              rw [changes_of_append, changes_of_removal_calls, List.append_eq_replicate_iff]
                at hprefix
              refine ⟨(changesOf begun).length, hprefix.2.1.trans ?_⟩
              simp [Step.deletions, hrule]
      | switchedOff =>
          obtain rfl : begun = [] := by
            cases begun with
            | nil => rfl
            | cons o begun => simp at hcalls
          exact ⟨0, rfl⟩
      | leftAlone => exact absurd (List.append_eq_nil_iff.mp hcalls).2 (List.cons_ne_nil call rest)

end Procedure

end Changes

end GuestNat
