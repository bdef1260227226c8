import GuestNat.Proofs.Memory
import GuestNat.Proofs.Procedure

/-!
# What procedures do to the memory

On a host that is mirrored, what a procedure does depends on the memory alone, however the host
fails.

* `Procedure.effect`, `Procedure.outcome`: the changes that one step makes when nothing fails, and
  what it then comes to;
* `Took`: a run that comes to its end has made all changes of an effect, and a run that fails has
  made the first ones of them;
* `took_report`, `took_setup`: a whole procedure takes the effects of its steps, one after the
  other, and reports their outcomes.

Which changes a run makes before it fails is thus settled but for their number.
-/

namespace GuestNat

variable {α β σ : Type}

namespace Procedure

/-- The changes of a step on a host with this memory. -/
def effect (config : NatConfig) (memory : Rehearsal) (step : Step) : Procedure → List Change
  | apply options =>
    match step.rule config with
    | none => [.setForwarding true]
    | some rule => if options.idempotent ∧ rule ∈ memory.rules then [] else [.append rule]
  | teardown disableForwarding =>
    match step.rule config with
    | none => if disableForwarding then [.setForwarding false] else []
    | some rule =>
      List.replicate (min Setup.maxRemovals (memory.rules.count rule)) (.delete rule)

/-- The changes of steps in turn, each on what the steps before it leave. -/
def effects (config : NatConfig) (procedure : Procedure) : Rehearsal → List Step → List Change
  | _, [] => []
  | memory, step :: steps =>
    let own := procedure.effect config memory step
    own ++ procedure.effects config (memory.afterAll own) steps

/-- What a step comes to on a host with this memory. -/
def outcome (config : NatConfig) (memory : Rehearsal) (step : Step) : Procedure → StepOutcome
  | apply options =>
    match step.rule config with
    | none => .applied
    | some rule =>
      if options.idempotent ∧ rule ∈ memory.rules then .alreadyPresent else .applied
  | teardown disableForwarding =>
    match step.rule config with
    | none => if disableForwarding then .applied else .skipped
    | some rule =>
      let copies := min Setup.maxRemovals (memory.rules.count rule)
      if copies = 0 then .notPresent else .removed copies

/-- What steps in turn come to, each on what the steps before it leave. -/
def report (config : NatConfig) (procedure : Procedure) : Rehearsal → List Step → Report
  | _, [] => []
  | memory, step :: steps =>
    (step, procedure.outcome config memory step) ::
      procedure.report config (memory.afterAll (procedure.effect config memory step)) steps

/-- The interfaces that a step insists on are there. -/
def Serves (config : NatConfig) (memory : Rehearsal) (step : Step) : Procedure → Prop
  | apply options => options.verifyInterfaces →
      ∀ name ∈ step.interfaces config, memory.hasInterface name
  | teardown _ => True

end Procedure

/-- A run that comes to its end has changed the memory by the effect, and its value is as expected;
a run that fails has changed it by the beginning of the effect. -/
def Took (before : Rehearsal) (effect : List Change) (Expected : α → Prop) :
    Except SetupError α → Rehearsal → Prop
  | .ok a, after => Expected a ∧ after = before.afterAll effect
  | .error _, after => ∃ begun, begun <+: effect ∧ after = before.afterAll begun

theorem Took.mono {before after : Rehearsal} {effect : List Change} {Expected Expected' : α → Prop}
    {v : Except SetupError α} (h : Took before effect Expected v after)
    (hexpected : ∀ a, Expected a → Expected' a) : Took before effect Expected' v after := by
  cases v with
  | ok a => exact ⟨hexpected a h.1, h.2⟩
  | error e => exact h

theorem Took.error_of_prefix {before after : Rehearsal} {effect effect' : List Change}
    {Expected : α → Prop} {Expected' : β → Prop} {e : SetupError}
    (h : Took before effect Expected (.error e) after) (hinitial : effect <+: effect') :
    Took before effect' Expected' (.error e) after := by
  obtain ⟨begun, hbegun, hafter⟩ := h
  exact ⟨begun, hbegun.trans hinitial, hafter⟩

/-- What a run leaves, it reached by changes. -/
theorem Took.exists_changes {before after : Rehearsal} {effect : List Change}
    {Expected : α → Prop} {v : Except SetupError α} (h : Took before effect Expected v after) :
    ∃ changes, after = before.afterAll changes := by
  cases v with
  | ok a => exact ⟨effect, h.2⟩
  | error e =>
      obtain ⟨begun, -, hafter⟩ := h
      exact ⟨begun, hafter⟩

section Parts

variable {host : Host σ} {memory : σ → Rehearsal} {s : σ} {step : Step}

/-- The effect of a part that goes on is that of the first part and then that of the rest. -/
theorem took_bind {x : Setup α} {f : α → Setup β} {effect effect' : List Change}
    {Expected : α → Prop} {Expected' : β → Prop}
    (hx : x.run.Ends host s fun v s' _ => Took (memory s) effect Expected v (memory s'))
    (hf : ∀ a s', Expected a → memory s' = (memory s).afterAll effect →
      (f a).run.Ends host s' fun v s'' _ => Took (memory s') effect' Expected' v (memory s'')) :
    (x >>= f).run.Ends host s fun v s' _ =>
      Took (memory s) (effect ++ effect') Expected' v (memory s') := by
  refine Setup.ends_of_parts hx ?_ ?_
  · rintro a s' - ⟨ha, hmemory⟩
    refine (hf a s' ha hmemory).mono ?_
    intro v s'' _ hv
    rw [hmemory] at hv
    cases v with
    | ok b => exact ⟨hv.1, by rw [hv.2, Rehearsal.after_all_append]⟩
    | error e =>
        -- the first part was completed, so its whole effect precedes what the rest has begun
        obtain ⟨begun, hbegun, hafter⟩ := hv
        refine ⟨effect ++ begun, (List.prefix_append_right_inj effect).mpr hbegun, ?_⟩
        rw [hafter, Rehearsal.after_all_append]
  · intro e s' _ he
    exact he.error_of_prefix (List.prefix_append effect effect')

/-- Behind a part without effect, the rest has that of the whole. -/
theorem took_then {x : Setup α} {f : α → Setup β} {effect : List Change} {Expected : α → Prop}
    {Expected' : β → Prop}
    (hx : x.run.Ends host s fun v s' _ => Took (memory s) [] Expected v (memory s'))
    (hf : ∀ a s', Expected a → memory s' = memory s →
      (f a).run.Ends host s' fun v s'' _ => Took (memory s') effect Expected' v (memory s'')) :
    (x >>= f).run.Ends host s fun v s' _ => Took (memory s) effect Expected' v (memory s') :=
  took_bind hx hf

theorem took_pure {a : α} {Expected : α → Prop} (ha : Expected a) :
    (pure a : Setup α).run.Ends host s fun v s' _ => Took (memory s) [] Expected v (memory s') :=
  Setup.ends_pure.mpr ⟨ha, rfl⟩

/-- A value that is only handed on changes nothing. -/
theorem took_before_pure {x : Setup α} {g : α → β} {effect : List Change} {Expected : α → Prop}
    {Expected' : β → Prop}
    (hx : x.run.Ends host s fun v s' _ => Took (memory s) effect Expected v (memory s'))
    (hg : ∀ a, Expected a → Expected' (g a)) :
    (x >>= fun a => pure (g a)).run.Ends host s fun v s' _ =>
      Took (memory s) effect Expected' v (memory s') := by
  rw [← List.append_nil effect]
  exact took_bind hx fun a _ ha _ => took_pure (hg a ha)

theorem took_note (event : Event) :
    (Setup.note event).run.Ends host s fun v s' _ =>
      Took (memory s) [] (fun _ => True) v (memory s') :=
  Setup.ends_note.mpr ⟨trivial, rfl⟩

theorem took_ask (h : Mirrors host memory) (question : Question) :
    (Setup.ask step question).run.Ends host s fun v s' _ =>
      Took (memory s) [] (· = (memory s).answer question) v (memory s') := by
  rw [Setup.ends_ask]
  have hkeeps := h.ask_keeps question s
  cases hreply : (host.ask question s).reply with
  | ok b => exact ⟨h.ask_ok question s b hreply, hkeeps⟩
  | error e => exact ⟨[], List.prefix_rfl, hkeeps⟩

theorem took_make (h : Mirrors host memory) (change : Change) :
    (Setup.make step change).run.Ends host s fun v s' _ =>
      Took (memory s) [change] (fun _ => True) v (memory s') := by
  rw [Setup.ends_make]
  cases hreply : (host.make change s).reply with
  | ok _ => exact ⟨trivial, (h.make_ok change s hreply).2⟩
  | error e => exact ⟨[], List.nil_prefix, h.make_error change s e hreply⟩

/-- Only where all interfaces are there does the part that insists on them come to its end. -/
theorem took_interfaces (h : Mirrors host memory) (names : List String) :
    (Setup.requireInterfaces step names).run.Ends host s fun v s' _ =>
      Took (memory s) [] (fun _ => ∀ name ∈ names, (memory s).hasInterface name) v
        (memory s') := by
  induction names generalizing s with
  | nil => exact took_pure fun _ hname => absurd hname List.not_mem_nil
  | cons name names ih =>
      unfold Setup.requireInterfaces
      refine took_then (took_ask h (.interface name)) ?_
      intro found s' hfound hs'
      cases found with
      | true =>
          refine ih.mono ?_
          intro v s'' _ hv
          refine hv.mono ?_
          intro _ hnames
          rw [hs'] at hnames
          exact List.forall_mem_cons.mpr ⟨hfound.symm, hnames⟩
      -- the step stops here, and no change was made
      | false =>
          refine took_then (took_note (.interfaceMissing step name)) ?_
          intro _ s'' _ _
          exact Setup.ends_throw.mpr ⟨[], List.prefix_rfl, rfl⟩

end Parts

/-! ## One step -/

section Steps

variable {host : Host σ} {memory : σ → Rehearsal} {s : σ} {config : NatConfig} {step : Step}

/-- A step that ends with a change. -/
theorem took_change (h : Mirrors host memory) (change : Change) (outcome : StepOutcome) :
    (Setup.make step change >>= fun _ => pure outcome).run.Ends host s fun v s' _ =>
      Took (memory s) [change] (· = outcome) v (memory s') :=
  took_before_pure (took_make h change) fun _ _ => rfl

/-- Looking for the rule tells whether it is there; without looking it counts as missing. -/
theorem took_is_installed (h : Mirrors host memory) (options : ApplyOptions) (rule : Rule) :
    (Setup.isInstalled options step rule).run.Ends host s fun v s' _ =>
      Took (memory s) [] (· = decide (options.idempotent ∧ rule ∈ (memory s).rules)) v
        (memory s') := by
  unfold Setup.isInstalled
  cases hidempotent : options.idempotent with
  | true =>
      have hanswer : (memory s).answer (.rule rule) =
          decide (true = true ∧ rule ∈ (memory s).rules) := by
        simp [Rehearsal.answer_rule]
      rw [if_pos rfl, ← hanswer]
      exact took_ask h (.rule rule)
  | false => exact took_pure (by simp)

theorem took_add_rule (h : Mirrors host memory) (options : ApplyOptions) (rule : Rule) :
    (Setup.addRule options step rule).run.Ends host s fun v s' _ =>
      Took (memory s) (if options.idempotent ∧ rule ∈ (memory s).rules then [] else [.append rule])
        (· = if options.idempotent ∧ rule ∈ (memory s).rules then .alreadyPresent else .applied)
        v (memory s') := by
  unfold Setup.addRule
  refine took_then (took_is_installed h options rule) ?_
  rintro found s' rfl -
  by_cases hfound : options.idempotent ∧ rule ∈ (memory s).rules
  · rw [if_pos hfound, if_pos hfound, decide_eq_true hfound]
    exact took_then (took_note (.alreadyInstalled rule)) fun _ _ _ _ => took_pure rfl
  · rw [if_neg hfound, if_neg hfound, decide_eq_false hfound]
    exact took_change h (.append rule) .applied

/-- As many copies are deleted as there are, up to the limit: the induction is on the limit, and
each deletion leaves one copy fewer to find. -/
theorem took_remove_copies (h : Mirrors host memory) (rule : Rule) (budget removed : Nat) :
    (Setup.removeCopies step rule budget removed).run.Ends host s fun v s' _ =>
      Took (memory s) (List.replicate (min budget ((memory s).rules.count rule)) (.delete rule))
        (· = removed + min budget ((memory s).rules.count rule)) v (memory s') := by
  induction budget generalizing s removed with
  | zero =>
      unfold Setup.removeCopies
      rw [Nat.zero_min, List.replicate_zero]
      refine took_then (took_ask h (.rule rule)) ?_
      intro found s' _ _
      cases found with
      | true =>
          -- giving up is only reported
          exact took_then (took_note (.givingUp rule removed)) fun _ _ _ _ => took_pure rfl
      | false => exact took_pure rfl
  | succ budget ih =>
      unfold Setup.removeCopies
      refine took_then (took_ask h (.rule rule)) ?_
      rintro found s' rfl hmemory
      rw [Rehearsal.answer_rule]
      by_cases hmem : rule ∈ (memory s).rules
      · have hpos : 0 < (memory s).rules.count rule := List.count_pos_iff.mpr hmem
        have hcount : ((memory s).after (.delete rule)).rules.count rule =
            (memory s).rules.count rule - 1 := by
          simp [Rehearsal.after, Change.onRules]
        have hmin : min (budget + 1) ((memory s).rules.count rule) =
            min budget ((memory s).rules.count rule - 1) + 1 := by
          omega
        -- the first deletion, and then those of a memory with one copy fewer
        rw [decide_eq_true hmem, hmin, List.replicate_succ]
        refine took_bind (took_make h (.delete rule)) ?_
        intro _ s'' _ hs''
        have hs''_memory : memory s'' = (memory s).after (.delete rule) := by
          rw [hs'', hmemory]
          rfl
        rw [← hcount, ← hs''_memory]
        refine (ih (removed + 1)).mono ?_
        intro v s''' _ hv
        refine hv.mono ?_
        intro number hnumber
        rw [hnumber]
        omega
      · rw [decide_eq_false hmem, List.count_eq_zero_of_not_mem hmem, Nat.min_zero]
        exact took_pure rfl

/-- A step of a procedure takes its effect, and comes to its outcome if the interfaces are there. -/
theorem Procedure.took_act (h : Mirrors host memory) (procedure : Procedure) :
    (procedure.act config .elevated step).run.Ends host s fun v s' _ =>
      Took (memory s) (procedure.effect config (memory s) step)
        (fun outcome => outcome = procedure.outcome config (memory s) step ∧
          procedure.Serves config (memory s) step) v (memory s') := by
  have hprivilege : ∀ s, (Setup.requirePrivilege .elevated step).run.Ends host s fun v s' _ =>
      Took (memory s) [] (fun _ => True) v (memory s') := fun _ => took_pure trivial
  cases procedure with
  | apply options =>
      unfold Procedure.act Setup.applyStep Procedure.effect Procedure.outcome Procedure.Serves
      refine took_then (hprivilege s) ?_
      intro _ s' _ hs'
      cases hrule : step.rule config with
      | none =>
          -- a step without a rule has no interfaces either
          have hnone : step.interfaces config = [] := by
            cases step <;> simp_all [Step.rule, Step.interfaces]
          refine (took_change h (.setForwarding true) .applied).mono ?_
          intro v s'' _ hv
          refine hv.mono ?_
          rintro outcome rfl
          rw [hnone]
          exact ⟨rfl, fun _ name hname => absurd hname List.not_mem_nil⟩
      | some rule =>
          rw [← hs']
          refine took_then (took_interfaces h _) ?_
          intro _ s'' hnames hs''
          rw [← hs''] at hnames ⊢
          refine (took_add_rule h options rule).mono ?_
          intro v s''' _ hv
          refine hv.mono ?_
          intro outcome houtcome
          refine ⟨houtcome, ?_⟩
          intro hverify
          rw [if_pos hverify] at hnames
          exact hnames
  | teardown disableForwarding =>
      unfold Procedure.act Setup.teardownStep Procedure.effect Procedure.outcome Procedure.Serves
      refine took_then (hprivilege s) ?_
      intro _ s' _ hs'
      cases step.rule config with
      | none =>
          cases disableForwarding with
          | true =>
              refine (took_change h (.setForwarding false) .applied).mono ?_
              intro v s'' _ hv
              exact hv.mono fun outcome houtcome => ⟨houtcome, trivial⟩
          | false => exact took_pure ⟨rfl, trivial⟩
      | some rule =>
          rw [← hs']
          refine took_before_pure (took_remove_copies h rule Setup.maxRemovals 0) ?_
          rintro number rfl
          rw [Nat.zero_add]
          exact ⟨rfl, trivial⟩

end Steps

/-! ## All steps -/

section Procedure

variable {host : Host σ} {memory : σ → Rehearsal} {s : σ} {config : NatConfig}

/-- Changes do not touch the interfaces that a step insists on. -/
theorem Procedure.Serves.of_after_all {procedure : Procedure} {before : Rehearsal} {step : Step}
    {changes : List Change} (h : procedure.Serves config (before.afterAll changes) step) :
    procedure.Serves config before step := by
  cases procedure with
  | apply options =>
      intro hverify name hname
      have hafter := h hverify name hname
      unfold Rehearsal.hasInterface at hafter ⊢
      rw [Rehearsal.interfaces_after_all] at hafter
      exact hafter
  | teardown disableForwarding => trivial

/-- Steps in turn take their effects in turn, by induction on the steps. -/
theorem took_perform (h : Mirrors host memory) (procedure : Procedure) (steps : List Step) :
    (Setup.perform (procedure.act config .elevated) steps).run.Ends host s fun v s' _ =>
      Took (memory s) (procedure.effects config (memory s) steps)
        (fun report => report = procedure.report config (memory s) steps ∧
          ∀ step ∈ steps, procedure.Serves config (memory s) step) v (memory s') := by
  induction steps generalizing s with
  | nil => exact took_pure ⟨rfl, fun _ hstep => absurd hstep List.not_mem_nil⟩
  | cons step steps ih =>
      unfold Setup.perform Procedure.effects Procedure.report
      refine took_bind (procedure.took_act h) ?_
      rintro outcome s' ⟨rfl, hserves⟩ hs'
      rw [← hs']
      refine took_then (took_note (.stepFinished step _)) ?_
      intro _ s'' _ hs''
      rw [← hs'']
      refine took_before_pure ih ?_
      rintro report ⟨rfl, hrest⟩
      refine ⟨rfl, List.forall_mem_cons.mpr ⟨hserves, ?_⟩⟩
      intro later hlater
      have hbehind := hrest later hlater
      -- what a later step needs is judged behind this one, and this one changes no interface
      rw [hs'', hs'] at hbehind
      exact hbehind.of_after_all

/-- A procedure with a proper configuration and with privilege takes the effects of its steps. If it
comes to its end, then it reports their outcomes, and what its steps insist on is there. -/
theorem Procedure.took_report (h : Mirrors host memory) (procedure : Procedure)
    (hcheck : config.check = .ok ()) :
    (procedure.setup config .elevated).run.Ends host s fun v s' _ =>
      Took (memory s) (procedure.effects config (memory s) procedure.steps)
        (fun report => report = procedure.report config (memory s) procedure.steps ∧
          ∀ step ∈ procedure.steps, procedure.Serves config (memory s) step) v (memory s') := by
  rw [procedure.ends_setup hcheck]
  exact took_perform h procedure procedure.steps

/-- The same without the report. -/
theorem Procedure.took_setup (h : Mirrors host memory) (procedure : Procedure)
    (hcheck : config.check = .ok ()) :
    (procedure.setup config .elevated).run.Ends host s fun v s' _ =>
      Took (memory s) (procedure.effects config (memory s) procedure.steps) (fun _ => True) v
        (memory s') := by
  refine (procedure.took_report h hcheck).mono ?_
  intro v s' _ hv
  exact hv.mono fun _ _ => trivial

end Procedure

end GuestNat
