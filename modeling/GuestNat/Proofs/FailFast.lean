import GuestNat.Proofs.StepCalls

/-!
# Stopping at the first failure

A procedure whose host fails a call makes no other call: it ends with the error of that call, blames
the step it was at, and leaves in place what the steps before have done.

* every step of the two procedures is orderly, whatever the host answers: its calls are those by
  which it is done, or break off;
* `ends_perform`: so is any sequence of such steps, by induction on the steps;
* `procedure_fails_fast`: the law for a whole procedure, with the two ways to be refused before any
  call is made.

A host may answer as it likes, so the induction needs nothing about its states: what a step may rely
on is only that the calls before it went well.
-/

namespace GuestNat

variable {σ : Type} {host : Host σ} {s : σ} {config : NatConfig} {step : Step}

/-! ## One step -/

theorem orderly_privilege :
    (Setup.requirePrivilege .elevated step).run.Ends host s fun v _ t =>
      Orderly config step (fun _ calls => calls = []) v t :=
  orderly_pure rfl

/-- A step of a single change, done when the host makes it. -/
theorem orderly_change {change : Change} {Done : StepOutcome → List Occurrence → Prop}
    (hown : ∀ reply, (Occurrence.made change reply).Concerns config step)
    (hdone : Done .applied [.made change (.ok ())]) :
    (Setup.make step change >>= fun _ => pure StepOutcome.applied).run.Ends host s fun v _ t =>
      Orderly config step Done v t := by
  refine orderly_bind (orderly_make hown) ?_ ?_
  · rintro _ s' calls rfl
    exact orderly_pure hdone
  · rintro _ calls rfl
    exact ⟨.applied, [], hdone⟩

/-- A rule that need not be looked for counts as not installed. -/
theorem orderly_is_installed {rule : Rule} (options : ApplyOptions)
    (hrule : step.rule config = some rule) :
    (Setup.isInstalled options step rule).run.Ends host s fun v _ t =>
      Orderly config step (fun found calls =>
        (found = true → options.idempotent = true ∧ calls = [.asked (.rule rule) (.ok true)]) ∧
        (found = false → calls = options.vainLook rule)) v t := by
  unfold Setup.isInstalled ApplyOptions.vainLook
  split
  · refine (orderly_ask hrule).mono ?_
    intro v s' t hv
    refine hv.mono ?_
    rintro found calls rfl
    refine ⟨?_, ?_⟩
    · rintro rfl
      exact ⟨‹_›, rfl⟩
    · rintro rfl
      rfl
  · exact orderly_pure ⟨nofun, fun _ => rfl⟩

theorem orderly_add_rule {rule : Rule} (options : ApplyOptions)
    (hrule : step.rule config = some rule) :
    (Setup.addRule options step rule).run.Ends host s fun v _ t =>
      Orderly config step (options.AddedBy rule) v t := by
  unfold Setup.addRule
  refine orderly_bind (orderly_is_installed options hrule) ?_ ?_
  · rintro found s' calls ⟨hthere, hvain⟩
    cases found with
    | true =>
        obtain ⟨hidempotent, rfl⟩ := hthere rfl
        exact orderly_then (orderly_note rfl) fun _ _ => orderly_pure (.alreadyThere hidempotent)
    | false =>
        obtain rfl := hvain rfl
        exact orderly_change (fun _ => hrule) .appended
  · -- a look that fails leaves open which reply it would have given: both ways to finish are open
    rintro found calls ⟨hthere, hvain⟩
    cases found with
    | true =>
        obtain ⟨hidempotent, rfl⟩ := hthere rfl
        exact ⟨.alreadyPresent, [], .alreadyThere hidempotent⟩
    | false =>
        obtain rfl := hvain rfl
        exact ⟨.applied, _, .appended⟩

/-- There is always a way to add a rule. -/
theorem ApplyOptions.addable (options : ApplyOptions) (rule : Rule) :
    ∃ outcome calls, options.AddedBy rule outcome calls :=
  ⟨_, _, .appended⟩

theorem orderly_apply_step (options : ApplyOptions) (hstep : step ∈ Step.applying) :
    (Setup.applyStep config options .elevated step).run.Ends host s fun v _ t =>
      Orderly config step ((Procedure.apply options).DoneBy config step) v t := by
  unfold Setup.applyStep
  refine orderly_then orderly_privilege ?_
  intro _ s'
  cases hrule : step.rule config with
  | none =>
      -- of the steps of applying, only the first one has no rule
      have hfirst : step = .enableForwarding := by
        cases step <;> simp_all [Step.applying, Step.rule]
      subst hfirst
      exact orderly_change (fun _ => hrule) .switchedOn
  | some rule =>
      refine orderly_bind (orderly_interfaces ?_) ?_ ?_
      · intro name hname
        exact (ApplyOptions.verified hname).2
      · rintro _ s'' calls rfl
        refine (orderly_add_rule options hrule).mono ?_
        intro v _ t hv
        exact hv.mono fun outcome calls hadded => .added hrule hadded
      · -- when an interface is missing, the rule is not even looked for
        rintro _ calls rfl
        obtain ⟨outcome, calls, hadded⟩ := options.addable rule
        exact ⟨outcome, calls, .added hrule hadded⟩

/-- The calls by which a loop gets from so many deletions to a number of them. -/
def Rule.LoopedBy (rule : Rule) (budget removed n : Nat) (calls : List Occurrence) : Prop :=
  ∃ copies left, n = removed + copies ∧ copies ≤ budget ∧ (left = true → copies = budget) ∧
    calls = rule.removalCalls copies left

section Looping

variable {rule : Rule} {budget removed : Nat}

theorem Rule.looped_none : rule.LoopedBy budget removed removed [.asked (.rule rule) (.ok false)] :=
  ⟨0, false, rfl, Nat.zero_le budget, nofun, rfl⟩

theorem Rule.looped_giving_up : rule.LoopedBy 0 removed removed [.asked (.rule rule) (.ok true)] :=
  ⟨0, true, rfl, Nat.le_refl 0, fun _ => rfl, rfl⟩

/-- The deletion just made stands before the others. -/
theorem Rule.LoopedBy.again {n : Nat} {calls : List Occurrence}
    (h : rule.LoopedBy budget (removed + 1) n calls) :
    rule.LoopedBy (budget + 1) removed n
      (.asked (.rule rule) (.ok true) :: .made (.delete rule) (.ok ()) :: calls) := by
  obtain ⟨copies, left, rfl, hle, hleft, rfl⟩ := h
  refine ⟨copies + 1, left, by omega, by omega, ?_, rfl⟩
  intro h
  rw [hleft h]

/-- The deletions of a rule add up; a deletion that fails is not among them. The induction is on the
budget, and what a turn of the loop adds is `Rule.LoopedBy.again`. -/
theorem orderly_remove_copies (hrule : step.rule config = some rule) (budget removed : Nat) :
    (Setup.removeCopies step rule budget removed).run.Ends host s fun v _ t =>
      Orderly config step (rule.LoopedBy budget removed) v t := by
  induction budget generalizing s removed with
  | zero =>
      unfold Setup.removeCopies
      refine orderly_bind (orderly_ask hrule) ?_ ?_
      · rintro found s' calls rfl
        cases found with
        | false => exact orderly_pure Rule.looped_none
        | true =>
            exact orderly_then (orderly_note rfl) fun _ _ => orderly_pure Rule.looped_giving_up
      · rintro found calls rfl
        cases found with
        | false => exact ⟨removed, [], Rule.looped_none⟩
        | true => exact ⟨removed, [], Rule.looped_giving_up⟩
  | succ budget ih =>
      unfold Setup.removeCopies
      refine orderly_bind (orderly_ask hrule) ?_ ?_
      · rintro found s' calls rfl
        cases found with
        | false => exact orderly_pure Rule.looped_none
        | true =>
            refine orderly_bind (orderly_make fun _ => hrule) ?_ ?_
            · rintro _ s'' calls rfl
              refine (ih (removed + 1)).mono ?_
              intro v _ t hv
              exact hv.mono fun n calls h => h.again
            · rintro _ calls rfl
              exact ⟨removed + 1, _, Rule.looped_none.again⟩
      · -- behind a look that fails, there might have been no copy, or one more
        rintro found calls rfl
        cases found with
        | false => exact ⟨removed, [], Rule.looped_none⟩
        | true => exact ⟨removed + 1, _, Rule.looped_none.again⟩

/-- A whole loop, from no deletion on. -/
theorem Rule.LoopedBy.took_away {n : Nat} {calls : List Occurrence}
    (h : rule.LoopedBy Setup.maxRemovals 0 n calls) :
    TookAway rule (.ofRemovals n) calls := by
  obtain ⟨copies, left, rfl, hle, hleft, rfl⟩ := h
  rw [Nat.zero_add]
  exact .copies hle hleft

end Looping

theorem orderly_teardown_step (disableForwarding : Bool) (hstep : step ∈ Step.removing) :
    (Setup.teardownStep config disableForwarding .elevated step).run.Ends host s fun v _ t =>
      Orderly config step ((Procedure.teardown disableForwarding).DoneBy config step) v t := by
  unfold Setup.teardownStep
  refine orderly_then orderly_privilege ?_
  intro _ s'
  cases hrule : step.rule config with
  | none =>
      -- of the steps of removing, only the last one has no rule
      have hlast : step = .disableForwarding := by
        cases step <;> simp_all [Step.removing, Step.rule]
      subst hlast
      cases disableForwarding with
      | true => exact orderly_change (fun _ => hrule) .switchedOff
      | false => exact orderly_pure .leftAlone
  | some rule =>
      refine orderly_bind (orderly_remove_copies hrule Setup.maxRemovals 0) ?_ ?_
      · intro n s'' calls hlooped
        refine orderly_pure ?_
        rw [List.append_nil]
        exact .takenAway hrule hlooped.took_away
      · intro n calls hlooped
        refine ⟨.ofRemovals n, [], ?_⟩
        rw [List.append_nil]
        exact .takenAway hrule hlooped.took_away

/-- A step of a procedure is done by the calls that its outcome says, or breaks off. -/
theorem Procedure.orderly_act (procedure : Procedure) (hstep : step ∈ procedure.steps) :
    (procedure.act config .elevated step).run.Ends host s fun v _ t =>
      Orderly config step (procedure.DoneBy config step) v t := by
  cases procedure with
  | apply options => exact orderly_apply_step options hstep
  | teardown disableForwarding => exact orderly_teardown_step disableForwarding hstep

/-! ## All steps -/

/-- What the trace of steps in turn shows when all of them are finished. -/
structure AllFinished (procedure : Procedure) (config : NatConfig) (steps : List Step)
    (report : Report) (trace : List Occurrence) : Prop where
  finished : finishedIn trace = report
  inTurn : report.map (·.1) = steps
  smooth : Smooth trace
  done : procedure.AllDoneBy config report (callsOf trace)

/-- What it shows when one of them fails: the last call is one to stop behind and belongs to the
step behind the finished ones. -/
structure StoppedAt (procedure : Procedure) (config : NatConfig) (steps : List Step)
    (e : SetupError) (trace : List Occurrence) (step : Step) (done begun : List Occurrence)
    (last : Occurrence) (cause : HostError) : Prop where
  inTurn : ∃ rest, steps = (finishedIn trace).map (·.1) ++ step :: rest
  calls : callsOf trace = done ++ begun ++ [last]
  smooth : Smooth (done ++ begun)
  stop : last.stop? = some cause
  own : last.Concerns config step
  error : e = .stepFailed step cause
  done : procedure.AllDoneBy config (finishedIn trace) done
  broken : procedure.BrokenOff config step begun last

/-- Steps in turn are all finished, or one of them fails. -/
def InOrder (procedure : Procedure) (config : NatConfig) (steps : List Step) :
    Except SetupError Report → List Occurrence → Prop
  | .ok report, t => AllFinished procedure config steps report t
  | .error e, t => ∃ step done begun last cause,
      StoppedAt procedure config steps e t step done begun last cause

section Sequence

variable {procedure : Procedure} {steps : List Step} {t u : List Occurrence}

/-- The changes of a run that comes to its end are those that its report stands for. -/
theorem AllFinished.changes {report : Report}
    (h : AllFinished procedure config steps report t) : changesOf t = report.changes config := by
  rw [← changes_of_calls]
  exact h.done.changes

/-- A finished step in front of a sequence. -/
theorem InOrder.cons {outcome : StepOutcome} {v : Except SetupError Report}
    (hfin : finishedIn t = [(step, outcome)]) (hsmooth : Smooth t)
    (hdone : procedure.DoneBy config step outcome (callsOf t))
    (h : InOrder procedure config steps v u) :
    InOrder procedure config (step :: steps) (v.map ((step, outcome) :: ·)) (t ++ u) := by
  have hfinished : finishedIn (t ++ u) = (step, outcome) :: finishedIn u := by
    rw [finished_in_append, hfin]
    rfl
  cases v with
  | ok report =>
      refine ⟨?_, ?_, (smooth_append t u).mpr ⟨hsmooth, h.smooth⟩, ?_⟩
      · rw [hfinished, h.finished]
      · rw [← h.inTurn]
        rfl
      · rw [calls_of_append]
        exact .cons hdone h.done
  | error e =>
      obtain ⟨failed, done, begun, last, cause, hstopped⟩ := h
      obtain ⟨rest, hsteps⟩ := hstopped.inTurn
      -- the calls of the finished step come before those of the others
      refine ⟨failed, callsOf t ++ done, begun, last, cause, ⟨rest, ?_⟩, ?_, ?_, hstopped.stop,
        hstopped.own, hstopped.error, ?_, hstopped.broken⟩
      · rw [hfinished, hsteps]
        rfl
      · rw [calls_of_append, hstopped.calls]
        simp only [List.append_assoc]
      · rw [List.append_assoc]
        exact (smooth_append _ _).mpr ⟨smooth_calls hsmooth, hstopped.smooth⟩
      · rw [hfinished]
        exact .cons hdone hstopped.done

/-- Steps that are orderly one by one are so in sequence: the induction is on the steps, and each
one that is finished is reported before the next one begins. -/
theorem ends_perform {act : Step → Setup StepOutcome}
    (hact : ∀ step ∈ steps, ∀ s, (act step).run.Ends host s fun v _ t =>
      Orderly config step (procedure.DoneBy config step) v t) :
    (Setup.perform act steps).run.Ends host s fun v _ t =>
      InOrder procedure config steps v t := by
  induction steps generalizing s with
  | nil =>
      exact Setup.ends_pure.mpr ⟨rfl, rfl, fun _ ho => absurd ho List.not_mem_nil, .nil⟩
  | cons step steps ih =>
      unfold Setup.perform
      refine Setup.ends_of_parts (hact step List.mem_cons_self s) ?_ ?_
      · rintro outcome s' t ⟨hfin, hsmooth, hdone⟩
        rw [Plan.ends_except_bind, Setup.ends_note]
        dsimp only
        rw [Plan.ends_except_bind]
        refine (ih fun step' hstep' => hact step' (List.mem_cons_of_mem step hstep')).mono ?_
        intro v s'' u hv
        -- the report of the finished step belongs to what comes before the others
        have hcons : InOrder procedure config (step :: steps) (v.map ((step, outcome) :: ·))
            ((t ++ [.noted (.stepFinished step outcome)]) ++ u) := by
          refine hv.cons ?_ ?_ ?_
          · rw [finished_in_append, hfin]
            rfl
          · exact (smooth_append _ _).mpr ⟨hsmooth, List.forall_mem_singleton.mpr rfl⟩
          · rw [calls_of_append]
            change procedure.DoneBy config step outcome (callsOf t ++ [])
            rw [List.append_nil]
            exact hdone
        rw [List.append_assoc] at hcons
        cases v with
        | error e => exact hcons
        | ok report =>
            refine Setup.ends_pure.mpr ?_
            rw [List.append_nil]
            exact hcons
      · -- the first step failed, so no step is finished
        rintro e s' t ⟨hfin, before, last, cause, hcalls, hsmooth, hstop, hown, he, hbroken⟩
        refine ⟨step, [], before, last, cause, ⟨steps, ?_⟩, hcalls, hsmooth, hstop, hown, he, ?_,
          hbroken⟩
        · rw [hfin]
          rfl
        · rw [hfin]
          exact .nil

end Sequence

/-! ## The whole procedure -/

/-- The law of stopping at the first failure, for one run of a procedure with its value and its
trace. -/
structure FailsFast (procedure : Procedure) (config : NatConfig) (privilege : Privilege)
    (value : Except SetupError Report) (trace : List Occurrence) : Prop where
  /-- A configuration that does not pass is refused before any call. -/
  refuses : ∀ fault, config.check = .error fault →
    value = .error (.config (.interfaces fault)) ∧ callsOf trace = [] ∧ finishedIn trace = []
  /-- Without privilege the first step is refused before any call. -/
  denies : config.check = .ok () → privilege = .unprivileged →
    ∃ first rest, procedure.steps = first :: rest ∧
      value = .error (.stepFailed first .permissionDenied) ∧
      callsOf trace = [] ∧ finishedIn trace = []
  /-- Behind a call that failed, or found an interface missing, there is no other call. It belongs
  to the step behind the finished ones, and its error is that of the run. The calls before it are
  those by which the finished steps came to their outcomes and those with which the failing step
  had begun, and so are the changes. -/
  stops : ∀ before call after cause, callsOf trace = before ++ call :: after →
    call.stop? = some cause →
    after = [] ∧ Smooth before ∧ ∃ step rest done begun,
      procedure.steps = (finishedIn trace).map (·.1) ++ step :: rest ∧
      call.Concerns config step ∧ value = .error (.stepFailed step cause) ∧
      before = done ++ begun ∧
      procedure.AllDoneBy config (finishedIn trace) done ∧
      changesOf done = Report.changes config (finishedIn trace) ∧
      procedure.BrokenOff config step begun call ∧
      procedure.Begun config step (changesOf begun)
  /-- A run that comes to its end has finished all steps, each with the outcome that its calls came
  to, and no call of it has failed. -/
  completes : ∀ report, value = .ok report →
    finishedIn trace = report ∧ report.map (·.1) = procedure.steps ∧ Smooth trace ∧
      procedure.AllDoneBy config report (callsOf trace) ∧
      changesOf trace = report.changes config
  /-- With a proper configuration and with privilege, only such a call ends a run early. -/
  blames : ∀ e, value = .error e → config.check = .ok () → privilege = .elevated →
    ∃ before call, callsOf trace = before ++ [call] ∧ call.stop? ≠ none

/-- A run whose steps go in order keeps the law. -/
theorem InOrder.fails_fast {procedure : Procedure} {v : Except SetupError Report}
    {t : List Occurrence} (hcheck : config.check = .ok ())
    (h : InOrder procedure config procedure.steps v t) :
    FailsFast procedure config .elevated v t where
  refuses := by
    intro fault hfault
    rw [hcheck] at hfault
    cases hfault
  denies := by
    intro _ hprivilege
    cases hprivilege
  stops := by
    intro before call after cause hcalls hcause
    have hstop : call.stop? ≠ none := by
      rw [hcause]
      exact Option.some_ne_none cause
    cases v with
    | ok report =>
        -- a run that comes to its end has no such call
        have hmem : call ∈ callsOf t := by
          rw [hcalls]
          exact List.mem_append_right before List.mem_cons_self
        exact absurd (smooth_calls h.smooth call hmem) hstop
    | error e =>
        obtain ⟨step, done, begun, last, cause', hstopped⟩ := h
        obtain ⟨rest, hsteps⟩ := hstopped.inTurn
        -- all calls but the last one went well, so it is the last one
        obtain ⟨hafter, rfl, rfl⟩ :=
          split_at_stop (hcalls.symm.trans hstopped.calls) hstopped.smooth hstop
        obtain rfl : cause' = cause := Option.some.inj (hstopped.stop.symm.trans hcause)
        rw [hstopped.error]
        exact ⟨hafter, hstopped.smooth, step, rest, done, begun, hsteps, hstopped.own, rfl, rfl,
          hstopped.done, hstopped.done.changes, hstopped.broken, hstopped.broken.begun⟩
  completes := by
    intro report hreport
    subst hreport
    exact ⟨h.finished, h.inTurn, h.smooth, h.done, h.changes⟩
  blames := by
    intro e he _ _
    subst he
    obtain ⟨step, done, begun, last, cause, hstopped⟩ := h
    refine ⟨done ++ begun, last, hstopped.calls, ?_⟩
    rw [hstopped.stop]
    exact Option.some_ne_none cause

/-- An announcement in front changes nothing of this. -/
theorem InOrder.announced {procedure : Procedure} {steps : List Step}
    {v : Except SetupError Report} {t : List Occurrence} {event : Event}
    (hevent : (Occurrence.noted event).finished? = none)
    (h : InOrder procedure config steps v t) :
    InOrder procedure config steps v (.noted event :: t) := by
  -- the event is no finished step and no call, so the run is in order as before
  have hfin : finishedIn (.noted event :: t) = finishedIn t := List.filterMap_cons_none hevent
  have hcalls : callsOf (.noted event :: t) = callsOf t := rfl
  cases v with
  | ok report =>
      refine ⟨hfin.trans h.finished, h.inTurn, List.forall_mem_cons.mpr ⟨rfl, h.smooth⟩, ?_⟩
      rw [hcalls]
      exact h.done
  | error e =>
      obtain ⟨step, done, begun, last, cause, hinTurn, hlast, hsmooth, hstop, hown, he, hdone,
        hbroken⟩ := h
      rw [← hfin] at hinTurn hdone
      exact ⟨step, done, begun, last, cause, hinTurn, hcalls.trans hlast, hsmooth, hstop, hown, he,
        hdone, hbroken⟩

/-- A run that fails before any call keeps the law if its error is the right one. -/
theorem fails_fast_of_no_call {procedure : Procedure} {privilege : Privilege} {e : SetupError}
    {t : List Occurrence} (hcalls : callsOf t = []) (hfin : finishedIn t = [])
    (hrefuses : ∀ fault, config.check = .error fault → e = .config (.interfaces fault))
    (hdenies : config.check = .ok () → privilege = .unprivileged ∧ ∃ first rest,
      procedure.steps = first :: rest ∧ e = .stepFailed first .permissionDenied) :
    FailsFast procedure config privilege (.error e) t where
  refuses := by
    intro fault hfault
    rw [hrefuses fault hfault]
    exact ⟨rfl, hcalls, hfin⟩
  denies := by
    intro hcheck _
    obtain ⟨-, first, rest, hsteps, he⟩ := hdenies hcheck
    rw [he]
    exact ⟨first, rest, hsteps, rfl, hcalls, hfin⟩
  stops := by
    intro before call after cause hsplit _
    rw [hcalls] at hsplit
    exact absurd (List.append_eq_nil_iff.mp hsplit.symm).2 (List.cons_ne_nil call after)
  completes := by
    intro report hreport
    cases hreport
  blames := by
    intro e' _ hcheck helevated
    rw [(hdenies hcheck).1] at helevated
    cases helevated

theorem Procedure.steps_cons (procedure : Procedure) :
    ∃ first rest, procedure.steps = first :: rest := by
  cases procedure <;> exact ⟨_, _, rfl⟩

theorem Procedure.ends_unprivileged (procedure : Procedure) (step : Step) :
    (procedure.act config .unprivileged step).run.Ends host s fun v _ t =>
      v = .error (.stepFailed step .permissionDenied) ∧ t = [.noted (.unprivileged step)] := by
  cases procedure <;> exact ⟨rfl, rfl⟩

/-- A configuration that does not pass ends a procedure at once. -/
theorem Procedure.ends_refused (procedure : Procedure) {fault : InterfaceFault}
    (hcheck : config.check = .error fault) (privilege : Privilege) :
    (procedure.setup config privilege).run.Ends host s fun v _ t =>
      v = .error (.config (.interfaces fault)) ∧ t = [] := by
  rw [setup_eq, Plan.ends_except_bind, Setup.ends_check_config, hcheck]
  exact ⟨rfl, rfl⟩

/-- Without privilege a procedure ends at its first step, before any call. -/
theorem Procedure.ends_denied (procedure : Procedure) (hcheck : config.check = .ok ()) :
    (procedure.setup config .unprivileged).run.Ends host s fun v _ t =>
      (∃ first rest, procedure.steps = first :: rest ∧
        v = .error (.stepFailed first .permissionDenied)) ∧
      callsOf t = [] ∧ finishedIn t = [] := by
  obtain ⟨first, rest, hsteps⟩ := procedure.steps_cons
  rw [procedure.ends_setup hcheck, hsteps]
  unfold Setup.perform
  refine Setup.ends_of_parts (procedure.ends_unprivileged first) ?_ ?_
  · rintro outcome s' t ⟨hv, -⟩
    cases hv
  · rintro e s' t ⟨hv, rfl⟩
    obtain rfl := Except.error.inj hv
    refine ⟨⟨first, rest, rfl, rfl⟩, rfl, ?_⟩
    cases procedure <;> rfl

/-- With a proper configuration and with privilege, the steps of a procedure go in order. -/
theorem Procedure.ends_in_order (procedure : Procedure) (hcheck : config.check = .ok ()) :
    (procedure.setup config .elevated).run.Ends host s fun v _ t =>
      InOrder procedure config procedure.steps v t := by
  rw [procedure.ends_setup hcheck]
  refine (ends_perform fun step hstep s' => procedure.orderly_act hstep).mono ?_
  intro v s' t hv
  refine hv.announced ?_
  cases procedure <;> rfl

/-- So a procedure that comes to its end has finished all of them, with any configuration. -/
theorem Procedure.ends_all_finished (procedure : Procedure) (config : NatConfig) :
    (procedure.setup config .elevated).run.Ends host s fun v _ t =>
      ∀ report, v = .ok report → AllFinished procedure config procedure.steps report t := by
  cases hcheck : config.check with
  | error fault =>
      refine (procedure.ends_refused hcheck .elevated).mono ?_
      rintro v s' t ⟨rfl, -⟩ report hreport
      cases hreport
  | ok _ =>
      refine (procedure.ends_in_order hcheck).mono ?_
      rintro v s' t hv report rfl
      exact hv

/-- **Every procedure stops at the first failure**, on every host: whatever the host answers to
each call, and whatever that depends on. -/
theorem procedure_fails_fast (host : Host σ) (s : σ) (procedure : Procedure) (config : NatConfig)
    (privilege : Privilege) :
    FailsFast procedure config privilege
      ((procedure.setup config privilege).run.run host s).value
      ((procedure.setup config privilege).run.run host s).trace := by
  change (procedure.setup config privilege).run.Ends host s fun v _ t =>
    FailsFast procedure config privilege v t
  -- refused by the check, denied for want of privilege, or carried out step by step
  cases hcheck : config.check with
  | error fault =>
      refine (procedure.ends_refused hcheck privilege).mono ?_
      rintro v s' t ⟨rfl, rfl⟩
      refine fails_fast_of_no_call rfl rfl ?_ ?_
      · intro fault' hfault
        rw [hcheck] at hfault
        cases hfault
        rfl
      · intro hok
        rw [hcheck] at hok
        cases hok
  | ok _ =>
      cases privilege with
      | elevated => exact (procedure.ends_in_order hcheck).mono fun v _ t h => h.fails_fast hcheck
      | unprivileged =>
          refine (procedure.ends_denied hcheck).mono ?_
          rintro v s' t ⟨⟨first, rest, hsteps, rfl⟩, hcalls, hfin⟩
          refine fails_fast_of_no_call hcalls hfin ?_ fun _ => ⟨rfl, first, rest, hsteps, rfl⟩
          intro fault hfault
          rw [hcheck] at hfault
          cases hfault

end GuestNat
