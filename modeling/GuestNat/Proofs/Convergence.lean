import GuestNat.Proofs.Applying
import GuestNat.Proofs.Completion

/-!
# Interrupted runs converge

Runs that look for the rules before they add them may fail anywhere, any number of times. Once one
of them comes to its end, the host is as a single run without failures would have left it.

* `PartlyEnsured`: the invariant. The rules are those from the beginning and the first ones of those
  that were missing then, so it does not matter where a run fails: the next one goes on there.
* `Ensured`: nothing is missing, and forwarding is on.
* `interrupted_runs_converge`: what is left behind by runs in turn of which the last one comes to
  its end.
-/

namespace GuestNat

variable {σ : Type} {host : Host σ} {memory : σ → Rehearsal} {s : σ} {config : NatConfig}

/-- Behind the rules from the beginning stand the first ones of those that were missing. -/
def PartlyEnsured (config : NatConfig) (start : List Rule) (now : Rehearsal) : Prop :=
  ∃ added, added <+: config.missing start ∧ now.rules = start ++ added

/-- Behind the rules from the beginning stand all those that were missing, and forwarding is on. -/
structure Ensured (config : NatConfig) (start : List Rule) (now : Rehearsal) : Prop where
  rules : now.rules = start ++ config.missing start
  forwarding : now.forwarding = true

theorem partly_ensured_at_start (now : Rehearsal) : PartlyEnsured config now.rules now :=
  ⟨[], List.nil_prefix, (List.append_nil now.rules).symm⟩

/-! ## One run -/

/-- The beginning of a run: nothing at all, or the switch and the first rules. -/
theorem prefix_of_applying {rules : List Rule} {begun : List Change}
    (h : begun <+: .setForwarding true :: rules.map .append) :
    begun = [] ∨ ∃ added, added <+: rules ∧ begun = .setForwarding true :: added.map .append := by
  rcases List.prefix_cons_iff.mp h with hnil | ⟨changes, hbegun, hchanges⟩
  · exact Or.inl hnil
  · obtain ⟨others, hothers⟩ := hchanges
    obtain ⟨added, rest, hrules, hadded, -⟩ := List.map_eq_append_iff.mp hothers.symm
    refine Or.inr ⟨added, ⟨rest, hrules.symm⟩, ?_⟩
    rw [hbegun, hadded]

/-- The effect of a run on a partial setup is what still is missing of it. -/
theorem PartlyEnsured.effects {start : List Rule} {now : Rehearsal}
    (h : PartlyEnsured config start now) (options : ApplyOptions)
    (hidempotent : options.idempotent = true) :
    ∃ added rest, now.rules = start ++ added ∧ config.missing start = added ++ rest ∧
      (Procedure.apply options).effects config now Step.applying =
        .setForwarding true :: rest.map .append := by
  obtain ⟨added, ⟨rest, hmissing⟩, hrules⟩ := h
  refine ⟨added, rest, hrules, hmissing.symm, ?_⟩
  rw [Procedure.effects_of_ensuring config options now hidempotent, hrules,
    config.missing_append hmissing.symm]

/-- A run keeps a partial setup partial, a complete one stays complete, and it is complete once the
run comes to its end. -/
theorem ends_ensure (hmirrors : Mirrors host memory) (hcheck : config.check = .ok ())
    {start : List Rule} (verifyInterfaces : Bool)
    (hpartly : PartlyEnsured config start (memory s)) :
    (Setup.up config true verifyInterfaces).run.Ends host s fun v s' _ =>
      PartlyEnsured config start (memory s') ∧
        ((∃ report, v = .ok report) ∨ Ensured config start (memory s) →
          Ensured config start (memory s')) := by
  let procedure := Procedure.apply { idempotent := true, verifyInterfaces }
  obtain ⟨added, rest, hrules, hmissing, heffects⟩ :=
    hpartly.effects { idempotent := true, verifyInterfaces } rfl
  have htook : (procedure.setup config .elevated).run.Ends host s fun v s' _ =>
      Took (memory s) (.setForwarding true :: rest.map .append) (fun _ => True) v (memory s') := by
    rw [← heffects]
    exact procedure.took_setup hmirrors hcheck
  refine htook.mono ?_
  intro v s' _ hv
  cases v with
  | ok report =>
      have hafter := Rehearsal.after_applying (memory s) rest
      rw [← hv.2, hrules, List.append_assoc, ← hmissing] at hafter
      exact ⟨⟨_, List.prefix_rfl, hafter.1⟩, fun _ => ⟨hafter.1, hafter.2⟩⟩
  | error e =>
      obtain ⟨begun, hbegun, hs'⟩ := hv
      rcases prefix_of_applying hbegun with hnil | ⟨more, hmore, hbegun'⟩
      · -- nothing was changed
        have hsame : memory s' = memory s := by
          rw [hs', hnil, Rehearsal.after_all_nil]
        rw [hsame]
        refine ⟨hpartly, ?_⟩
        rintro (⟨report, hreport⟩ | hensured)
        · cases hreport
        · exact hensured
      · -- the first ones of the rules that were still missing have been added
        have hafter := Rehearsal.after_applying (memory s) more
        rw [← hbegun', ← hs', hrules, List.append_assoc] at hafter
        refine ⟨⟨added ++ more, ?_, hafter.1⟩, ?_⟩
        · rw [hmissing]
          exact (List.prefix_append_right_inj added).mpr hmore
        · rintro (⟨report, hreport⟩ | hensured)
          · cases hreport
          · have hadded : added = config.missing start :=
              List.append_cancel_left (hrules.symm.trans hensured.rules)
            have hrest : rest = [] := by
              rw [← hadded] at hmissing
              simpa using hmissing
            have hnone : more = [] := List.prefix_nil.mp (hrest ▸ hmore)
            refine ⟨?_, hafter.2⟩
            rw [hafter.1, hnone, List.append_nil, hadded]

/-! ## Runs in turn -/

/-- What one run preserves is preserved by all of them, by induction on the runs. -/
theorem ends_ensure_in_turn (hmirrors : Mirrors host memory) (hcheck : config.check = .ok ())
    {start : List Rule} (verify : List Bool) (hpartly : PartlyEnsured config start (memory s)) :
    (Setup.upInTurn config true verify).Ends host s fun values s' _ =>
      PartlyEnsured config start (memory s') ∧
        ((∃ report, .ok report ∈ values) ∨ Ensured config start (memory s) →
          Ensured config start (memory s')) := by
  -- `PartlyEnsured` is carried from run to run; once one of them is through, `Ensured` is too
  induction verify generalizing s with
  | nil =>
      refine Plan.ends_pure.mpr ⟨hpartly, ?_⟩
      rintro (⟨report, hreport⟩ | hensured)
      · exact absurd hreport List.not_mem_nil
      · exact hensured
  | cons verifyInterfaces verify ih =>
      refine Setup.ends_in_turn_cons.mpr ?_
      refine (ends_ensure hmirrors hcheck verifyInterfaces hpartly).mono ?_
      rintro value s' - ⟨hpartly', hensured'⟩
      refine (ih hpartly').mono ?_
      rintro values s'' - ⟨hpartly'', hensured''⟩
      refine ⟨hpartly'', ?_⟩
      rintro (⟨report, hreport⟩ | hensured)
      · -- the run that is through is this one or a later one
        rcases List.mem_cons.mp hreport with hfirst | hlater
        · exact hensured'' (Or.inr (hensured' (Or.inl ⟨report, hfirst.symm⟩)))
        · exact hensured'' (Or.inl ⟨report, hlater⟩)
      · exact hensured'' (Or.inr (hensured' (Or.inr hensured)))

/-- A single run on a host in memory. -/
def Setup.ensureOnce (config : NatConfig) (verifyInterfaces : Bool) (start : Rehearsal) :
    Run Rehearsal (Except SetupError Report) :=
  (Setup.up config true verifyInterfaces).run.run Rehearsal.host start

/-- The state that runs which look for the rules come to, seen from the state they started in. -/
structure Converged (config : NatConfig) (host : Host σ) (memory : σ → Rehearsal)
    (first last : σ) : Prop where
  /-- Behind the rules from the beginning stand those of the configuration that were missing. -/
  rules : (memory last).rules =
    (memory first).rules ++ config.rules.filter (· ∉ (memory first).rules)
  forwarding : (memory last).forwarding = true
  /-- Every rule of the configuration is there once, or as often as it was. -/
  copies : ∀ rule ∈ config.rules,
    (memory last).rules.count rule = max ((memory first).rules.count rule) 1
  /-- Further runs, whatever becomes of them, change no rule. -/
  stays : ∀ verify, (memory ((Setup.upInTurn config true verify).run host last).state).rules =
    (memory last).rules
  /-- A single run that comes to its end leaves the same state. -/
  single : ∀ verifyInterfaces start report, start.rules = (memory first).rules →
    (Setup.ensureOnce config verifyInterfaces start).value = .ok report →
      (Setup.ensureOnce config verifyInterfaces start).state.rules = (memory last).rules ∧
        (Setup.ensureOnce config verifyInterfaces start).state.forwarding =
          (memory last).forwarding
  /-- Such a run comes to its end where no change is refused and no interface is missing. -/
  possible : ∀ verifyInterfaces start, start.Open → start.interfaces = none →
    ∃ report, (Setup.ensureOnce config verifyInterfaces start).value = .ok report

theorem ensure_once_ok (hcheck : config.check = .ok ()) {start : Rehearsal} {report : Report}
    (verifyInterfaces : Bool)
    (h : (Setup.ensureOnce config verifyInterfaces start).value = .ok report) :
    Ensured config start.rules (Setup.ensureOnce config verifyInterfaces start).state :=
  (ends_ensure mirrors_rehearsal hcheck verifyInterfaces (partly_ensured_at_start start)).2
    (Or.inl ⟨report, h⟩)

theorem Ensured.converged (hmirrors : Mirrors host memory) (hcheck : config.check = .ok ())
    {first last : σ} (h : Ensured config (memory first).rules (memory last)) :
    Converged config host memory first last where
  rules := h.rules
  forwarding := h.forwarding
  copies := by
    intro rule hrule
    rw [h.rules]
    exact config.count_append_missing hrule
  -- runs on a host that has everything leave everything
  stays := by
    intro verify
    have hpartly : PartlyEnsured config (memory first).rules (memory last) :=
      ⟨_, List.prefix_rfl, h.rules⟩
    have hagain := (ends_ensure_in_turn hmirrors hcheck verify hpartly).2 (Or.inr h)
    rw [h.rules]
    exact hagain.rules
  single := by
    intro verifyInterfaces start report hstart hreport
    have honce := ensure_once_ok hcheck verifyInterfaces hreport
    rw [hstart] at honce
    exact ⟨honce.rules.trans h.rules.symm, honce.forwarding.trans h.forwarding.symm⟩
  possible := by
    intro verifyInterfaces start hopen hinterfaces
    let procedure := Procedure.apply { idempotent := true, verifyInterfaces }
    have hserved : procedure.Served config start := procedure.served_of_no_list hinterfaces
    exact (procedure_completes procedure hcheck hopen hserved).1

/-- **Interrupted runs converge.** Runs of applying that look for the rules may fail at any call, on
any host that its failures leave as it is. If the last one comes to its end, then the rules are
those from the beginning and behind them those of the configuration that were missing, and
forwarding is on: the state that a single run without failures leaves, which further runs do not
change. -/
theorem interrupted_runs_converge (hmirrors : Mirrors host memory) (hcheck : config.check = .ok ())
    (verify : List Bool) {report : Report}
    (hlast : ((Setup.upInTurn config true verify).run host s).value.getLast? = some (.ok report)) :
    Converged config host memory s ((Setup.upInTurn config true verify).run host s).state := by
  have hends := ends_ensure_in_turn hmirrors hcheck verify (partly_ensured_at_start (memory s))
  have hmem : .ok report ∈ ((Setup.upInTurn config true verify).run host s).value :=
    List.mem_of_getLast? hlast
  exact (hends.2 (Or.inl ⟨report, hmem⟩)).converged hmirrors hcheck

/-- Two runs on a host that has one of the rules and a foreign one: the first run fails at the
second rule that it adds, the last one goes on there. -/
theorem interrupted_runs_converge_behind_fault :
    let config : NatConfig := {}
    let foreign : Rule := ⟨.filter, "INPUT", ["-j", "DROP"]⟩
    let faults : List Fault := [⟨.appendRule, some 2, .permissionDenied⟩]
    let host := Faulty.host faults Rehearsal.host
    let first : Faulty Rehearsal := { state := { rules := [foreign, .acceptFrom config.tap] } }
    let run := (Setup.upInTurn config true [true, false]).run host first
    run.value.map (·.isOk) = [false, true] ∧
      Converged config host (·.state) first run.state ∧
      run.state.state.rules = [foreign, .acceptFrom config.tap, .acceptTo config.tap,
        .masquerade config.subnet config.uplink] := by
  intro config foreign faults host first run
  have hlast : run.value.getLast? = some (.ok [(.enableForwarding, .applied),
      (.acceptToTap, .alreadyPresent), (.acceptFromTap, .alreadyPresent),
      (.masquerade, .applied)]) := by
    decide +kernel
  exact ⟨by decide +kernel,
    interrupted_runs_converge (mirrors_faulty faults mirrors_rehearsal) (by decide +kernel)
      [true, false] hlast,
    by decide +kernel⟩

end GuestNat
