import GuestNat.Proofs.Effects

/-!
# Coming to an end

On a host in memory that refuses nothing, a procedure with a proper configuration and with privilege
comes to its end, provided that the interfaces it insists on are there. In particular the removal of
copies never deletes a rule that is not there.

* `Completes`: the run ends well, and further runs find the same interfaces and no refusal either;
* `procedure_completes`: what holds of each step holds of all of them in turn;
* `ends_on_open`: such a run takes its whole effect.
-/

namespace GuestNat

variable {α β : Type}

namespace Rehearsal

/-- The host refuses no change for lack of an allowance or because of its rule. -/
structure Open (host : Rehearsal) : Prop where
  allowance_none : host.allowance = none
  refused_nil : host.refused = []

variable {host : Rehearsal} {change : Change}

theorem Open.after (h : host.Open) (change : Change) : (host.after change).Open :=
  ⟨h.allowance_none, h.refused_nil⟩

/-- Changes refuse nothing. -/
theorem Open.after_all (h : host.Open) (changes : List Change) :
    (host.afterAll changes).Open := by
  induction changes generalizing host with
  | nil => exact h
  | cons change changes ih => exact ih (h.after change)

/-- An open host accepts every change but the deletion of a rule that is not there. -/
theorem Open.accepts (h : host.Open)
    (hpresent : ∀ rule, change = .delete rule → rule ∈ host.rules) : host.Accepts change := by
  constructor
  · unfold isDenied
    rw [h.allowance_none]
  · cases change with
    | setForwarding on => trivial
    | append rule =>
        change rule ∉ host.refused
        rw [h.refused_nil]
        exact List.not_mem_nil
    | delete rule => exact hpresent rule rfl

end Rehearsal

/-- The run comes to its end and leaves a host of the same kind. -/
def Completes (x : Setup α) (s : Rehearsal) : Prop :=
  x.run.Ends Rehearsal.host s fun v s' _ =>
    (∃ a, v = .ok a) ∧ s'.Open ∧ s'.interfaces = s.interfaces

variable {s : Rehearsal} {config : NatConfig} {step : Step}

/-! ## Parts of a step -/

theorem completes_bind {x : Setup α} {f : α → Setup β} (hx : Completes x s)
    (hf : ∀ a s', s'.Open → s'.interfaces = s.interfaces → Completes (f a) s') :
    Completes (x >>= f) s := by
  refine Setup.ends_of_parts hx ?_ ?_
  · rintro a s' - ⟨-, hopen, hinterfaces⟩
    refine (hf a s' hopen hinterfaces).mono ?_
    rintro v s'' - ⟨hv, hopen', hinterfaces'⟩
    exact ⟨hv, hopen', hinterfaces'.trans hinterfaces⟩
  · rintro e s' - ⟨⟨a, ha⟩, -⟩
    cases ha

theorem completes_pure (h : s.Open) (a : α) : Completes (pure a) s :=
  Setup.ends_pure.mpr ⟨⟨a, rfl⟩, h, rfl⟩

theorem completes_note (h : s.Open) (event : Event) : Completes (Setup.note event) s :=
  Setup.ends_note.mpr ⟨⟨(), rfl⟩, h, rfl⟩

/-- A question is answered, and the rest goes on with the answer. -/
theorem completes_ask {question : Question} {f : Bool → Setup β}
    (h : Completes (f (s.answer question)) s) : Completes (Setup.ask step question >>= f) s := by
  unfold Completes
  rw [Plan.ends_except_bind, Setup.ends_ask]
  exact h

/-- A change that is accepted is made, and the rest goes on behind it. -/
theorem completes_make {change : Change} {f : Unit → Setup β} (haccepts : s.Accepts change)
    (h : Completes (f ()) (s.after change)) : Completes (Setup.make step change >>= f) s := by
  unfold Completes
  rw [Plan.ends_except_bind, Setup.ends_make, s.make_of_accepts haccepts]
  exact h

/-- A step that ends with a change other than a deletion. -/
theorem completes_change (h : s.Open) {change : Change} (hchange : ∀ rule, change ≠ .delete rule)
    (outcome : StepOutcome) :
    Completes (Setup.make step change >>= fun _ => pure outcome) s :=
  completes_make (h.accepts fun rule hrule => absurd hrule (hchange rule))
    (completes_pure (h.after change) outcome)

theorem completes_interfaces (h : s.Open) {names : List String}
    (hnames : ∀ name ∈ names, s.hasInterface name) :
    Completes (Setup.requireInterfaces step names) s := by
  induction names with
  | nil => exact completes_pure h ()
  | cons name names ih =>
      have hname : s.answer (.interface name) = true := hnames name List.mem_cons_self
      unfold Setup.requireInterfaces
      refine completes_ask ?_
      rw [hname]
      exact ih fun n hn => hnames n (List.mem_cons_of_mem name hn)

theorem completes_is_installed (h : s.Open) (options : ApplyOptions) (rule : Rule) :
    Completes (Setup.isInstalled options step rule) s := by
  unfold Setup.isInstalled
  split
  · exact Setup.ends_ask.mpr ⟨⟨_, rfl⟩, h, rfl⟩
  · exact completes_pure h false

theorem completes_add_rule (h : s.Open) (options : ApplyOptions) (rule : Rule) :
    Completes (Setup.addRule options step rule) s := by
  unfold Setup.addRule
  refine completes_bind (completes_is_installed h options rule) ?_
  intro found s' h' _
  cases found with
  | true => exact completes_bind (completes_note h' _) fun _ _ h'' _ => completes_pure h'' _
  | false => exact completes_change h' (fun _ => by simp) .applied

/-- A copy is only deleted once it has been found. -/
theorem completes_remove_copies (h : s.Open) (rule : Rule) (budget removed : Nat) :
    Completes (Setup.removeCopies step rule budget removed) s := by
  induction budget generalizing s removed with
  -- the budget has run out: one more look, which may be remarked upon, and no deletion
  | zero =>
      unfold Setup.removeCopies
      refine completes_ask ?_
      split
      · exact completes_bind (completes_note h _) fun _ _ h' _ => completes_pure h' removed
      · exact completes_pure h removed
  | succ budget ih =>
      unfold Setup.removeCopies
      refine completes_ask ?_
      rw [Rehearsal.answer_rule]
      by_cases hmem : rule ∈ s.rules
      · rw [if_pos (decide_eq_true hmem)]
        -- the copy just found is still there, so its deletion is accepted and the host stays open
        have haccepts : s.Accepts (.delete rule) := by
          refine h.accepts ?_
          intro other hother
          rw [← Change.delete.inj hother]
          exact hmem
        exact completes_make haccepts (ih (h.after (.delete rule)) (removed + 1))
      · rw [if_neg (by simpa using hmem)]
        exact completes_pure h removed

/-! ## The whole procedure -/

/-- The interfaces that a procedure insists on are there. -/
def Procedure.Served (config : NatConfig) (host : Rehearsal) : Procedure → Prop
  | apply options => options.verifyInterfaces →
      ∀ name ∈ [config.tap, config.uplink], host.hasInterface name
  | teardown _ => True

theorem Procedure.completes_act (procedure : Procedure) (h : s.Open)
    (hserved : procedure.Served config s) :
    Completes (procedure.act config .elevated step) s := by
  have hprivilege : Completes (Setup.requirePrivilege .elevated step) s := completes_pure h ()
  cases procedure with
  | apply options =>
      unfold Procedure.act Setup.applyStep
      refine completes_bind hprivilege ?_
      intro _ s' h' hinterfaces
      cases step.rule config with
      | none => exact completes_change h' (fun _ => by simp) .applied
      | some rule =>
          refine completes_bind (completes_interfaces h' ?_) fun _ _ h'' _ =>
            completes_add_rule h'' options rule
          intro name hname
          obtain ⟨hverify, hown⟩ := ApplyOptions.verified hname
          -- the steps before have changed no interface
          have hsame : s'.hasInterface name = s.hasInterface name := by
            unfold Rehearsal.hasInterface
            rw [hinterfaces]
          rw [hsame]
          exact hserved hverify name (Step.interfaces_subset hown)
  | teardown disableForwarding =>
      unfold Procedure.act Setup.teardownStep
      refine completes_bind hprivilege ?_
      intro _ s' h' _
      cases step.rule config with
      | none =>
          dsimp only
          split
          · exact completes_change h' (fun _ => by simp) .applied
          · exact completes_pure h' StepOutcome.skipped
      | some rule =>
          refine completes_bind (completes_remove_copies h' rule Setup.maxRemovals 0) ?_
          intro removed s'' h'' _
          exact completes_pure h'' _

/-- Where all interfaces are taken to be there, none is missing. -/
theorem Procedure.served_of_no_list (procedure : Procedure) {host : Rehearsal}
    (h : host.interfaces = none) : procedure.Served config host := by
  cases procedure with
  | apply options =>
      intro _ name _
      unfold Rehearsal.hasInterface
      rw [h]
  | teardown disableForwarding => trivial

/-- What is there for one step is there for the next one. -/
theorem Procedure.Served.of_interfaces {procedure : Procedure} {s' : Rehearsal}
    (hserved : procedure.Served config s) (h : s'.interfaces = s.interfaces) :
    procedure.Served config s' := by
  cases procedure with
  | apply options =>
      intro hverify
      unfold Rehearsal.hasInterface
      rw [h]
      exact hserved hverify
  | teardown disableForwarding => trivial

theorem completes_perform (procedure : Procedure) (h : s.Open)
    (hserved : procedure.Served config s) (steps : List Step) :
    Completes (Setup.perform (procedure.act config .elevated) steps) s := by
  induction steps generalizing s with
  | nil => exact completes_pure h []
  | cons step steps ih =>
      unfold Setup.perform
      refine completes_bind (procedure.completes_act h hserved) ?_
      intro outcome s' h' hinterfaces
      refine completes_bind (completes_note h' (.stepFinished step outcome)) ?_
      intro _ s'' h'' hinterfaces'
      have hserved' := hserved.of_interfaces (hinterfaces'.trans hinterfaces)
      exact completes_bind (ih h'' hserved') fun report _ h''' _ => completes_pure h''' _

theorem procedure_completes (procedure : Procedure) (hcheck : config.check = .ok ()) (h : s.Open)
    (hserved : procedure.Served config s) : Completes (procedure.setup config .elevated) s := by
  unfold Completes
  rw [procedure.ends_setup hcheck]
  exact completes_perform procedure h hserved procedure.steps

/-- On an open host, a procedure whose interfaces are there takes its whole effect. -/
theorem ends_on_open (hcheck : config.check = .ok ()) (procedure : Procedure) {now : Rehearsal}
    (hopen : now.Open) (hserved : procedure.Served config now) :
    (procedure.setup config .elevated).run.Ends Rehearsal.host now fun v s' _ =>
      (∃ report, v = .ok report) ∧
        s' = now.afterAll (procedure.effects config now procedure.steps) := by
  have hcompletes : Completes (procedure.setup config .elevated) now :=
    procedure_completes procedure hcheck hopen hserved
  have htook : (procedure.setup config .elevated).run.Ends Rehearsal.host now fun v s' _ =>
      Took now (procedure.effects config now procedure.steps) (fun _ => True) v s' :=
    procedure.took_setup mirrors_rehearsal hcheck
  obtain ⟨⟨report, hreport⟩, -⟩ := hcompletes
  unfold Plan.Ends at htook
  rw [hreport] at htook
  exact ⟨⟨report, hreport⟩, htook.2⟩

end GuestNat
