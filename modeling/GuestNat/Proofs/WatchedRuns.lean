import GuestNat.Proofs.CommandOutcomes
import GuestNat.Proofs.RemovalCalls
import Mathlib.Data.List.Forall2

/-!
# Runs of the firewall command

The host behind a system makes its calls about rules by running the firewall command. Here a system
is watched: it keeps a record of what was run and how it ended. From the calls that are made it then
follows what must have been run, and how that must have ended.

* `System.watched`: the system with its record;
* `CameOf`: the reply to a call is what the end of a run is taken for;
* `WatchedTruly`, `watched_truly`: watching changes nothing, and the calls about rules came of the
  recorded runs, one by one;
* `SearchedBefore`, `ends_searched_apply`: in an idempotent setup, each addition comes directly
  behind a look that has found nothing;
* `appends_behind_search`, `not_present_behind_search`: what must have been run before a rule is
  appended, and before it is said to be not there;
* `firewall_is_searched_first`: both, with what the ends of runs are taken for.
-/

namespace GuestNat

variable {α σ : Type}

/-- One run of a program, and how it ended. -/
structure ProgramRun where
  program : String
  args : List String
  outcome : Outcome
deriving DecidableEq

/-- The system with a record of the programs that it has run, the first one first. -/
def System.watched (system : System σ) : System (σ × List ProgramRun) where
  read path s := system.read path s.1
  contains path s := system.contains path s.1
  openFile path mode s :=
    let (result, state) := system.openFile path mode s.1
    (result, state, s.2)
  write handle octets s :=
    let (result, state) := system.write handle octets s.1
    (result, state, s.2)
  start program args s :=
    let (outcome, state) := system.start program args s.1
    (outcome, state, s.2 ++ [⟨program, args, outcome⟩])

/-- A run of the firewall command for a rule. -/
def Placement.run (place : Placement) (rule : Rule) (action : Action) (outcome : Outcome) :
    ProgramRun :=
  ⟨place.firewall, FirewallCommand.arguments rule action, outcome⟩

/-- The reply to a call about a rule is what the end of a run is taken for. -/
inductive CameOf (place : Placement) : Occurrence → ProgramRun → Prop
  | asked {rule : Rule} {outcome : Outcome} :
      CameOf place (.asked (.rule rule) (FirewallCommand.checkAnswer place.firewall
        (FirewallCommand.describe place.firewall rule .check) outcome))
        (place.run rule .check outcome)
  | appended {rule : Rule} {outcome : Outcome} :
      CameOf place (.made (.append rule) (FirewallCommand.changeAnswer place.firewall
        (FirewallCommand.describe place.firewall rule .append) outcome))
        (place.run rule .append outcome)
  | deleted {rule : Rule} {outcome : Outcome} :
      CameOf place (.made (.delete rule) (FirewallCommand.changeAnswer place.firewall
        (FirewallCommand.describe place.firewall rule .delete) outcome))
        (place.run rule .delete outcome)

/-- The calls of a trace that are about rules. -/
def ruleCallsOf (trace : List Occurrence) : List Occurrence := trace.filter (·.rule?.isSome)

section RuleCalls

@[simp] theorem rule_calls_of_append (t u : List Occurrence) :
    ruleCallsOf (t ++ u) = ruleCallsOf t ++ ruleCallsOf u :=
  List.filter_append t u

theorem rule_calls_of_call {ρ : Type} (r : Response σ ρ) (call : Occurrence) :
    ruleCallsOf (r.trace call) = ruleCallsOf [call] := by
  have hevents : ruleCallsOf (r.events.map .noted) = [] := by
    unfold ruleCallsOf
    rw [List.filter_eq_nil_iff]
    intro o ho
    obtain ⟨event, -, rfl⟩ := List.mem_map.mp ho
    exact Bool.false_ne_true
  unfold Response.trace
  rw [rule_calls_of_append, hevents, List.nil_append]

end RuleCalls

/-! ## Watching -/

/-- The runs of a call come before those of the calls behind it. -/
theorem came_of_call {ρ : Type} {place : Placement} (r : Response σ ρ) {call : Occurrence}
    {t : List Occurrence} {first others : List ProgramRun}
    (hfirst : List.Forall₂ (CameOf place) (ruleCallsOf [call]) first)
    (hothers : List.Forall₂ (CameOf place) (ruleCallsOf t) others) :
    List.Forall₂ (CameOf place) (ruleCallsOf (r.trace call ++ t)) (first ++ others) := by
  rw [rule_calls_of_append, rule_calls_of_call]
  exact List.rel_append hfirst hothers

section Watching

variable (system : System σ) (place : Placement)

/-- A question is answered as without the watch, and a run is recorded if it is about a rule. -/
theorem watched_ask (question : Question) (s : σ) (runs : List ProgramRun) :
    let plain := (system.host place).ask question s
    let watched := (system.watched.host place).ask question (s, runs)
    watched.reply = plain.reply ∧ watched.events = plain.events ∧
      ∃ more, watched.state = (plain.state, runs ++ more) ∧
        List.Forall₂ (CameOf place) (ruleCallsOf [.asked question plain.reply]) more := by
  cases question with
  | forwarding => exact ⟨rfl, rfl, [], by simp [System.host], .nil⟩
  | interface name => exact ⟨rfl, rfl, [], by simp [System.host], .nil⟩
  | rule rule => exact ⟨rfl, rfl, _, rfl, .cons .asked .nil⟩

/-- No program is run to overwrite the knob. -/
theorem watched_overwrite (on : Bool) (s : σ) (runs : List ProgramRun) :
    system.watched.overwriteKnob place on (s, runs) =
      ((system.overwriteKnob place on s).1, (system.overwriteKnob place on s).2, runs) := by
  rcases hopen : system.openFile place.knob Knob.openMode s with ⟨result, opened⟩
  have hwatched :
      system.watched.openFile place.knob Knob.openMode (s, runs) = (result, opened, runs) :=
    congrArg (fun r => (r.1, r.2, runs)) hopen
  cases result with
  | error cause =>
      rw [system.overwrite_of_unopened place hopen,
        system.watched.overwrite_of_unopened place hwatched]
  | ok handle =>
      rw [system.overwrite_of_opened place hopen rfl,
        system.watched.overwrite_of_opened place hwatched rfl]

theorem watched_make (change : Change) (s : σ) (runs : List ProgramRun) :
    let plain := (system.host place).make change s
    let watched := (system.watched.host place).make change (s, runs)
    watched.reply = plain.reply ∧ watched.events = plain.events ∧
      ∃ more, watched.state = (plain.state, runs ++ more) ∧
        List.Forall₂ (CameOf place) (ruleCallsOf [.made change plain.reply]) more := by
  cases change with
  | setForwarding on =>
      -- no program is run, and the knob is what it would be
      have hknob : let plain := system.writeKnob place on s
          let watched := system.watched.writeKnob place on (s, runs)
          watched.reply = plain.reply ∧ watched.events = plain.events ∧
            watched.state = (plain.state, runs) := by
        have hfound : system.watched.contains place.knob (s, runs) =
            system.contains place.knob s := rfl
        unfold System.writeKnob
        rw [hfound, watched_overwrite]
        cases Knob.writable place.knob (system.contains place.knob s) <;> exact ⟨rfl, rfl, rfl⟩
      obtain ⟨hreply, hevents, hstate⟩ := hknob
      exact ⟨hreply, hevents, [], hstate.trans (by rw [List.append_nil]; rfl), .nil⟩
  | append rule => exact ⟨rfl, rfl, _, rfl, .cons .appended .nil⟩
  | delete rule => exact ⟨rfl, rfl, _, rfl, .cons .deleted .nil⟩

/-- A plan comes to the same on a watched system, and the calls about rules come of the recorded
runs. The induction is on the plan. -/
theorem watched_run (plan : Plan α) (s : σ) (runs : List ProgramRun) :
    let plain := plan.run (system.host place) s
    let watched := plan.run (system.watched.host place) (s, runs)
    watched.value = plain.value ∧ watched.trace = plain.trace ∧
      ∃ more, watched.state = (plain.state, runs ++ more) ∧
        List.Forall₂ (CameOf place) (ruleCallsOf plain.trace) more := by
  -- each call leaves its own runs behind those that are logged already
  induction plan generalizing s runs with
  | done value => exact ⟨rfl, rfl, [], by rw [List.append_nil]; rfl, .nil⟩
  | note event next ih =>
      obtain ⟨hvalue, htrace, more, hstate, hcame⟩ := ih s runs
      refine ⟨hvalue, ?_, more, hstate, hcame⟩
      exact congrArg (.noted event :: ·) htrace
  | ask question next ih =>
      obtain ⟨hreply, hevents, first, hstate, hfirst⟩ := watched_ask system place question s runs
      let r := (system.host place).ask question s
      obtain ⟨hvalue, htrace, others, hfinal, hothers⟩ := ih r.reply r.state (runs ++ first)
      unfold Plan.run Run.after
      dsimp only
      rw [hreply, hevents, hstate]
      refine ⟨hvalue, congrArg _ htrace, first ++ others, ?_, ?_⟩
      · rw [← List.append_assoc]
        exact hfinal
      · exact came_of_call r hfirst hothers
  | make change next ih =>
      obtain ⟨hreply, hevents, first, hstate, hfirst⟩ := watched_make system place change s runs
      let r := (system.host place).make change s
      obtain ⟨hvalue, htrace, others, hfinal, hothers⟩ := ih r.reply r.state (runs ++ first)
      unfold Plan.run Run.after
      dsimp only
      rw [hreply, hevents, hstate]
      refine ⟨hvalue, congrArg _ htrace, first ++ others, ?_, ?_⟩
      · rw [← List.append_assoc]
        exact hfinal
      · exact came_of_call r hfirst hothers

end Watching

/-! ## Looking before adding -/

/-- Each addition comes directly behind a look for the same rule that has found nothing. -/
def SearchedBefore (calls : List Occurrence) : Prop :=
  ∀ before rule reply after, calls = before ++ .made (.append rule) reply :: after →
    ∃ earlier, before = earlier ++ [.asked (.rule rule) (.ok false)]

section Searching

variable {host : Host σ} {s : σ} {config : NatConfig} {options : ApplyOptions} {step : Step}
  {rule : Rule}

theorem searched_before_nil : SearchedBefore [] := by
  intro before rule reply after h
  cases (List.append_eq_nil_iff.mp h.symm).2

theorem SearchedBefore.append {calls others : List Occurrence} (h : SearchedBefore calls)
    (hothers : SearchedBefore others) : SearchedBefore (calls ++ others) := by
  intro before rule reply after hsplit
  rcases List.append_eq_append_iff.mp hsplit with ⟨between, rfl, hrest⟩ | ⟨between, rfl, hrest⟩
  · obtain ⟨earlier, rfl⟩ := hothers between rule reply after hrest
    exact ⟨calls ++ earlier, (List.append_assoc _ _ _).symm⟩
  · cases between with
    | nil =>
        obtain ⟨earlier, hearlier⟩ := hothers [] rule reply after hrest.symm
        cases (List.append_eq_nil_iff.mp hearlier.symm).2
    | cons o between =>
        obtain ⟨rfl, rfl⟩ := List.cons.inj hrest
        exact h before rule reply between rfl

/-- A look is no addition. -/
theorem searched_before_look (question : Question) (reply : Reply Bool) :
    SearchedBefore [.asked question reply] := by
  intro before rule _ after h
  cases before with
  | nil => cases h
  | cons o before => cases (List.append_eq_nil_iff.mp (List.cons.inj h).2.symm).2

/-- An addition may follow a look that has found nothing. -/
theorem searched_before_addition (rule : Rule) (reply : Reply Unit) :
    SearchedBefore [.asked (.rule rule) (.ok false), .made (.append rule) reply] := by
  intro before other _ after h
  -- the addition is the second call of the two, and the look for its rule is the first
  cases before with
  | nil => cases h
  | cons o before =>
      obtain ⟨rfl, hrest⟩ := List.cons.inj h
      cases before with
      | nil =>
          obtain ⟨hsame, -⟩ := List.cons.inj hrest
          injection hsame with hchange
          injection hchange with hrule
          exact ⟨[], by rw [hrule]; rfl⟩
      | cons o' before => cases (List.append_eq_nil_iff.mp (List.cons.inj hrest).2.symm).2

/-- Two parts that search before they add do so together. -/
theorem ends_searched_bind {β : Type} {x : Setup α} {f : α → Setup β}
    (hx : x.run.Ends host s fun _ _ t => SearchedBefore (ruleCallsOf t))
    (hf : ∀ a s', (f a).run.Ends host s' fun _ _ t => SearchedBefore (ruleCallsOf t)) :
    (x >>= f).run.Ends host s fun _ _ t => SearchedBefore (ruleCallsOf t) := by
  refine Setup.ends_of_parts hx ?_ fun _ _ _ h => h
  intro a s' t ht
  refine (hf a s').mono ?_
  intro v s'' u hu
  rw [rule_calls_of_append]
  exact ht.append hu

/-- A part without calls about rules adds nothing. -/
theorem ends_searched_of_within {plan : Plan α}
    (h : plan.Within (·.rule? = none) (·.rule? = none)) (host : Host σ) (s : σ) :
    plan.Ends host s fun _ _ t => SearchedBefore (ruleCallsOf t) := by
  -- such a plan makes no call about any rule
  have hwithin : plan.Within (·.rule? = none) (Change.Among []) := by
    refine h.mono (fun _ h => h) ?_
    intro change hchange rule hrule
    rw [hchange] at hrule
    cases hrule
  have hrules : ∀ rule ∈ rulesOf (plan.run host s).trace, rule ∈ ([] : List Rule) :=
    hwithin.rules nofun host s
  have hnone : ruleCallsOf (plan.run host s).trace = [] := by
    refine List.filter_eq_nil_iff.mpr ?_
    intro o ho hsome
    obtain ⟨rule, hrule⟩ := Option.isSome_iff_exists.mp hsome
    cases hrules rule (List.mem_filterMap.mpr ⟨o, ho, hrule⟩)
  change SearchedBefore (ruleCallsOf (plan.run host s).trace)
  rw [hnone]
  exact searched_before_nil

/-- With the option, a rule is looked for before it is added. -/
theorem ends_searched_add_rule (hidempotent : options.idempotent = true) :
    (Setup.addRule options step rule).run.Ends host s fun _ _ t =>
      SearchedBefore (ruleCallsOf t) := by
  unfold Setup.addRule Setup.isInstalled
  rw [if_pos hidempotent, Plan.ends_except_bind, Setup.ends_ask]
  generalize host.ask (.rule rule) s = look
  cases hreply : look.reply with
  | error cause =>
      change SearchedBefore (ruleCallsOf (look.trace _))
      rw [rule_calls_of_call]
      exact searched_before_look _ _
  | ok found =>
      cases found with
      | true =>
          -- nothing is added, and what is reported is no call
          change SearchedBefore (ruleCallsOf (look.trace _ ++ [.noted (.alreadyInstalled rule)]))
          rw [rule_calls_of_append, rule_calls_of_call]
          exact searched_before_look _ _
      | false =>
          refine Plan.ends_except_bind.mpr (Setup.ends_make.mpr ?_)
          generalize host.make (.append rule) look.state = addition
          have hboth : ∀ reply, SearchedBefore (ruleCallsOf
              (look.trace (.asked (.rule rule) (.ok false)) ++
                addition.trace (.made (.append rule) reply))) := by
            intro reply
            rw [rule_calls_of_append, rule_calls_of_call, rule_calls_of_call]
            exact searched_before_addition rule reply
          cases hadded : addition.reply with
          | error cause => exact hboth _
          | ok _ =>
              refine Setup.ends_pure.mpr ?_
              rw [List.append_nil]
              exact hboth _

theorem ends_searched_apply_step (hidempotent : options.idempotent = true)
    (privilege : Privilege) :
    (Setup.applyStep config options privilege step).run.Ends host s fun _ _ t =>
      SearchedBefore (ruleCallsOf t) := by
  unfold Setup.applyStep
  refine ends_searched_bind (ends_searched_of_within (within_privilege privilege) host s) ?_
  intro _ s'
  -- only `addRule` touches rules; what stands around it asks and changes other things
  cases step.rule config with
  | none =>
      refine ends_searched_of_within ?_ host s'
      exact Plan.within_except_bind (within_make rfl) fun _ => trivial
  | some rule =>
      refine ends_searched_bind ?_ fun _ _ => ends_searched_add_rule hidempotent
      exact ends_searched_of_within (within_interfaces fun _ _ => rfl) host s'

/-- Steps in turn search before they add, if each of them does. -/
theorem ends_searched_perform {act : Step → Setup StepOutcome} {steps : List Step}
    (hact : ∀ step s, (act step).run.Ends host s fun _ _ t => SearchedBefore (ruleCallsOf t)) :
    (Setup.perform act steps).run.Ends host s fun _ _ t => SearchedBefore (ruleCallsOf t) := by
  induction steps generalizing s with
  | nil => exact searched_before_nil
  | cons step steps ih =>
      unfold Setup.perform
      refine ends_searched_bind (hact step s) ?_
      intro outcome s'
      refine ends_searched_bind (ends_searched_of_within (within_note _) host s') ?_
      intro _ s''
      exact ends_searched_bind ih fun _ _ => searched_before_nil

/-- An idempotent setup searches before it adds, with any configuration and any privilege. -/
theorem ends_searched_apply (host : Host σ) (s : σ) (config : NatConfig)
    (hidempotent : options.idempotent = true) (privilege : Privilege) :
    (Setup.apply config options privilege).run.Ends host s fun _ _ t =>
      SearchedBefore (ruleCallsOf t) := by
  have hcheck : (Setup.checkConfig config).run.Within (·.rule? = none) (·.rule? = none) := trivial
  unfold Setup.apply
  refine ends_searched_bind (ends_searched_of_within hcheck host s) ?_
  intro _ s'
  refine ends_searched_bind (ends_searched_of_within (within_note _) host s') ?_
  exact fun _ s'' => ends_searched_perform fun _ _ => ends_searched_apply_step hidempotent privilege

end Searching

/-! ## What must have been run -/

/-- What is run for one action on one rule is run for no other one. -/
theorem FirewallCommand.arguments_inj {rule other : Rule} {action action' : Action}
    (h : arguments rule action = arguments other action') : rule = other ∧ action = action' := by
  obtain ⟨table, chain, args⟩ := rule
  obtain ⟨table', chain', args'⟩ := other
  simp only [arguments, Rule.commandArgs, List.cons.injEq, true_and] at h
  obtain ⟨htable, hflag, rfl, rfl⟩ := h
  -- the names of the tables are different words, and so are the flags
  have htables : ∀ t t' : Table, t.name = t'.name → t = t' := by
    intro t t' hname
    cases t <;> cases t' <;> first | rfl | exact absurd hname (by decide)
  have hactions : ∀ a a' : Action, a.flag = a'.flag → a = a' := by
    intro a a' hname
    cases a <;> cases a' <;> first | rfl | exact absurd hname (by decide)
  rw [htables _ _ htable, hactions _ _ hflag]
  exact ⟨rfl, rfl⟩

/-- The run has searched for the rule and has not found it. -/
def ProgramRun.SearchedFor (run : ProgramRun) (place : Placement) (rule : Rule) : Prop :=
  ∃ outcome, run = place.run rule .check outcome ∧ outcome.SearchedInVain

section CameOf

variable {place : Placement} {rule : Rule} {outcome : Outcome} {call : Occurrence}
  {run : ProgramRun} {calls : List Occurrence} {runs before after : List ProgramRun}

/-- Different runs differ in the rule, the action or the end. -/
theorem Placement.run_inj {other : Rule} {action action' : Action} {outcome' : Outcome}
    (h : place.run rule action outcome = place.run other action' outcome') :
    rule = other ∧ action = action' := by
  injection h with _ hargs _
  exact FirewallCommand.arguments_inj hargs

/-- A call comes of an addition only if it is one. -/
theorem CameOf.of_append (h : CameOf place call (place.run rule .append outcome)) :
    ∃ reply, call = .made (.append rule) reply := by
  generalize hrun : place.run rule .append outcome = run at h
  cases h with
  | asked => cases (Placement.run_inj hrun).2
  | appended =>
      obtain ⟨rfl, -⟩ := Placement.run_inj hrun
      exact ⟨_, rfl⟩
  | deleted => cases (Placement.run_inj hrun).2

/-- And of a deletion only if it is one. -/
theorem CameOf.of_delete (h : CameOf place call (place.run rule .delete outcome)) :
    ∃ reply, call = .made (.delete rule) reply := by
  generalize hrun : place.run rule .delete outcome = run at h
  cases h with
  | asked => cases (Placement.run_inj hrun).2
  | appended => cases (Placement.run_inj hrun).2
  | deleted =>
      obtain ⟨rfl, -⟩ := Placement.run_inj hrun
      exact ⟨_, rfl⟩

/-- A look that has found nothing comes of a run that has searched for the rule. -/
theorem CameOf.searched (h : CameOf place (.asked (.rule rule) (.ok false)) run) :
    run.SearchedFor place rule := by
  generalize hcall : Occurrence.asked (.rule rule) (.ok false) = call at h
  cases h with
  | @asked _ outcome =>
      injection hcall with hquestion hreply
      injection hquestion with hrule
      subst hrule
      exact ⟨outcome, rfl, FirewallCommand.checkAnswer_eq_false_iff.mp hreply.symm⟩
  | appended => cases hcall
  | deleted => cases hcall

/-- Where the runs are parted, so are the calls that come of them. -/
theorem came_of_split (h : List.Forall₂ (CameOf place) calls (before ++ run :: after)) :
    ∃ first call others, calls = first ++ call :: others ∧
      List.Forall₂ (CameOf place) first before ∧ CameOf place call run := by
  have hfirst := List.forall₂_take_append calls before _ h
  have hrest := List.forall₂_drop_append calls before _ h
  obtain ⟨call, others, hcall, -, hothers⟩ := List.forall₂_cons_right_iff.mp hrest
  refine ⟨calls.take before.length, call, others, ?_, hfirst, hcall⟩
  rw [← hothers, List.take_append_drop]

/-- Where the calls are parted, so are the runs that they came of. -/
theorem came_of_append {first others : List Occurrence}
    (h : List.Forall₂ (CameOf place) (first ++ others) runs) :
    ∃ sofar later, runs = sofar ++ later ∧ List.Forall₂ (CameOf place) first sofar ∧
      List.Forall₂ (CameOf place) others later := by
  have hfirst := List.forall₂_take_append runs first others h.flip
  have hothers := List.forall₂_drop_append runs first others h.flip
  exact ⟨_, _, (List.take_append_drop first.length runs).symm, hfirst.flip, hothers.flip⟩

/-- Where additions come behind looks that have found nothing, they are run behind runs that have
searched for the rule. -/
theorem SearchedBefore.of_runs (hcalls : SearchedBefore calls)
    (h : List.Forall₂ (CameOf place) calls (before ++ place.run rule .append outcome :: after)) :
    ∃ earlier search, before = earlier ++ [search] ∧ search.SearchedFor place rule := by
  obtain ⟨first, call, others, hsplit, hfirst, hcall⟩ := came_of_split h
  obtain ⟨reply, rfl⟩ := hcall.of_append
  obtain ⟨front, rfl⟩ := hcalls first rule reply others hsplit
  -- the last run before the addition is the one that the look came of
  obtain ⟨earlier, last, rfl, -, hlast⟩ := came_of_append hfirst
  obtain ⟨search, rest, hsearch, hrest, rfl⟩ := List.forall₂_cons_left_iff.mp hlast
  obtain rfl := List.forall₂_nil_left_iff.mp hrest
  exact ⟨earlier, search, rfl, hsearch.searched⟩

/-- A call came of one of the runs, and every run is that of a call. -/
theorem exists_run_of_call (h : List.Forall₂ (CameOf place) calls runs) (hcall : call ∈ calls) :
    ∃ run ∈ runs, CameOf place call run := by
  obtain ⟨first, others, rfl⟩ := List.append_of_mem hcall
  obtain ⟨sofar, later, rfl, -, hlater⟩ := came_of_append h
  obtain ⟨run, rest, hcame, -, rfl⟩ := List.forall₂_cons_left_iff.mp hlater
  exact ⟨run, List.mem_append_right sofar List.mem_cons_self, hcame⟩

theorem exists_call_of_run (h : List.Forall₂ (CameOf place) calls runs) (hrun : run ∈ runs) :
    ∃ call ∈ calls, CameOf place call run := by
  obtain ⟨before, after, rfl⟩ := List.append_of_mem hrun
  obtain ⟨first, call, others, rfl, -, hcame⟩ := came_of_split h
  exact ⟨call, List.mem_append_right first List.mem_cons_self, hcame⟩

end CameOf

/-- What a watched run shows is what happens without the watch, and where the calls about rules came
from. -/
structure WatchedTruly (place : Placement) (plain : Run σ α)
    (watched : Run (σ × List ProgramRun) α) : Prop where
  value : watched.value = plain.value
  trace : watched.trace = plain.trace
  state : watched.state.1 = plain.state
  runs : List.Forall₂ (CameOf place) (ruleCallsOf watched.trace) watched.state.2

/-- Watching changes nothing, and misses nothing. -/
theorem watched_truly (system : System σ) (place : Placement) (plan : Plan α) (s : σ) :
    WatchedTruly place (plan.run (system.host place) s)
      (plan.run (system.watched.host place) (s, [])) := by
  obtain ⟨hvalue, htrace, more, hstate, hcame⟩ := watched_run system place plan s []
  rw [List.nil_append] at hstate
  constructor
  · exact hvalue
  · exact htrace
  · rw [hstate]
  · rw [hstate, htrace]
    exact hcame

/-- A rule is only appended directly behind a run that has searched for it. -/
def AppendsBehindSearch (place : Placement) (runs : List ProgramRun) : Prop :=
  ∀ before rule outcome after, runs = before ++ place.run rule .append outcome :: after →
    ∃ earlier search, before = earlier ++ [search] ∧ search.SearchedFor place rule

/-- A rule is only reported as not there behind a run that has searched for it, and such a rule is
not deleted at all. -/
def NotPresentBehindSearch (place : Placement) (config : NatConfig) (trace : List Occurrence)
    (runs : List ProgramRun) : Prop :=
  ∀ before after step rule,
    trace = before ++ .noted (.stepFinished step .notPresent) :: after →
    step.rule config = some rule →
      (∃ sofar later, runs = sofar ++ later ∧
        List.Forall₂ (CameOf place) (ruleCallsOf before) sofar ∧
        ∃ search ∈ sofar, search.SearchedFor place rule) ∧
      ∀ outcome, place.run rule .delete outcome ∉ runs

section Searched

variable (system : System σ) (place : Placement) (s : σ) (config : NatConfig)
  (privilege : Privilege)

/-- An idempotent setup appends a rule only behind a search for it. -/
theorem appends_behind_search {options : ApplyOptions} (hidempotent : options.idempotent = true) :
    let run := (Setup.apply config options privilege).run.run (system.watched.host place) (s, [])
    AppendsBehindSearch place run.state.2 := by
  intro run before rule outcome after hruns
  have hsearched : SearchedBefore (ruleCallsOf run.trace) :=
    ends_searched_apply (system.watched.host place) (s, []) config hidempotent privilege
  have hcame : List.Forall₂ (CameOf place) (ruleCallsOf run.trace) run.state.2 :=
    (watched_truly system place _ s).runs
  rw [hruns] at hcame
  exact hsearched.of_runs hcame

/-- A removal says that a rule is not there only behind a search for it. -/
theorem not_present_behind_search (disableForwarding : Bool) :
    let run := (Setup.teardown config disableForwarding privilege).run.run
      (system.watched.host place) (s, [])
    NotPresentBehindSearch place config run.trace run.state.2 := by
  intro run before after step rule htrace hrule
  have htook : AllTookAway config Step.removing run.trace :=
    ends_teardown (system.watched.host place) (s, []) config disableForwarding privilege
  have hcame : List.Forall₂ (CameOf place) (ruleCallsOf run.trace) run.state.2 :=
    (watched_truly system place _ s).runs
  obtain ⟨-, htaken, hafter⟩ := htook before after step .notPresent rule htrace hrule
  have hbefore := htaken.not_present
  constructor
  · -- the look that has found nothing stands before the report, and so does its run
    have hparts : ruleCallsOf run.trace = ruleCallsOf before ++ ruleCallsOf after := by
      rw [htrace, rule_calls_of_append]
      rfl
    rw [hparts] at hcame
    obtain ⟨sofar, later, hruns, hsofar, -⟩ := came_of_append hcame
    refine ⟨sofar, later, hruns, hsofar, ?_⟩
    have hlook : .asked (.rule rule) (.ok false) ∈ callsAbout rule before := by
      rw [hbefore]
      exact List.mem_cons_self
    have hcall : .asked (.rule rule) (.ok false) ∈ ruleCallsOf before :=
      List.mem_filter.mpr ⟨(List.mem_filter.mp hlook).1, rfl⟩
    obtain ⟨search, hmem, hsearch⟩ := exists_run_of_call hsofar hcall
    exact ⟨search, hmem, hsearch.searched⟩
  · -- a deletion would be a call about the rule, and there is no call but the look
    intro outcome hdeletion
    obtain ⟨call, hcall, hdeleted⟩ := exists_call_of_run hcame hdeletion
    obtain ⟨reply, rfl⟩ := hdeleted.of_delete
    have habout : .made (.delete rule) reply ∈ callsAbout rule run.trace :=
      mem_calls_about (List.mem_filter.mp hcall).1 rfl
    have hbehind : callsAbout rule (.noted (.stepFinished step .notPresent) :: after) = [] :=
      hafter
    rw [htrace, calls_about_append, hbefore, hbehind] at habout
    cases List.mem_singleton.mp habout

end Searched

/-- **The firewall is searched first.** What the end of a run is taken for is settled for every
program, every rule and every end; and whatever a system does, an idempotent setup appends a rule,
and a removal reports that a rule is not there, only behind a run that has really searched for the
rule and found nothing. -/
theorem firewall_is_searched_first (system : System σ) (place : Placement) (s : σ)
    (config : NatConfig) (privilege : Privilege) :
    (∀ program rule outcome, Classified program rule outcome) ∧
    (∀ setup : Setup Report, WatchedTruly place (setup.run.run (system.host place) s)
      (setup.run.run (system.watched.host place) (s, []))) ∧
    (∀ verifyInterfaces,
      let run := (Setup.apply config { idempotent := true, verifyInterfaces } privilege).run.run
        (system.watched.host place) (s, [])
      AppendsBehindSearch place run.state.2) ∧
    ∀ disableForwarding,
      let run := (Setup.teardown config disableForwarding privilege).run.run
        (system.watched.host place) (s, [])
      NotPresentBehindSearch place config run.trace run.state.2 := by
  refine ⟨classified, fun setup => watched_truly system place setup.run s, ?_, ?_⟩
  · exact fun verifyInterfaces => appends_behind_search system place s config privilege rfl
  · exact not_present_behind_search system place s config privilege

/-- A system without rules: each addition comes behind a search, and all rules are reported as not
there. -/
theorem firewall_is_searched_first_without_rules :
    let system : System Unit :=
      { read := fun _ _ => .ok (Knob.content false)
        contains := fun _ _ => .ok true
        openFile := fun _ _ _ => (.ok ⟨[]⟩, ())
        write := fun _ _ _ => (.ok (), ())
        start := fun _ args _ =>
          (if "-C" ∈ args then .exited 1 (Text.Utf8.ofAscii noRuleLine) else .exited 0 [], ()) }
    let host := system.watched.host {}
    let applied := (Setup.apply {} { idempotent := true } .elevated).run.run host ((), [])
    let removed := (Setup.teardown {} false .elevated).run.run host ((), [])
    applied.state.2.map (·.args[3]?) =
        [some "-C", some "-A", some "-C", some "-A", some "-C", some "-A"] ∧
      AppendsBehindSearch {} applied.state.2 ∧
      finishedIn removed.trace = [(.removeMasquerade, .notPresent),
        (.removeAcceptFromTap, .notPresent), (.removeAcceptToTap, .notPresent),
        (.disableForwarding, .skipped)] ∧
      NotPresentBehindSearch {} {} removed.trace removed.state.2 := by
  intro system host applied removed
  obtain ⟨-, -, happends, hremoves⟩ := firewall_is_searched_first system {} () {} .elevated
  exact ⟨by decide +kernel, happends true, by decide +kernel, hremoves false⟩

end GuestNat
