import GuestNat.Proofs.CallLimits
import GuestNat.Proofs.HealthReasons
import GuestNat.Proofs.Words

/-!
# Seeding from a host that may fail

A rehearsal starts on a copy that is made from what a look at a host has found. The host may leave
any of the six questions without an answer. The copy then has the interfaces that it could not look
up and lacks everything else that it could not look at, so that a look at the copy answers what the
look at the host left open, and changes nothing of what that had answered.

* `Status.About`: a status that is about a configuration, as every look finds one;
* `ends_probe_found`: what is found is what the host has replied, question by question;
* `Status.assumed`: the status with an answer assumed where there was none;
* `Status.About.status_of_seed`: this is what a look at the copy finds;
* `seeding_assumes`: all of it for every host.
-/

namespace GuestNat

variable {σ : Type}

/-! ## Looking at any host -/

/-- What a question of a trace came to. -/
def Occurrence.finding? : Occurrence → Option Finding
  | asked question reply => some ⟨question, reply.toOption⟩
  | _ => none

/-- What the questions of a trace came to. -/
def foundIn (trace : List Occurrence) : List Finding := trace.filterMap (·.finding?)

@[simp] theorem found_in_append (t u : List Occurrence) :
    foundIn (t ++ u) = foundIn t ++ foundIn u :=
  List.filterMap_append

theorem found_in_ask (r : Response σ Bool) (question : Question) :
    foundIn (r.trace (.asked question r.reply)) = [⟨question, r.reply.toOption⟩] := by
  have hevents : foundIn (r.events.map .noted) = [] := by
    unfold foundIn
    rw [List.filterMap_eq_nil_iff]
    intro o ho
    obtain ⟨event, -, rfl⟩ := List.mem_map.mp ho
    rfl
  unfold Response.trace
  rw [found_in_append, hevents]
  rfl

/-- All questions of a trace have an answer exactly if something was found out by each. -/
theorem answered_iff (t : List Occurrence) :
    (∀ question e, .asked question (.error e) ∉ t) ↔
      ∀ finding ∈ foundIn t, finding.probe ≠ none := by
  constructor
  · intro hanswered finding hfinding
    obtain ⟨o, ho, hfound⟩ := List.mem_filterMap.mp hfinding
    -- only an answered or unanswered question leaves a finding
    cases o with
    | noted event => cases hfound
    | made change reply => cases hfound
    | asked question reply =>
        cases reply with
        | ok value =>
            cases hfound
            nofun
        | error e => exact absurd ho (hanswered question e)
  · intro hfound question e hmem
    exact hfound ⟨question, none⟩ (List.mem_filterMap.mpr ⟨_, hmem, rfl⟩) rfl

namespace Status

/-- The status is about the interfaces and the rules of the configuration. -/
structure About (config : NatConfig) (status : Status) : Prop where
  interfaces : status.interfaces.map (·.1) = [config.tap, config.uplink]
  rules : status.rules.map (fun found => (found.step, found.rule)) =
    Step.applying.filterMap fun step => (step.rule config).map (step, ·)

end Status

section Looking

variable {host : Host σ} {s : σ} {config : NatConfig}

theorem ends_look_found (subject : String) (question : Question) :
    (Status.look subject question).Ends host s fun v _ t => foundIn t = [⟨question, v⟩] := by
  have hfound := found_in_ask (host.ask question s) question
  unfold Response.trace at hfound
  unfold Plan.Ends Status.look Plan.run
  dsimp only
  cases hreply : (host.ask question s).reply <;>
    simp_all [Plan.run, Run.after, foundIn, Occurrence.finding?, Except.toOption]

theorem ends_look_at_interfaces_found (names : List String) :
    (Status.lookAtInterfaces names).Ends host s fun v _ t =>
      v.map (·.1) = names ∧ foundIn t = v.map Status.interfaceFinding := by
  induction names generalizing s with
  | nil => exact ⟨rfl, rfl⟩
  | cons name names ih =>
      unfold Status.lookAtInterfaces
      rw [Plan.ends_monad_bind]
      refine (ends_look_found name (.interface name)).mono ?_
      intro probe s' t hprobe
      rw [Plan.ends_monad_bind]
      refine ih.mono ?_
      rintro others s'' t' ⟨hnames, hothers⟩
      refine Plan.ends_pure.mpr ⟨congrArg (name :: ·) hnames, ?_⟩
      rw [List.append_nil, found_in_append, hprobe, hothers]
      rfl

theorem ends_look_at_rules_found (steps : List Step) :
    (Status.lookAtRules config steps).Ends host s fun v _ t =>
      v.map (fun found => (found.step, found.rule)) =
          steps.filterMap (fun step => (step.rule config).map (step, ·)) ∧
        foundIn t = v.map Status.ruleFinding := by
  induction steps generalizing s with
  | nil => exact ⟨rfl, rfl⟩
  | cons step steps ih =>
      unfold Status.lookAtRules
      -- a step without a rule is neither looked at nor listed
      cases hrule : step.rule config with
      | none =>
          rw [List.filterMap_cons_none (by rw [hrule]; rfl)]
          exact ih
      | some rule =>
          rw [List.filterMap_cons_some (by rw [hrule]; rfl), Plan.ends_monad_bind]
          refine (ends_look_found rule.text (.rule rule)).mono ?_
          intro probe s' t hprobe
          rw [Plan.ends_monad_bind]
          refine ih.mono ?_
          rintro others s'' t' ⟨hrules, hothers⟩
          refine Plan.ends_pure.mpr ⟨congrArg ((step, rule) :: ·) hrules, ?_⟩
          rw [List.append_nil, found_in_append, hprobe, hothers]
          rfl

/-- A look finds what the host replies, and that is about the configuration. -/
theorem ends_probe_found (config : NatConfig) :
    (Status.probe config).Ends host s fun v _ t => v.About config ∧ v.findings = foundIn t := by
  unfold Status.probe
  rw [Plan.ends_monad_bind]
  -- forwarding, then the interfaces, then the rules: the order of the findings
  refine (ends_look_found "ip_forward" .forwarding).mono ?_
  intro forwarding s' t hforwarding
  rw [Plan.ends_monad_bind]
  refine (ends_look_at_interfaces_found [config.tap, config.uplink]).mono ?_
  rintro interfaces s'' t' ⟨hnames, hinterfaces⟩
  rw [Plan.ends_monad_bind]
  refine (ends_look_at_rules_found Step.applying).mono ?_
  rintro rules s''' t'' ⟨hsteps, hrules⟩
  refine Plan.ends_pure.mpr ⟨⟨hnames, hsteps⟩, ?_⟩
  rw [List.append_nil, found_in_append, found_in_append, hforwarding, hinterfaces, hrules]
  rfl

end Looking

/-! ## What is assumed -/

/-- Of entries with different keys, those that are kept are told by their keys. -/
theorem mem_map_filter_iff {α β : Type} {f : α → β} {keep : α → Bool} {xs : List α} {x : α}
    (hnodup : (xs.map f).Nodup) (hx : x ∈ xs) : f x ∈ (xs.filter keep).map f ↔ keep x := by
  constructor
  · intro hmem
    obtain ⟨y, hy, heq⟩ := List.mem_map.mp hmem
    obtain ⟨hy, hkeep⟩ := List.mem_filter.mp hy
    rwa [← List.inj_on_of_nodup_map hnodup hy hx heq]
  · intro hkeep
    exact List.mem_map_of_mem (List.mem_filter.mpr ⟨hx, hkeep⟩)

/-- The interfaces of a proper configuration differ. -/
theorem NatConfig.nodup_names {config : NatConfig} (h : config.check = .ok ()) :
    [config.tap, config.uplink].Nodup := by
  have hnames := config.check_names h
  have htap : InterfaceName.check config.tap = .ok () := hnames _ (by simp)
  have huplink : InterfaceName.check config.uplink = .ok () := hnames _ (by simp)
  have hne : config.tap ≠ config.uplink := by
    intro heq
    unfold NatConfig.check at h
    rw [htap, huplink, if_pos heq] at h
    cases h
  simpa using hne

namespace Status

variable {status : Status} {config : NatConfig}

/-- The status with an answer assumed where there was none: an interface is there unless it was
found missing, all else is there only if it was found. -/
def assumed (status : Status) : Status where
  forwarding := some (status.forwarding = some true)
  interfaces := status.interfaces.map fun found => (found.1, some (found.2 ≠ some false))
  rules := status.rules.map fun found => { found with present := some (found.present = some true) }

/-- The rules that a status is about are those of the configuration. -/
theorem About.map_rules (h : status.About config) :
    status.rules.map (·.rule) = config.rules := by
  have hrules := congrArg (List.map Prod.snd) h.rules
  rw [List.map_map] at hrules
  exact hrules

/-- A look at the copy finds what is assumed. -/
theorem About.status_of_seed (h : status.About config) (hcheck : config.check = .ok ()) :
    (Rehearsal.ofStatus status).status config = status.assumed := by
  have hnames : (status.interfaces.map (·.1)).Nodup := by
    rw [h.interfaces]
    exact NatConfig.nodup_names hcheck
  have hrules : (status.rules.map (·.rule)).Nodup := by
    rw [h.map_rules]
    exact config.nodup_rules
  unfold Rehearsal.status assumed
  rw [Status.mk.injEq]
  refine ⟨rfl, ?_, ?_⟩
  · -- the look asks for the two interfaces, which differ, so each answer is its own finding
    rw [← h.interfaces, List.map_map]
    refine List.map_congr_left ?_
    intro found hfound
    have hthere : (Rehearsal.ofStatus status).hasInterface found.1 =
        decide (found.2 ≠ some false) := by
      unfold Rehearsal.hasInterface Rehearsal.ofStatus
      dsimp only
      rw [List.contains_eq_mem, decide_eq_decide, mem_map_filter_iff hnames hfound,
        decide_eq_true_iff]
    exact congrArg (fun there => (found.1, some there)) hthere
  · -- the look asks for the rule of each step, and these are the rules of the status
    have hsteps : (Step.applying.filterMap fun step => (step.rule config).map fun rule =>
        (⟨step, rule, some ((Rehearsal.ofStatus status).answer (.rule rule))⟩ : RuleStatus)) =
        (Step.applying.filterMap fun step => (step.rule config).map (step, ·)).map
          fun entry => ⟨entry.1, entry.2,
            some ((Rehearsal.ofStatus status).answer (.rule entry.2))⟩ := rfl
    rw [hsteps, ← h.rules, List.map_map]
    refine List.map_congr_left ?_
    intro found hfound
    have hthere : (Rehearsal.ofStatus status).answer (.rule found.rule) =
        decide (found.present = some true) := by
      rw [Rehearsal.answer_rule, decide_eq_decide]
      unfold Rehearsal.ofStatus
      rw [mem_map_filter_iff hrules hfound, decide_eq_true_iff]
    exact congrArg (fun there => (⟨found.step, found.rule, some there⟩ : RuleStatus)) hthere

/-- The copy does not change with the assumptions that it is made by. -/
theorem of_status_assumed : Rehearsal.ofStatus status.assumed = .ofStatus status := by
  unfold Rehearsal.ofStatus assumed
  simp [List.filter_map, Function.comp_def]

/-- Entries stay as they are exactly if each of them does. -/
theorem map_eq_self_iff {α : Type} {f : α → α} {xs : List α} :
    xs.map f = xs ↔ ∀ x ∈ xs, f x = x := by
  have hself : xs.map f = xs ↔ xs.map f = xs.map id := by rw [List.map_id]
  exact hself.trans List.map_inj_left

/-- Nothing was assumed exactly if all questions were answered. -/
theorem assumed_eq_iff :
    status.assumed = status ↔ ∀ finding ∈ status.findings, finding.probe ≠ none := by
  obtain ⟨forwarding, interfaces, rules⟩ := status
  unfold assumed findings
  simp only [Status.mk.injEq, map_eq_self_iff, List.forall_mem_cons, List.forall_mem_append,
    List.forall_mem_map]
  refine and_congr ?_ (and_congr ?_ ?_)
  · rcases forwarding with _ | _ | _ <;> simp
  · refine forall₂_congr ?_
    rintro ⟨name, _ | _ | _⟩ - <;> simp [interfaceFinding]
  · refine forall₂_congr ?_
    rintro ⟨step, rule, _ | _ | _⟩ - <;> simp [ruleFinding]

/-- What is assumed is known. -/
theorem assumed_assumed : status.assumed.assumed = status.assumed := by
  unfold assumed
  simp

/-- What is complete is complete without assumptions. -/
theorem Complete.assumed_eq (h : status.Complete) : status.assumed = status := by
  rw [assumed_eq_iff]
  unfold findings
  simp only [List.forall_mem_cons, List.forall_mem_append, List.forall_mem_map]
  refine ⟨by simp [h.forwarding], ?_, ?_⟩
  · intro found hfound
    simp [interfaceFinding, h.interfaces found hfound]
  · intro found hfound
    simp [ruleFinding, h.rules found hfound]

end Status

/-! ## The law -/

/-- What the copy seeded from a look is like, and what another look, at the copy, finds. -/
structure SeedAssumes (config : NatConfig) (look : Run σ Status) (seed : Rehearsal)
    (again : Run Rehearsal Status) : Prop where
  /-- The look has found what the host has replied. -/
  about : look.value.About config
  found : look.value.findings = foundIn look.trace
  changes : seed.changes = []
  /-- Each rule of the configuration is there at most once, in order, and no other rule is. -/
  sublist : seed.rules.Sublist config.rules
  nodup : seed.rules.Nodup
  rules : ∀ rule, rule ∈ seed.rules ↔ ⟨.rule rule, some true⟩ ∈ look.value.findings
  /-- All questions to the copy are answered, with what was assumed, and it stays as it is. -/
  answered : ∀ question e, .asked question (.error e) ∉ again.trace
  value : again.value = look.value.assumed
  state : again.state = seed
  seeded : Rehearsal.ofStatus again.value = seed
  /-- It is found as the host was exactly if the host has answered all questions. -/
  same_iff : again.value = look.value ↔ ∀ question e, .asked question (.error e) ∉ look.trace
  configured : look.value.health = .configured → again.value.health = .configured

/-- **Seeding assumes what could not be found out, and nothing else.** For every host, whatever it
replies to the six questions of a look and however often it fails: a look at the copy that is seeded
has all answers, and finds of each thing what was found, or what is assumed of it. -/
theorem seeding_assumes {config : NatConfig} (hcheck : config.check = .ok ()) (host : Host σ)
    (s : σ) :
    let look := (Status.probe config).run host s
    let seed := Rehearsal.ofStatus look.value
    SeedAssumes config look seed ((Status.probe config).run Rehearsal.host seed) := by
  intro look seed
  obtain ⟨habout, hfound⟩ : look.value.About config ∧ look.value.findings = foundIn look.trace :=
    ends_probe_found config
  obtain ⟨hagain, hstate⟩ := ends_probe config seed
  rw [habout.status_of_seed hcheck] at hagain
  have hrules : seed.rules.Sublist config.rules := by
    rw [← habout.map_rules]
    exact List.filter_sublist.map _
  constructor
  case about => exact habout
  case found => exact hfound
  case changes => rfl
  case sublist => exact hrules
  case nodup => exact config.nodup_rules.sublist hrules
  case rules =>
    intro rule
    simp [seed, Rehearsal.ofStatus, Status.findings, Status.interfaceFinding, Status.ruleFinding,
      and_comm, and_assoc]
  case answered =>
    obtain ⟨-, hfound'⟩ : _ ∧ ((Status.probe config).run Rehearsal.host seed).value.findings =
      foundIn ((Status.probe config).run Rehearsal.host seed).trace := ends_probe_found config
    rw [answered_iff, ← hfound', hagain, ← Status.assumed_eq_iff, Status.assumed_assumed]
  case value => exact hagain
  case state => exact hstate
  case seeded => rw [hagain, Status.of_status_assumed]
  case same_iff => rw [hagain, Status.assumed_eq_iff, hfound, answered_iff]
  case configured =>
    intro hhealth
    rw [hagain, (Status.health_eq_configured_iff.mp hhealth).assumed_eq]
    exact hhealth

/-- Of a host with a foreign rule and two copies of another one, one rule and the uplink could not
be looked up. -/
theorem seeding_assumes_behind_faults :
    let config : NatConfig := {}
    let masquerade : Rule := .masquerade config.subnet config.uplink
    let behind : Rehearsal :=
      { forwarding := true
        rules := [masquerade, ⟨.filter, "INPUT", ["-j", "DROP"]⟩, .acceptTo "tap0", masquerade]
        interfaces := some ["tap0"]
        changes := [.setForwarding true] }
    let faults : List Fault :=
      [⟨.askRule, some 1, .permissionDenied⟩, ⟨.askInterface, some 2, .io "gone"⟩]
    let look := (Status.probe config).run (Faulty.host faults Rehearsal.host) ⟨behind, []⟩
    let seed : Rehearsal :=
      { forwarding := true, rules := [masquerade], interfaces := some ["tap0", "enp1s0"] }
    config.check = .ok () ∧ Rehearsal.ofStatus look.value = seed ∧
      look.value.interfaces = [("tap0", some true), ("enp1s0", none)] ∧
      SeedAssumes config look seed ((Status.probe config).run Rehearsal.host seed) ∧
      ((Status.probe config).run Rehearsal.host seed).value ≠ look.value := by
  intro config masquerade behind faults look seed
  have hcheck : config.check = .ok () := by decide +kernel
  have hseed : Rehearsal.ofStatus look.value = seed := by decide +kernel
  have hassumes := seeding_assumes hcheck (Faulty.host faults Rehearsal.host) ⟨behind, []⟩
  dsimp only at hassumes
  rw [hseed] at hassumes
  exact ⟨hcheck, hseed, by decide +kernel, hassumes, by decide +kernel⟩

end GuestNat
