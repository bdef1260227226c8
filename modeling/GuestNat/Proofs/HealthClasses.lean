import GuestNat.Proofs.Looking
import Mathlib.Data.List.Forall2

/-!
# What a status says

How the answers of a look decide between the three kinds of health, for any number of interfaces and
rules and any answers, and what becomes of the kind when some of the answers are others.

* `Status.Complete`, `Status.Empty`: all of a setup is there, and nothing of it;
* `Status.FirstLack`: what is named of a setup that is there in part;
* `Status.Revised`: the same look with other answers;
* `Status.rank_le_of_revised`: as long as what was there is there, the kind does not get worse;
* `health_tells`: all of this for every status.
-/

namespace GuestNat

/-! ## The three kinds -/

/-- The kinds in order: from a setup that is not there to one that is there in full. -/
def Health.rank : Health → Nat
  | unconfigured => 0
  | partly _ => 1
  | configured => 2

/-- What a shortcoming is about, in the words of its text. -/
def Shortcoming.subject : Shortcoming → String
  | forwardingUnknown | forwardingOff => "IPv4 forwarding"
  | ruleUnknown rule | ruleMissing rule => rule.text
  | interfaceMissing name => name

/-- The text of a shortcoming names what it is about. -/
theorem Shortcoming.subject_infix (shortcoming : Shortcoming) :
    shortcoming.subject.toList <:+: shortcoming.text.toList := by
  cases shortcoming with
  | forwardingUnknown => exact ⟨"could not read the ".toList, " state".toList, rfl⟩
  | forwardingOff => exact ⟨[], " is disabled".toList, rfl⟩
  | ruleUnknown rule =>
      refine ⟨"rule ".toList, " could not be checked".toList, ?_⟩
      simp [subject, text]
  | ruleMissing rule =>
      refine ⟨"rule ".toList, " is missing".toList, ?_⟩
      simp [subject, text]
  | interfaceMissing name =>
      refine ⟨"interface ".toList, " does not exist".toList, ?_⟩
      simp [subject, text]

namespace Status

/-- All that was looked for is there. -/
structure Complete (status : Status) : Prop where
  forwarding : status.forwarding = some true
  interfaces : ∀ found ∈ status.interfaces, found.2 = some true
  rules : ∀ found ∈ status.rules, found.present = some true

/-- Nothing of the setup is there. Interfaces are no part of it. -/
structure Empty (status : Status) : Prop where
  forwarding : status.forwarding ≠ some true
  rules : ∀ found ∈ status.rules, found.present ≠ some true

/-- What a setup lacks first: forwarding comes before the rules, and these come before the
interfaces. -/
inductive FirstLack (status : Status) : Shortcoming → Prop
  | forwardingUnknown (hforwarding : status.forwarding = none) :
      FirstLack status .forwardingUnknown
  | forwardingOff (hforwarding : status.forwarding = some false) :
      FirstLack status .forwardingOff
  | ruleUnknown {before after : List RuleStatus} {step : Step} {rule : Rule}
      (hforwarding : status.forwarding = some true)
      (hrules : status.rules = before ++ ⟨step, rule, none⟩ :: after)
      (hbefore : ∀ found ∈ before, found.present = some true) :
      FirstLack status (.ruleUnknown rule)
  | ruleMissing {before after : List RuleStatus} {step : Step} {rule : Rule}
      (hforwarding : status.forwarding = some true)
      (hrules : status.rules = before ++ ⟨step, rule, some false⟩ :: after)
      (hbefore : ∀ found ∈ before, found.present = some true) :
      FirstLack status (.ruleMissing rule)
  | interfaceMissing {before after : List (String × Probe)} {name : String} {probe : Probe}
      (hforwarding : status.forwarding = some true)
      (hrules : ∀ found ∈ status.rules, found.present = some true)
      (hinterfaces : status.interfaces = before ++ (name, probe) :: after)
      (hbefore : ∀ found ∈ before, found.2 = some true) (hprobe : probe ≠ some true) :
      FirstLack status (.interfaceMissing name)

variable {status other : Status} {shortcoming : Shortcoming}

/-- A status is of the best kind exactly if it is complete. -/
theorem health_eq_configured_iff : status.health = .configured ↔ status.Complete := by
  rw [health_configured_iff, shortcoming_eq_none_iff]
  constructor
  · rintro ⟨hforwarding, hrules, hinterfaces⟩
    exact ⟨hforwarding, hinterfaces, hrules⟩
  · rintro ⟨hforwarding, hinterfaces, hrules⟩
    exact ⟨hforwarding, hrules, hinterfaces⟩

/-- It is of the worst kind exactly if it is empty. -/
theorem health_eq_unconfigured_iff : status.health = .unconfigured ↔ status.Empty := by
  unfold health
  -- forwarding that is on rules the class out; else the rules decide
  by_cases hforwarding : status.forwarding = some true
  · rw [if_pos hforwarding]
    refine iff_of_false ?_ fun hempty => hempty.forwarding hforwarding
    cases status.shortcoming? <;> nofun
  · rw [if_neg hforwarding]
    split
    · next hrules =>
        refine iff_of_true rfl ⟨hforwarding, fun found hfound => ?_⟩
        simpa using List.all_eq_true.mp hrules found hfound
    · next hrules =>
        refine iff_of_false nofun fun hempty => hrules ?_
        exact List.all_eq_true.mpr fun found hfound => by simpa using hempty.rules found hfound

/-- What is missing while forwarding is on is the first thing that is lacking. -/
theorem firstLack_of_shortcoming (hforwarding : status.forwarding = some true)
    (h : status.shortcoming? = some shortcoming) : status.FirstLack shortcoming := by
  unfold shortcoming? at h
  cases hrule : status.rules.find? (·.present ≠ some true) with
  | some found =>
      -- the first rule that is not there
      rw [hrule] at h
      obtain ⟨hmissing, before, after, hrules, hbefore⟩ := List.find?_eq_some_iff_append.mp hrule
      have hbefore' : ∀ found ∈ before, found.present = some true := by simpa using hbefore
      obtain ⟨step, rule, present⟩ := found
      cases present with
      | none =>
          cases h
          exact .ruleUnknown hforwarding hrules hbefore'
      | some there =>
          cases there with
          | true => simp at hmissing
          | false =>
              cases h
              exact .ruleMissing hforwarding hrules hbefore'
  | none =>
      -- all rules are there, so it is the first interface that is not
      rw [hrule] at h
      obtain ⟨⟨name, probe⟩, hinterface, rfl⟩ := Option.map_eq_some_iff.mp h
      obtain ⟨hmissing, before, after, hinterfaces, hbefore⟩ :=
        List.find?_eq_some_iff_append.mp hinterface
      refine .interfaceMissing hforwarding ?_ hinterfaces ?_ ?_
      · simpa [List.find?_eq_none] using hrule
      · simpa using hbefore
      · simpa using hmissing

/-- What a partial setup is said to lack is the first thing that it lacks. -/
theorem firstLack_of_partly (h : status.health = .partly shortcoming) :
    status.FirstLack shortcoming := by
  unfold health at h
  -- forwarding on: the class comes from the list of shortcomings; not on: forwarding itself is
  -- the first lack
  split at h
  · next hforwarding =>
      cases hshortcoming : status.shortcoming? with
      | none =>
          rw [hshortcoming] at h
          cases h
      | some first =>
          rw [hshortcoming] at h
          cases h
          exact firstLack_of_shortcoming hforwarding hshortcoming
  · next hforwarding =>
      split at h
      · cases h
      · cases h
        cases hprobe : status.forwarding with
        | none => exact .forwardingUnknown hprobe
        | some on =>
            cases on with
            | true => exact absurd hprobe hforwarding
            | false => exact .forwardingOff hprobe

end Status

/-! ## Other answers -/

/-- A question without an answer may have been answered with no. -/
inductive Probe.Denied : Probe → Probe → Prop
  | same {probe : Probe} : Denied probe probe
  | denied : Denied none (some false)

/-- Any question may have been answered with yes. -/
inductive Probe.Affirmed : Probe → Probe → Prop
  | same {probe : Probe} : Affirmed probe probe
  | affirmed {probe : Probe} : Affirmed probe (some true)

/-- The status of the same look, with answers that are related to those before. -/
structure Status.Revised (R : Probe → Probe → Prop) (status other : Status) : Prop where
  forwarding : R status.forwarding other.forwarding
  interfaces : List.Forall₂ (fun old new => old.1 = new.1 ∧ R old.2 new.2) status.interfaces
    other.interfaces
  rules : List.Forall₂ (fun old new => old.step = new.step ∧ old.rule = new.rule ∧
    R old.present new.present) status.rules other.rules

/-- What holds of all entries holds of all that they became. -/
theorem forall_of_forall₂ {α β : Type} {R : α → β → Prop} {P : α → Prop} {Q : β → Prop}
    {xs : List α} {ys : List β} (h : List.Forall₂ R xs ys) (hP : ∀ x ∈ xs, P x)
    (hPQ : ∀ x y, R x y → P x → Q y) : ∀ y ∈ ys, Q y := by
  induction h with
  | nil => exact List.forall_mem_nil _
  | cons hxy _ ih =>
      obtain ⟨hx, hxs⟩ := List.forall_mem_cons.mp hP
      exact List.forall_mem_cons.mpr ⟨hPQ _ _ hxy hx, ih hxs⟩

namespace Status

variable {R : Probe → Probe → Prop} {status other : Status}

/-- What was complete stays so, as long as what was there is there. -/
theorem Complete.revised (h : status.Complete) (hrevised : status.Revised R other)
    (hR : ∀ old new, R old new → old = some true → new = some true) : other.Complete where
  forwarding := hR _ _ hrevised.forwarding h.forwarding
  interfaces := forall_of_forall₂ hrevised.interfaces h.interfaces fun _ _ hnew => hR _ _ hnew.2
  rules := forall_of_forall₂ hrevised.rules h.rules fun _ _ hnew => hR _ _ hnew.2.2

/-- And what is empty has been so. -/
theorem Empty.of_revised (h : other.Empty) (hrevised : status.Revised R other)
    (hR : ∀ old new, R old new → old = some true → new = some true) : status.Empty where
  forwarding := fun hon => h.forwarding (hR _ _ hrevised.forwarding hon)
  rules := forall_of_forall₂ hrevised.rules.flip h.rules fun _ _ hold hnew hthere =>
    hnew (hR _ _ hold.2.2 hthere)

/-- As long as what was there is there, the kind does not get worse. -/
theorem rank_le_of_revised (hrevised : status.Revised R other)
    (hR : ∀ old new, R old new → old = some true → new = some true) :
    status.health.rank ≤ other.health.rank := by
  cases hstatus : status.health with
  | unconfigured => exact Nat.zero_le _
  | configured =>
      have hcomplete := (health_eq_configured_iff.mp hstatus).revised hrevised hR
      exact Nat.le_of_eq (congrArg Health.rank (health_eq_configured_iff.mpr hcomplete).symm)
  | partly first =>
      cases hother : other.health with
      | unconfigured =>
          -- what is empty now was so before
          have hempty := (health_eq_unconfigured_iff.mp hother).of_revised hrevised hR
          rw [health_eq_unconfigured_iff.mpr hempty] at hstatus
          cases hstatus
      | partly _ => exact Nat.le_refl 1
      | configured => exact Nat.le_succ 1

/-- A revision is undone by the opposite one. -/
theorem Revised.flip (h : status.Revised R other) :
    other.Revised (fun new old => R old new) status where
  forwarding := h.forwarding
  interfaces := (h.interfaces.imp fun _ _ h => ⟨h.1.symm, h.2⟩).flip
  rules := (h.rules.imp fun _ _ h => ⟨h.1.symm, h.2.1.symm, h.2.2⟩).flip

/-- It makes no difference whether a question has no answer or is answered with no. -/
theorem rank_eq_of_denied (h : status.Revised Probe.Denied other) :
    other.health.rank = status.health.rank := by
  refine Nat.le_antisymm (rank_le_of_revised h.flip ?_) (rank_le_of_revised h ?_)
  · intro new old hold hthere
    cases hold with
    | same => exact hthere
    | denied => cases hthere
  · intro old new hnew hthere
    cases hnew with
    | same => exact hthere
    | denied => cases hthere

/-- An answer with yes never makes it worse. -/
theorem rank_le_of_affirmed (h : status.Revised Probe.Affirmed other) :
    status.health.rank ≤ other.health.rank := by
  refine rank_le_of_revised h ?_
  intro old new hnew hthere
  cases hnew with
  | same => exact hthere
  | affirmed => rfl

end Status

/-! ## The law -/

/-- What the health of a status tells. -/
structure TellsHealth (status : Status) : Prop where
  configured_iff : status.health = .configured ↔ status.Complete
  unconfigured_iff : status.health = .unconfigured ↔ status.Empty
  /-- Otherwise the setup is there in part, and what it lacks first is named. -/
  partly : ¬status.Complete → ¬status.Empty → ∃ shortcoming,
    status.health = .partly shortcoming ∧ status.FirstLack shortcoming ∧
      shortcoming.subject.toList <:+: status.health.text.toList
  /-- No answer counts as no. -/
  denied : ∀ other, status.Revised Probe.Denied other → other.health.rank = status.health.rank
  /-- With more of it there, a setup is of no worse kind. -/
  affirmed : ∀ other, status.Revised Probe.Affirmed other →
    status.health.rank ≤ other.health.rank

/-- **The health of a status tells what is there**, for any number of interfaces and rules and any
answers. -/
theorem health_tells (status : Status) : TellsHealth status where
  configured_iff := Status.health_eq_configured_iff
  unconfigured_iff := Status.health_eq_unconfigured_iff
  partly := by
    intro hcomplete hempty
    cases hhealth : status.health with
    | configured => exact absurd (Status.health_eq_configured_iff.mp hhealth) hcomplete
    | unconfigured => exact absurd (Status.health_eq_unconfigured_iff.mp hhealth) hempty
    | partly shortcoming =>
        refine ⟨shortcoming, rfl, Status.firstLack_of_partly hhealth, ?_⟩
        unfold Health.text
        rw [String.toList_append]
        exact shortcoming.subject_infix.trans (List.suffix_append _ _).isInfix
  denied := fun _ => Status.rank_eq_of_denied
  affirmed := fun _ => Status.rank_le_of_affirmed

/-- A rule that could not be checked keeps a setup from being complete, just as a missing one does;
once it is found, the setup is complete. -/
theorem health_tells_of_unchecked_rule :
    let status : Probe → Status := fun present =>
      ⟨some true, [("tap0", some true)], [⟨.acceptToTap, .acceptTo "tap0", present⟩]⟩
    (status none).health = .partly (.ruleUnknown (.acceptTo "tap0")) ∧
      (status (some false)).health.rank = (status none).health.rank ∧
      (status none).health.rank ≤ (status (some true)).health.rank ∧
      (status (some true)).health = .configured := by
  intro status
  have hinterfaces : ∀ R : Probe → Probe → Prop, (∀ probe, R probe probe) →
      List.Forall₂ (fun old new : String × Probe => old.1 = new.1 ∧ R old.2 new.2)
        [("tap0", some true)] [("tap0", some true)] :=
    fun R hR => .cons ⟨rfl, hR _⟩ .nil
  have hdenied : (status none).Revised Probe.Denied (status (some false)) :=
    ⟨.same, hinterfaces _ fun _ => .same, .cons ⟨rfl, rfl, .denied⟩ .nil⟩
  have haffirmed : (status none).Revised Probe.Affirmed (status (some true)) :=
    ⟨.same, hinterfaces _ fun _ => .same, .cons ⟨rfl, rfl, .affirmed⟩ .nil⟩
  exact ⟨rfl, (health_tells _).denied _ hdenied, (health_tells _).affirmed _ haffirmed, rfl⟩

end GuestNat
