import GuestNat.Proofs.Footprint
import GuestNat.Proofs.Interleaving
import GuestNat.Proofs.SubnetText

/-!
# Setups side by side

Two setups on one host get in each other's way only if they have a rule in common. Without one, each
sees nothing of the other, whatever the order of their calls.

* `NatConfig.shares_rule_iff`: which configurations have a rule in common;
* `AgreeOn`: hosts that are the same as far as one configuration can tell;
* `ends_apart`: setups without a common rule end as they do on a host of their own, and leave their
  own rules as they do there;
* `setups_do_not_interfere`: the comparison with one setup after the other.

Forwarding is common to all setups. None of them asks for it, but the last one to turn it decides.
-/

namespace GuestNat

/-- Two configurations have a rule in common exactly if they have the interface of the guests or
both the subnet and the uplink in common. A subnet counts as it is written; reading one has cleared
its host bits. -/
theorem NatConfig.shares_rule_iff (left right : NatConfig) :
    (∃ rule ∈ left.rules, rule ∈ right.rules) ↔
      left.tap = right.tap ∨ (left.subnet = right.subnet ∧ left.uplink = right.uplink) := by
  have htext : left.subnet.text = right.subnet.text ↔ left.subnet = right.subnet :=
    ⟨Subnet.text_injective, congrArg Subnet.text⟩
  simp [NatConfig.rules_eq, Rule.acceptTo, Rule.acceptFrom, Rule.masquerade, htext]

/-! ## What one configuration can tell -/

/-- Two hosts without a limit on changes are the same as far as a configuration can tell. -/
structure AgreeOn (config : NatConfig) (shared alone : Rehearsal) : Prop where
  rules : shared.rules.filter (· ∈ config.rules) = alone.rules.filter (· ∈ config.rules)
  interfaces : shared.interfaces = alone.interfaces
  refused : shared.refused = alone.refused
  shared_unlimited : shared.allowance = none
  alone_unlimited : alone.allowance = none

section AgreeOn

variable {config : NatConfig} {shared alone : Rehearsal} {change : Change} {rule : Rule}

theorem agree_on_self (config : NatConfig) (h : shared.allowance = none) :
    AgreeOn config shared shared :=
  ⟨rfl, rfl, rfl, h, h⟩

theorem AgreeOn.mem_iff (h : AgreeOn config shared alone) (hrule : rule ∈ config.rules) :
    rule ∈ shared.rules ↔ rule ∈ alone.rules := by
  have hshared : rule ∈ shared.rules.filter (· ∈ config.rules) ↔ rule ∈ shared.rules := by
    simp [hrule]
  have halone : rule ∈ alone.rules.filter (· ∈ config.rules) ↔ rule ∈ alone.rules := by
    simp [hrule]
  rw [← hshared, h.rules, halone]

theorem AgreeOn.answer (h : AgreeOn config shared alone) {question : Question}
    (hquestion : config.Inspects question) : shared.answer question = alone.answer question := by
  cases question with
  | forwarding => exact absurd hquestion not_false
  | interface name =>
      unfold Rehearsal.answer Rehearsal.hasInterface
      rw [h.interfaces]
  | rule rule =>
      rw [Rehearsal.answer_rule, Rehearsal.answer_rule]
      simp only [h.mem_iff hquestion]

theorem AgreeOn.after (h : AgreeOn config shared alone) (change : Change) :
    AgreeOn config (shared.after change) (alone.after change) where
  rules := Change.filter_on_rules_congr change h.rules
  interfaces := h.interfaces
  refused := h.refused
  shared_unlimited := h.shared_unlimited
  alone_unlimited := h.alone_unlimited

/-- A change that is about no rule of the configuration is not noticed. -/
theorem AgreeOn.after_other (h : AgreeOn config shared alone)
    (hother : ∀ rule, change.rule? = some rule → rule ∉ config.rules) :
    AgreeOn config (shared.after change) alone where
  rules := by
    rw [← h.rules]
    exact Change.filter_on_rules shared.rules fun rule hrule => decide_eq_false (hother rule hrule)
  interfaces := h.interfaces
  refused := h.refused
  shared_unlimited := h.shared_unlimited
  alone_unlimited := h.alone_unlimited

/-- A change about the configuration is accepted by both hosts or by none. -/
theorem AgreeOn.accepts_iff (h : AgreeOn config shared alone)
    (hown : ∀ rule, change.rule? = some rule → rule ∈ config.rules) :
    shared.Accepts change ↔ alone.Accepts change := by
  unfold Rehearsal.Accepts Rehearsal.isDenied
  rw [h.shared_unlimited, h.alone_unlimited, h.refused]
  cases change with
  | setForwarding on => rfl
  | append rule => rfl
  | delete rule => simp only [h.mem_iff (hown rule rfl)]

/-- Why a host without a limit refuses a change does not depend on the host. -/
theorem refused_alike (hshared : shared.allowance = none) (halone : alone.allowance = none)
    (hrefuses : ¬ shared.Accepts change) (hrefuses' : ¬ alone.Accepts change) :
    ∃ e, shared.apply change = .error e ∧ alone.apply change = .error e := by
  have hdenied : shared.isDenied = false := by rw [Rehearsal.isDenied, hshared]
  have hdenied' : alone.isDenied = false := by rw [Rehearsal.isDenied, halone]
  unfold Rehearsal.Accepts at hrefuses hrefuses'
  unfold Rehearsal.apply
  rw [hdenied] at hrefuses
  rw [hdenied'] at hrefuses'
  rw [hdenied, hdenied']
  -- with no allowance to run out, the refusal tells of the rule alone: it is on the list of
  -- refused ones, or there is no copy to delete
  cases change with
  | setForwarding on => exact absurd ⟨rfl, trivial⟩ hrefuses
  | append rule =>
      have hlisted : rule ∈ shared.refused := by simpa using hrefuses
      have hlisted' : rule ∈ alone.refused := by simpa using hrefuses'
      exact ⟨_, if_pos (List.contains_iff_mem.mpr hlisted),
        if_pos (List.contains_iff_mem.mpr hlisted')⟩
  | delete rule =>
      have hmissing : ¬ shared.rules.contains rule := by simpa using hrefuses
      have hmissing' : ¬ alone.rules.contains rule := by simpa using hrefuses'
      exact ⟨_, if_neg hmissing, if_neg hmissing'⟩

/-- A setup of the configuration goes on alike on both hosts. -/
theorem agree_on_lockstep (procedure : Procedure) (config : NatConfig) :
    Lockstep Rehearsal.host Rehearsal.host config.Inspects (procedure.Makes config)
      (AgreeOn config) where
  ask := by
    intro question shared alone hquestion h
    exact ⟨congrArg Except.ok (h.answer hquestion), h⟩
  make := by
    intro change shared alone hchange h
    have haccepts := h.accepts_iff fun _ => hchange.rule_mem
    -- both hosts take the change, or both refuse it with one cause and stay as they are
    by_cases haccepted : shared.Accepts change
    · rw [shared.make_of_accepts haccepted, alone.make_of_accepts (haccepts.mp haccepted)]
      exact ⟨rfl, h.after change⟩
    · obtain ⟨e, hshared, halone⟩ := refused_alike h.shared_unlimited h.alone_unlimited haccepted
        (mt haccepts.mpr haccepted)
      unfold Rehearsal.host
      dsimp only
      rw [hshared, halone]
      exact ⟨rfl, h⟩

end AgreeOn

/-! ## The other setup -/

section Others

variable {config other : NatConfig} {Known : Rehearsal → Prop}

/-- Whatever holds behind all changes about other rules is kept by a setup that has other rules. -/
theorem keeps_of_changes (procedure : Procedure) (config : NatConfig)
    (h : ∀ change host, procedure.Makes config change → Known host → Known (host.after change)) :
    Keeps Rehearsal.host config.Inspects (procedure.Makes config) Known where
  ask := fun _ _ _ hknown => hknown
  make := by
    intro change host hchange hknown
    cases hreply : (Rehearsal.host.make change host).reply with
    | ok _ =>
        have hstate : (Rehearsal.host.make change host).state = host.after change :=
          (mirrors_rehearsal.make_ok change host hreply).2
        rw [hstate]
        exact h change host hchange hknown
    | error e =>
        have hstate : (Rehearsal.host.make change host).state = host :=
          mirrors_rehearsal.make_error change host e hreply
        rw [hstate]
        exact hknown

/-- A setup keeps what another configuration can tell, if they have no rule in common. -/
theorem keeps_agree_on (procedure : Procedure) (hapart : ∀ rule ∈ config.rules, rule ∉ other.rules)
    (alone : Rehearsal) :
    Keeps Rehearsal.host config.Inspects (procedure.Makes config) (AgreeOn other · alone) :=
  keeps_of_changes procedure config fun _ _ hchange h =>
    h.after_other fun rule hrule => hapart rule (hchange.rule_mem hrule)

/-- A setup keeps the rules of a kind that it has none of. -/
theorem keeps_kind (procedure : Procedure) {kind : Rule → Bool}
    (hkind : ∀ rule ∈ config.rules, kind rule = false) (kept : List Rule) :
    Keeps Rehearsal.host config.Inspects (procedure.Makes config)
      (·.rules.filter kind = kept) := by
  refine keeps_of_changes procedure config ?_
  rintro change host hchange rfl
  exact Change.filter_on_rules host.rules fun rule hrule => hkind rule (hchange.rule_mem hrule)

end Others

/-! ## Two setups -/

/-- The rule belongs to neither configuration. -/
def foreign (left right : NatConfig) (rule : Rule) : Bool :=
  rule ∉ left.rules ∧ rule ∉ right.rules

/-- Two hosts have the same rules of either configuration, and the same foreign ones. -/
structure SameRules (left right : NatConfig) (first second : Rehearsal) : Prop where
  left_rules : first.rules.filter (· ∈ left.rules) = second.rules.filter (· ∈ left.rules)
  right_rules : first.rules.filter (· ∈ right.rules) = second.rules.filter (· ∈ right.rules)
  foreign_rules : first.rules.filter (foreign left right) =
    second.rules.filter (foreign left right)

section Apart

variable {left right : NatConfig} {host after : Rehearsal} {p q : Procedure}
  {privilege privilege' : Privilege} {v w : Except SetupError Report}

/-- A setup next to one without a common rule ends as it does alone, and leaves its own rules as it
does alone. -/
theorem ends_apart (hapart : ∀ rule ∈ right.rules, rule ∉ left.rules)
    (hunlimited : host.allowance = none)
    (h : Interleaved Rehearsal.host (p.setup left privilege).run (q.setup right privilege').run
      host v w after) :
    v = ((p.setup left privilege).run.run Rehearsal.host host).value ∧
      AgreeOn left after ((p.setup left privilege).run.run Rehearsal.host host).state :=
  h.alike (p.within_setup left privilege) (q.within_setup right privilege')
    (agree_on_lockstep p left) (keeps_agree_on q hapart) (agree_on_self left hunlimited)

/-- The foreign rules stay as they are. -/
theorem foreign_rules_stay
    (h : Interleaved Rehearsal.host (p.setup left privilege).run (q.setup right privilege').run
      host v w after) :
    after.rules.filter (foreign left right) = host.rules.filter (foreign left right) :=
  h.keeps (p.within_setup left privilege) (q.within_setup right privilege')
    (keeps_kind p (fun rule hrule => by simp [foreign, hrule]) _)
    (keeps_kind q (fun rule hrule => by simp [foreign, hrule]) _) rfl

/-- However the turns are taken, the rules come to the same. -/
theorem same_rules_of_interleaved (hleft : ∀ rule ∈ left.rules, rule ∉ right.rules)
    (hright : ∀ rule ∈ right.rules, rule ∉ left.rules) (hunlimited : host.allowance = none)
    (h : Interleaved Rehearsal.host (p.setup left privilege).run (q.setup right privilege').run
      host v w after) {v' w' : Except SetupError Report} {after' : Rehearsal}
    (h' : Interleaved Rehearsal.host (p.setup left privilege).run (q.setup right privilege').run
      host v' w' after') : SameRules left right after after' where
  left_rules := (ends_apart hright hunlimited h).2.rules.trans
    (ends_apart hright hunlimited h').2.rules.symm
  right_rules := (ends_apart hleft hunlimited h.symm).2.rules.trans
    (ends_apart hleft hunlimited h'.symm).2.rules.symm
  foreign_rules := (foreign_rules_stay h).trans (foreign_rules_stay h').symm

/-- What two setups that take turns come to, compared with each of them alone and with one after the
other. -/
structure Undisturbed (left right : NatConfig) (first second : Setup Report) (host : Rehearsal)
    (v w : Except SetupError Report) (after : Rehearsal) : Prop where
  left_value : v = (first.run.run Rehearsal.host host).value
  right_value : w = (second.run.run Rehearsal.host host).value
  left_then_right : SameRules left right after
    (second.run.run Rehearsal.host (first.run.run Rehearsal.host host).state).state
  right_then_left : SameRules left right after
    (first.run.run Rehearsal.host (second.run.run Rehearsal.host host).state).state

/-- **Setups that have no rule in common do not interfere.** Two configurations have a rule in
common exactly if they have the interface of the guests or both the subnet and the uplink in common.
Otherwise one setup of each may run at the same time on a host in memory without a limit on changes:
in whatever order they make their calls, each comes to what it comes to alone, and the rules of
each, and those of neither, are what one setup after the other leaves of them, in either order. -/
theorem setups_do_not_interfere (left right : NatConfig) :
    ((∃ rule ∈ left.rules, rule ∈ right.rules) ↔
      left.tap = right.tap ∨ (left.subnet = right.subnet ∧ left.uplink = right.uplink)) ∧
    (left.tap ≠ right.tap → ¬ (left.subnet = right.subnet ∧ left.uplink = right.uplink) →
      ∀ (host : Rehearsal) (p q : Procedure) (privilege privilege' : Privilege)
        (v w : Except SetupError Report) (after : Rehearsal), host.allowance = none →
        Interleaved Rehearsal.host (p.setup left privilege).run (q.setup right privilege').run
          host v w after →
        Undisturbed left right (p.setup left privilege) (q.setup right privilege') host v w
          after) := by
  refine ⟨left.shares_rule_iff right, ?_⟩
  intro htap hother host p q privilege privilege' v w after hunlimited h
  have hnone : ¬ ∃ rule ∈ left.rules, rule ∈ right.rules := by
    rw [left.shares_rule_iff right]
    exact not_or.mpr ⟨htap, hother⟩
  have hleft : ∀ rule ∈ left.rules, rule ∉ right.rules := fun rule hrule hmem =>
    hnone ⟨rule, hrule, hmem⟩
  have hright : ∀ rule ∈ right.rules, rule ∉ left.rules := fun rule hrule hmem =>
    hnone ⟨rule, hmem, hrule⟩
  -- one setup after the other is a way of taking turns as well, and so it is the other way round
  exact {
    left_value := (ends_apart hright hunlimited h).1
    right_value := (ends_apart hleft hunlimited h.symm).1
    left_then_right := same_rules_of_interleaved hleft hright hunlimited h (.in_turn _ _ _ _)
    right_then_left :=
      same_rules_of_interleaved hleft hright hunlimited h (Interleaved.in_turn _ _ _ _).symm }

/-- A removal between the calls of an applying: each finds and leaves its own rules. -/
theorem setups_do_not_interfere_alternating :
    let left : NatConfig := {}
    let right : NatConfig := { tap := "tap1", subnet := ⟨.ofOctets 10 0 0 0, 8⟩ }
    let host : Rehearsal :=
      { rules := [.acceptTo right.tap, ⟨.filter, "INPUT", ["-j", "DROP"]⟩, .acceptTo right.tap,
          .acceptFrom left.tap] }
    let applying := (Procedure.apply { idempotent := true }).setup left .elevated
    let removing := (Procedure.teardown false).setup right .elevated
    let woven := weave Rehearsal.host (List.replicate 20 [true, false]).flatten applying.run
      removing.run host
    left.tap ≠ right.tap ∧ woven.2.2.rules = [⟨.filter, "INPUT", ["-j", "DROP"]⟩,
        .acceptFrom left.tap, .acceptTo left.tap, .masquerade left.subnet left.uplink] ∧
      Undisturbed left right applying removing host woven.1 woven.2.1 woven.2.2 := by
  intro left right host applying removing woven
  exact ⟨by decide, by decide +kernel,
    (setups_do_not_interfere left right).2 (by decide) (by decide +kernel) host _ _ _ _ _ _ _ rfl
      (interleaved_weave Rehearsal.host _ applying.run removing.run host)⟩

end Apart

end GuestNat
