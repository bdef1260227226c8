import GuestNat.Proofs.RemovalInFull
import GuestNat.Proofs.RuleCalls
import GuestNat.Proofs.SubnetSpelling

/-!
# One network, one rule

A network has many spellings, and each of them leads to the same masquerading rule. Spellings of
different networks lead to different rules, whatever else they have in common.

* `masquerade_eq_iff`: what a masquerading rule is made of;
* `Subnet.masquerade_of_spelled_iff`: which spellings lead to the same rule;
* `OneRule`: what this means for runs;
* `one_network_one_rule`: it holds of the configurations that any two accepted texts lead to.
-/

namespace GuestNat

/-! ## The rule -/

/-- A masquerading rule is made of its subnet and its uplink. -/
theorem masquerade_eq_iff {subnet subnet' : Subnet} {uplink uplink' : String} :
    Rule.masquerade subnet uplink = .masquerade subnet' uplink' ↔
      subnet = subnet' ∧ uplink = uplink' := by
  constructor
  · intro h
    have hargs : ["-s", subnet.text, "-o", uplink, "-j", "MASQUERADE"] =
        ["-s", subnet'.text, "-o", uplink', "-j", "MASQUERADE"] := congrArg Rule.args h
    simp only [List.cons.injEq, true_and, and_true] at hargs
    exact ⟨Subnet.text_injective hargs.1, hargs.2⟩
  · rintro ⟨rfl, rfl⟩
    rfl

/-- The masquerading rule of a configuration. -/
def NatConfig.masqueradeRule (config : NatConfig) : Rule := .masquerade config.subnet config.uplink

section Configurations

variable {left right : NatConfig}

theorem NatConfig.masquerade_rule_mem (config : NatConfig) :
    config.masqueradeRule ∈ config.rules := by
  simp [config.rules_eq, masqueradeRule]

/-- Of the rules of a configuration, this one alone is in its table. -/
theorem NatConfig.eq_masquerade_rule {config : NatConfig} {rule : Rule}
    (hrule : rule ∈ config.rules) (htable : rule.table = .nat) : rule = config.masqueradeRule := by
  rw [config.rules_eq] at hrule
  simp only [List.mem_cons, List.not_mem_nil, or_false] at hrule
  rcases hrule with rfl | rfl | rfl
  · cases htable
  · cases htable
  · rfl

/-- The masquerading rule of another configuration is one of the rules exactly if it is this one. -/
theorem NatConfig.masquerade_rule_mem_iff :
    left.masqueradeRule ∈ right.rules ↔ left.masqueradeRule = right.masqueradeRule :=
  ⟨fun h => eq_masquerade_rule h rfl, fun h => h ▸ right.masquerade_rule_mem⟩

end Configurations

/-! ## Spellings -/

namespace Subnet

variable {s s' : String} {address address' : Address} {length length' : Fin 33}
  {subnet subnet' : Subnet}

/-- A text is read as what it spells, without the host bits. -/
theorem eq_masked_of_spelled (hs : Spelled s address length) (hparse : parse s = .ok subnet) :
    subnet = masked ⟨address, length⟩ := by
  have hspelled : parse s = .ok (masked ⟨address, length⟩) :=
    parse_eq_ok_iff.mpr ⟨address, length, hs, rfl⟩
  exact Except.ok.inj (hparse.symm.trans hspelled)

/-- Two spellings lead to the same rule exactly if they spell the same network. -/
theorem masquerade_of_spelled_iff {uplink uplink' : String} (hs : Spelled s address length)
    (hs' : Spelled s' address' length') (hparse : parse s = .ok subnet)
    (hparse' : parse s' = .ok subnet') :
    Rule.masquerade subnet uplink = .masquerade subnet' uplink' ↔
      uplink = uplink' ∧ length = length' ∧
        address &&& mask length = address' &&& mask length' := by
  rw [masquerade_eq_iff, eq_masked_of_spelled hs hparse, eq_masked_of_spelled hs' hparse']
  unfold masked
  rw [Subnet.mk.injEq]
  constructor
  · rintro ⟨⟨haddress, hlength⟩, huplink⟩
    exact ⟨huplink, hlength, haddress⟩
  · rintro ⟨huplink, hlength, haddress⟩
    exact ⟨⟨haddress, hlength⟩, huplink⟩

end Subnet

/-! ## Runs -/

section Runs

variable {config : NatConfig} {command : Command}

/-- A look at a host in memory finds a rule exactly if it is one of the configuration and there. -/
theorem found_iff (config : NatConfig) (host : Rehearsal) (rule : Rule) :
    (∃ entry ∈ ((Status.probe config).run Rehearsal.host host).value.rules,
      entry.rule = rule ∧ entry.present = some true) ↔ rule ∈ config.rules ∧ rule ∈ host.rules := by
  have hvalue : ((Status.probe config).run Rehearsal.host host).value = host.status config :=
    (ends_probe config host).1
  have hentries : (∃ entry ∈ (host.status config).rules,
      entry.rule = rule ∧ entry.present = some true) ↔
      (rule, some true) ∈ (host.status config).rules.map fun entry =>
        (entry.rule, entry.present) := by
    simp
  rw [hvalue, hentries, host.status_rules]
  simp [Rehearsal.answer_rule]

/-- Removing that comes to its end takes copies of each rule away, up to the limit. -/
theorem count_after_removing {before after : Rehearsal} {report : Report} {t : List Occurrence}
    {disableForwarding : Bool} {rule : Rule} (hrule : rule ∈ config.rules)
    (h : CameToEnd (.teardown disableForwarding) config before after report t) :
    after.rules.count rule = before.rules.count rule - min 64 (before.rules.count rule) := by
  have hafter : after = before.afterAll
      ((Procedure.teardown disableForwarding).effects config before Step.removing) := h.after_eq
  rw [hafter, Rehearsal.count_after_deletions (removing_appends_nothing config before _),
    count_effects_of_removing, if_pos hrule]
  rfl

/-- A command leaves the copies of other rules as many as they are, however it ends. -/
theorem count_after_execute {rule : Rule} (privilege : Privilege) (command : Command)
    (hrule : rule ∉ config.rules) (host : Rehearsal) :
    ((Program.execute privilege command config).run.run Rehearsal.host host).state.rules.count
      rule = host.rules.count rule := by
  have hstate : ((Program.execute privilege command config).run.run Rehearsal.host host).state =
      host.afterAll
        (madeIn ((Program.execute privilege command config).run.run Rehearsal.host host).trace) :=
    mirrors_rehearsal.memory_of_run _ host
  rw [hstate]
  refine Rehearsal.count_after_all ?_
  intro change hchange heq
  exact hrule (rules_of_execute privilege command config rule (mem_rules_of_made hchange heq))

end Runs

/-- What runs with two configurations have to do with each other's masquerading rule, given whether
it is the same. -/
structure OneRule (left right : NatConfig) (same : Prop) : Prop where
  rule : left.masqueradeRule = right.masqueradeRule ↔ same
  /-- On any hosts, calls of both runs are about one rule of the table only if it is the same, and
  it is the rule of both. -/
  calls : ∀ {σ τ : Type} (host : Host σ) (s : σ) (host' : Host τ) (s' : τ) privilege privilege'
    command command',
    let first := (Program.execute privilege command left).run.run host s
    let second := (Program.execute privilege' command' right).run.run host' s'
    (∀ rule, rule.table = .nat → rule ∈ rulesOf first.trace → rule ∈ rulesOf second.trace →
      same ∧ rule = left.masqueradeRule) ∧
    (same → first.value.result.isOk → second.value.result.isOk →
      left.masqueradeRule ∈ rulesOf first.trace ∧ left.masqueradeRule ∈ rulesOf second.trace)
  /-- Behind applying with one of them that succeeds, a look with the other one finds the rule
  exactly then. -/
  found : ∀ (host : Rehearsal) privilege options,
    let up := (Program.execute privilege (.up options) left).run.run Rehearsal.host host
    up.value.result.isOk →
      ((∃ entry ∈ ((Status.probe right).run Rehearsal.host up.state).value.rules,
        entry.rule = left.masqueradeRule ∧ entry.present = some true) ↔ same)
  /-- Behind it, removing with the other one takes the rule away exactly then, as far as the limit
  allows. -/
  removed : ∀ (host : Rehearsal) privilege options privilege' disableForwarding,
    let up := (Program.execute privilege (.up options) left).run.run Rehearsal.host host
    let down := (Program.execute privilege' (.down disableForwarding) right).run.run
      Rehearsal.host up.state
    let copies := fun state : Rehearsal => state.rules.count left.masqueradeRule
    up.value.result.isOk → 0 < copies up.state ∧
      (same → down.value.result.isOk → copies down.state = copies up.state - min 64 (copies up.state)) ∧
      (¬same → copies down.state = copies up.state)

/-- Configurations whose masquerading rules are the same exactly if something holds. -/
theorem one_rule_of_iff {left right : NatConfig} {same : Prop}
    (h : left.masqueradeRule = right.masqueradeRule ↔ same) : OneRule left right same := by
  have hshared : left.masqueradeRule ∈ right.rules ↔ same :=
    NatConfig.masquerade_rule_mem_iff.trans h
  -- behind applying that succeeds, the rule is there
  have hthere : ∀ (host : Rehearsal) privilege options,
      let up := (Program.execute privilege (.up options) left).run.run Rehearsal.host host
      up.value.result.isOk → left.masqueradeRule ∈ up.state.rules := by
    intro host privilege options up hok
    obtain ⟨report, hreport⟩ : ∃ report, CameToEnd (.apply options) left host up.state report _ :=
      ends_execute_report (.apply options) rfl privilege host hok
    have hstate : up.state = _ := hreport.after_eq
    rw [hstate]
    exact (installed_after_applying left options host).2 _ left.masquerade_rule_mem
  refine ⟨h, ?_, ?_, ?_⟩
  · -- all calls of a run are about rules of its own configuration, and those of a success about
    -- each of them
    intro σ τ host s host' s' privilege privilege' command command' first second
    constructor
    · intro rule htable hfirst hsecond
      have hleft := NatConfig.eq_masquerade_rule
        (rules_of_execute privilege command left rule hfirst) htable
      have hright := rules_of_execute privilege' command' right rule hsecond
      rw [hleft] at hright
      exact ⟨hshared.mp hright, hleft⟩
    · intro hsame hfirst hsecond
      exact ⟨(rules_of_success privilege command hfirst).mpr left.masquerade_rule_mem,
        (rules_of_success privilege' command' hsecond).mpr (hshared.mpr hsame)⟩
  · -- a look reports what is there of the rules of its own configuration
    intro host privilege options up hok
    rw [found_iff, hshared]
    exact and_iff_left (hthere host privilege options hok)
  · -- removing deletes only copies of the rules of its own configuration
    intro host privilege options privilege' disableForwarding up down copies hok
    refine ⟨List.count_pos_iff.mpr (hthere host privilege options hok), ?_, ?_⟩
    · intro hsame hdown
      obtain ⟨report, hreport⟩ :
          ∃ report, CameToEnd (.teardown disableForwarding) right up.state down.state report _ :=
        ends_execute_report (.teardown disableForwarding) rfl privilege' up.state hdown
      exact count_after_removing (hshared.mpr hsame) hreport
    · intro hother
      exact count_after_execute privilege' (.down disableForwarding)
        (fun hmem => hother (hshared.mp hmem)) up.state

/-- **One network, one rule.** A network is read back from its text. Two accepted texts lead to the
same masquerading rule exactly if the uplinks are the same and the texts spell the same network, and
then runs with either of them are about one rule; otherwise they have none in common. -/
theorem one_network_one_rule :
    (∀ subnet : Subnet, subnet.Masked → Subnet.parse subnet.text = .ok subnet) ∧
    (∀ s subnet, Subnet.parse s = .ok subnet → Subnet.parse subnet.text = .ok subnet) ∧
    -- every accepted text spells a network
    (∀ s, (∃ subnet, Subnet.parse s = .ok subnet) ↔
      ∃ address length, Subnet.Spelled s address length) ∧
    ∀ {s s' : String} {subnet subnet' : Subnet} {address address' : Address}
      {length length' : Fin 33}, Subnet.parse s = .ok subnet → Subnet.parse s' = .ok subnet' →
      Subnet.Spelled s address length → Subnet.Spelled s' address' length' →
      ∀ tap tap' uplink uplink' : String,
        OneRule ⟨tap, uplink, subnet⟩ ⟨tap', uplink', subnet'⟩
          (uplink = uplink' ∧ length = length' ∧
            address &&& Subnet.mask length = address' &&& Subnet.mask length') := by
  refine ⟨fun _ h => h.parse_text, fun _ _ h => (Subnet.masked_of_parse h).parse_text, ?_, ?_⟩
  · intro s
    simp only [Subnet.parse_eq_ok_iff]
    constructor
    · rintro ⟨subnet, address, length, hs, -⟩
      exact ⟨address, length, hs⟩
    · rintro ⟨address, length, hs⟩
      exact ⟨_, address, length, hs, rfl⟩
  · intro s s' subnet subnet' address address' length length' hparse hparse' hs hs' tap tap' uplink
      uplink'
    exact one_rule_of_iff (Subnet.masquerade_of_spelled_iff hs hs' hparse hparse')

/-- Two spellings of one network, with a host bit in one and leading zeros and blanks in the other,
and a spelling of half of it. -/
theorem one_network_one_rule_of_spellings :
    let whole : Subnet := ⟨.ofOctets 192 0 2 0, 24⟩
    let half : Subnet := ⟨.ofOctets 192 0 2 0, 25⟩
    let left : NatConfig := { uplink := "eth0", subnet := whole }
    let right : NatConfig := { tap := "tap1", uplink := "eth0", subnet := whole }
    let other : NatConfig := { uplink := "eth0", subnet := half }
    let up := (Program.execute .elevated (.up {}) left).run.run Rehearsal.host {}
    let down := (Program.execute .elevated (.down true) other).run.run Rehearsal.host up.state
    Subnet.parse "192.0.2.7/24" = .ok whole ∧ Subnet.parse " 192.000.2.0/24\n" = .ok whole ∧
      Subnet.parse "192.0.2.7/25" = .ok half ∧
      (∃ entry ∈ ((Status.probe right).run Rehearsal.host up.state).value.rules,
        entry.rule = left.masqueradeRule ∧ entry.present = some true) ∧
      down.state.rules.count left.masqueradeRule = up.state.rules.count left.masqueradeRule := by
  intro whole half left right other up down
  have hwhole : Subnet.parse "192.0.2.7/24" = .ok whole := by decide +kernel
  have hwhole' : Subnet.parse " 192.000.2.0/24\n" = .ok whole := by decide +kernel
  have hhalf : Subnet.parse "192.0.2.7/25" = .ok half := by decide +kernel
  have h192 : Address.SpelledOctet ['1', '9', '2'] 192 := by decide +kernel
  have h0 : Address.SpelledOctet ['0'] 0 := by decide +kernel
  have h000 : Address.SpelledOctet ['0', '0', '0'] 0 := by decide +kernel
  have h2 : Address.SpelledOctet ['2'] 2 := by decide +kernel
  have h7 : Address.SpelledOctet ['7'] 7 := by decide +kernel
  have hs : Subnet.Spelled "192.0.2.7/24" (.ofOctets 192 0 2 7) 24 :=
    .slash [] [] (List.forall_mem_nil _) (List.forall_mem_nil _) (.points h192 h0 h2 h7)
      (by decide +kernel)
  have hs' : Subnet.Spelled " 192.000.2.0/24\n" (.ofOctets 192 0 2 0) 24 :=
    .slash [' '] ['\n'] (List.forall_mem_singleton.mpr rfl) (List.forall_mem_singleton.mpr rfl)
      (.points h192 h000 h2 h0) (by decide +kernel)
  have ho : Subnet.Spelled "192.0.2.7/25" (.ofOctets 192 0 2 7) 25 :=
    .slash [] [] (List.forall_mem_nil _) (List.forall_mem_nil _) (.points h192 h0 h2 h7)
      (by decide +kernel)
  obtain ⟨-, -, -, honeRule⟩ := one_network_one_rule
  have hup : up.value.result.isOk = true := by decide +kernel
  refine ⟨hwhole, hwhole', hhalf, ?_, ?_⟩
  · exact ((honeRule hwhole hwhole' hs hs' "tap0" "tap1" "eth0" "eth0").found {} .elevated {}
      hup).mpr ⟨rfl, rfl, by decide +kernel⟩
  · refine ((honeRule hwhole hhalf hs ho "tap0" "tap0" "eth0" "eth0").removed {} .elevated {}
      .elevated true hup).2.2 ?_
    rintro ⟨-, hlength, -⟩
    cases hlength

end GuestNat
