import GuestNat.Proofs.PrintedPlans

/-!
# The interface that an error blames

When the firewall command complains about a missing interface, the error names one: it is read off
the command, with the help of the complaint.

* `FirewallCommand.BehindFlag`: a word stands right behind a flag for an interface;
* `FirewallCommand.Blamed`: the first such word that the complaint mentions, or else the first one;
* `FirewallCommand.missingInterface_eq_iff`: that is the name in the error;
* `FirewallCommand.words_describe`, `FirewallCommand.flagged_describe_of_args`: a command for a rule
  names the interfaces of the rule and no other words;
* `NamesInterface`, `missing_interface_is_blamed`: so the error for a rule of a proper configuration
  names the interface of the rule, whatever else is said.
-/

namespace GuestNat

namespace FirewallCommand

/-- The flags behind which a command names an interface. -/
def interfaceFlags : List String := ["-i", "-o"]

/-- The word stands right behind a flag for an interface, with some words before the flag. -/
def BehindFlag (words before : List String) (word : String) : Prop :=
  ∃ flag ∈ interfaceFlags, ∃ rest, words = before ++ flag :: word :: rest

/-- The word is the first one of a kind that stands behind such a flag. -/
def FirstBehindFlag (words : List String) (ofKind : String → Prop) (word : String) : Prop :=
  ∃ before, BehindFlag words before word ∧ ofKind word ∧
    ∀ before' word', BehindFlag words before' word' → ofKind word' →
      before.length ≤ before'.length

/-- The interface that a complaint about a command is taken to be about. -/
inductive Blamed (command stderr : String) : String → Prop
  | mentioned {name : String}
      (h : FirstBehindFlag (Text.words command) (fun word => Text.Mentions [word] stderr) name) :
      Blamed command stderr name
  | first {name : String}
      (hnone : ∀ before word, BehindFlag (Text.words command) before word →
        ¬Text.Mentions [word] stderr)
      (h : FirstBehindFlag (Text.words command) (fun _ => True) name) :
      Blamed command stderr name
  | unknown (hnone : ∀ before word, ¬BehindFlag (Text.words command) before word) :
      Blamed command stderr "unknown"

/-! ## Words behind flags -/

section Behind

variable {a b word : String} {words before rest : List String} {ofKind : String → Prop}

theorem mem_interface_flags_iff : a ∈ interfaceFlags ↔ a = "-i" ∨ a = "-o" := by
  simp [interfaceFlags]

/-- A word stands behind the flag in front, or behind one further on. -/
theorem behind_flag_cons : BehindFlag (a :: words) before word ↔
    (before = [] ∧ a ∈ interfaceFlags ∧ words.head? = some word) ∨
      ∃ front, before = a :: front ∧ BehindFlag words front word := by
  constructor
  · rintro ⟨flag, hflag, rest, hsplit⟩
    -- either the flag is the first word itself, or it stands in the words behind it
    cases before with
    | nil =>
        obtain ⟨rfl, rfl⟩ := List.cons.inj hsplit
        exact .inl ⟨rfl, hflag, rfl⟩
    | cons first front =>
        obtain ⟨rfl, rfl⟩ := List.cons.inj hsplit
        exact .inr ⟨front, rfl, flag, hflag, rest, rfl⟩
  · rintro (⟨rfl, hflag, hhead⟩ | ⟨front, rfl, flag, hflag, rest, rfl⟩)
    · obtain ⟨rest, rfl⟩ := List.head?_eq_some_iff.mp hhead
      exact ⟨a, hflag, rest, rfl⟩
    · exact ⟨flag, hflag, rest, rfl⟩

/-- A word of the kind behind the flag in front is the first one. -/
theorem first_behind_flag_here (ha : a ∈ interfaceFlags) (hb : ofKind b) :
    FirstBehindFlag (a :: b :: rest) ofKind word ↔ word = b := by
  have hhere : BehindFlag (a :: b :: rest) [] b := ⟨a, ha, rest, rfl⟩
  constructor
  · rintro ⟨before, hbehind, -, hleast⟩
    have hnil : before = [] := List.length_eq_zero_iff.mp (Nat.le_zero.mp (hleast [] b hhere hb))
    rcases behind_flag_cons.mp hbehind with ⟨-, -, hhead⟩ | ⟨front, hcons, -⟩
    · exact (Option.some.inj hhead).symm
    · rw [hnil] at hcons
      cases hcons
  · rintro rfl
    exact ⟨[], hhere, hb, fun _ _ _ _ => Nat.zero_le _⟩

/-- Where there is none, the first one is further on. -/
theorem first_behind_flag_cons (hnone : ∀ word, a ∈ interfaceFlags → words.head? = some word →
    ¬ofKind word) : FirstBehindFlag (a :: words) ofKind word ↔
      FirstBehindFlag words ofKind word := by
  constructor
  · rintro ⟨before, hbehind, hkind, hleast⟩
    rcases behind_flag_cons.mp hbehind with ⟨-, hflag, hhead⟩ | ⟨front, rfl, hfront⟩
    · -- the first word is no flag before a word of the kind, so the place lies behind it
      exact absurd hkind (hnone word hflag hhead)
    · refine ⟨front, hfront, hkind, ?_⟩
      intro before' word' hbehind' hkind'
      exact Nat.le_of_succ_le_succ
        (hleast (a :: before') word' (behind_flag_cons.mpr (.inr ⟨before', rfl, hbehind'⟩)) hkind')
  · rintro ⟨before, hbehind, hkind, hleast⟩
    refine ⟨a :: before, behind_flag_cons.mpr (.inr ⟨before, rfl, hbehind⟩), hkind, ?_⟩
    intro before' word' hbehind' hkind'
    rcases behind_flag_cons.mp hbehind' with ⟨-, hflag, hhead⟩ | ⟨front, rfl, hfront⟩
    · exact absurd hkind' (hnone word' hflag hhead)
    · exact Nat.succ_le_succ (hleast front word' hfront hkind')

/-- Fewer than two words are no flag with a word behind it. -/
theorem not_behind_flag_of_short
    (hshort : ∀ (a b : String) (rest : List String), words = a :: b :: rest → False) :
    flagged words = [] ∧ ∀ before word, ¬BehindFlag words before word := by
  constructor
  · unfold flagged
    split
    · exact absurd rfl (hshort _ _ _)
    · rfl
  · rintro before word ⟨flag, -, rest, hsplit⟩
    cases before with
    | nil => exact hshort _ _ _ hsplit
    | cons first front => cases front <;> exact hshort _ _ _ hsplit

/-- The words that are read are those behind flags. The induction is that of the reading, which
takes two words at a time. -/
theorem mem_flagged_iff : word ∈ flagged words ↔ ∃ before, BehindFlag words before word := by
  -- the cases of `flagged`: a flag with a word behind it, another word, too few words.
  -- After a flag the search goes on at the very next word, which may be a flag again.
  induction words using flagged.induct with
  | case1 a b rest hflag ih =>
      have hmem : a ∈ interfaceFlags := mem_interface_flags_iff.mpr hflag
      rw [flagged, if_pos hflag, List.mem_cons, ih]
      constructor
      · rintro (rfl | ⟨front, hfront⟩)
        · exact ⟨[], a, hmem, rest, rfl⟩
        · exact ⟨a :: front, behind_flag_cons.mpr (.inr ⟨front, rfl, hfront⟩)⟩
      · rintro ⟨before, hbehind⟩
        rcases behind_flag_cons.mp hbehind with ⟨-, -, hhead⟩ | ⟨front, -, hfront⟩
        · exact .inl (Option.some.inj hhead).symm
        · exact .inr ⟨front, hfront⟩
  | case2 a b rest hflag ih =>
      rw [flagged, if_neg hflag, ih]
      constructor
      · rintro ⟨front, hfront⟩
        exact ⟨a :: front, behind_flag_cons.mpr (.inr ⟨front, rfl, hfront⟩)⟩
      · rintro ⟨before, hbehind⟩
        rcases behind_flag_cons.mp hbehind with ⟨-, hmem, -⟩ | ⟨front, -, hfront⟩
        · exact absurd (mem_interface_flags_iff.mp hmem) hflag
        · exact ⟨front, hfront⟩
  | case3 words hshort =>
      obtain ⟨hnil, hnone⟩ := not_behind_flag_of_short hshort
      rw [hnil]
      refine iff_of_false List.not_mem_nil ?_
      rintro ⟨before, hbehind⟩
      exact hnone before word hbehind

/-- Of the words behind flags, the first one that passes a test is found. The induction is that of
the reading of the words, two at a time. -/
theorem find_flagged_iff {test : String → Bool} :
    (flagged words).find? test = some word ↔ FirstBehindFlag words (test · = true) word := by
  induction words using flagged.induct with
  | case1 a b rest hflag ih =>
      have hmem : a ∈ interfaceFlags := mem_interface_flags_iff.mpr hflag
      -- the word here is taken when it passes the test; else it is no word of the kind and
      -- the search is the one behind it
      rw [flagged, if_pos hflag, List.find?_cons]
      cases htest : test b with
      | true =>
          rw [first_behind_flag_here hmem htest]
          exact ⟨fun h => (Option.some.inj h).symm, fun h => congrArg some h.symm⟩
      | false =>
          rw [first_behind_flag_cons, ← ih]
          intro word _ hhead
          obtain rfl : b = word := Option.some.inj hhead
          exact Bool.eq_false_iff.mp htest
  | case2 a b rest hflag ih =>
      rw [flagged, if_neg hflag, first_behind_flag_cons, ih]
      exact fun _ hmem => absurd (mem_interface_flags_iff.mp hmem) hflag
  | case3 words hshort =>
      obtain ⟨hnil, hnone⟩ := not_behind_flag_of_short hshort
      rw [hnil]
      refine iff_of_false (Option.some_ne_none word).symm ?_
      rintro ⟨before, hbehind, -⟩
      exact hnone before word hbehind

end Behind

section Blamed

variable {command stderr name : String}

/-- A word is mentioned if it occurs. -/
theorem occurs_iff_mentions {word : String} :
    Text.occursIn word stderr = true ↔ Text.Mentions [word] stderr := by
  simp [Text.Mentions, Text.occursIn, Text.occursInChars_iff]

theorem find_mentioned_iff {words : List String} :
    (flagged words).find? (Text.occursIn · stderr) = some name ↔
      FirstBehindFlag words (fun word => Text.Mentions [word] stderr) name := by
  rw [find_flagged_iff]
  simp only [occurs_iff_mentions]

theorem head_flagged_iff {words : List String} :
    (flagged words).head? = some name ↔ FirstBehindFlag words (fun _ => True) name := by
  have hhead : (flagged words).head? = (flagged words).find? fun _ => true := by
    cases flagged words <;> rfl
  rw [hhead, find_flagged_iff]
  simp only [eq_self]

/-- The interface that is blamed, by what is found of the words behind flags. -/
theorem blamed_missingInterface (command stderr : String) :
    Blamed command stderr (missingInterface command stderr) := by
  unfold missingInterface
  dsimp only
  -- a flagged word that the message names comes first, then the first flagged word, then
  -- none at all: the three constructors of `Blamed`
  cases hfind : (flagged (Text.words command)).find? (Text.occursIn · stderr) with
  | some name => exact .mentioned (find_mentioned_iff.mp hfind)
  | none =>
      cases hhead : (flagged (Text.words command)).head? with
      | none =>
          have hnil := List.head?_eq_none_iff.mp hhead
          have hnone : ∀ before word, ¬BehindFlag (Text.words command) before word := by
            intro before word hbehind
            have hmem := mem_flagged_iff.mpr ⟨before, hbehind⟩
            rw [hnil] at hmem
            exact List.not_mem_nil hmem
          rw [hnil]
          exact .unknown hnone
      | some name =>
          have hnone : ∀ before word, BehindFlag (Text.words command) before word →
              ¬Text.Mentions [word] stderr := by
            intro before word hbehind
            rw [← occurs_iff_mentions]
            exact List.find?_eq_none.mp hfind word (mem_flagged_iff.mpr ⟨before, hbehind⟩)
          have hfirst : (flagged (Text.words command)).headD "unknown" = name := by
            rw [List.headD_eq_head?_getD, hhead]
            rfl
          rw [hfirst]
          exact .first hnone (head_flagged_iff.mp hhead)

/-- There is one interface that is blamed: the name in the error. -/
theorem missingInterface_eq_iff :
    missingInterface command stderr = name ↔ Blamed command stderr name := by
  constructor
  · rintro rfl
    exact blamed_missingInterface command stderr
  · intro h
    unfold missingInterface
    dsimp only
    cases h with
    | mentioned h => rw [find_mentioned_iff.mpr h]
    | first hnone h =>
        have hfind : (flagged (Text.words command)).find? (Text.occursIn · stderr) = none := by
          rw [List.find?_eq_none]
          intro word hword
          obtain ⟨before, hbehind⟩ := mem_flagged_iff.mp hword
          rw [occurs_iff_mentions]
          exact hnone before word hbehind
        rw [hfind]
        dsimp only
        rw [List.headD_eq_head?_getD, head_flagged_iff.mpr h]
        rfl
    | unknown hnone =>
        have hnil : flagged (Text.words command) = [] := by
          rw [List.eq_nil_iff_forall_not_mem]
          intro word hword
          obtain ⟨before, hbehind⟩ := mem_flagged_iff.mp hword
          exact hnone before word hbehind
        rw [hnil]
        rfl

end Blamed

/-! ## Commands for rules -/

section Rules

variable {program command name : String} {words : List String} {rule : Rule} {action : Action}

/-- Without a flag there is no word behind one. -/
theorem flagged_of_no_flags (h : ∀ word ∈ words, word ∉ interfaceFlags) : flagged words = [] := by
  rw [List.eq_nil_iff_forall_not_mem]
  intro word hword
  obtain ⟨before, flag, hflag, rest, hsplit⟩ := mem_flagged_iff.mp hword
  refine h flag ?_ hflag
  rw [hsplit]
  exact List.mem_append_right before List.mem_cons_self

/-- A word that is no flag itself is read once, if it stands behind a flag. -/
theorem flagged_behind {flag : String} (hflag : flag ∈ interfaceFlags)
    (hname : name ∉ interfaceFlags) (rest : List String) :
    flagged (flag :: name :: rest) = name :: flagged rest := by
  rw [mem_interface_flags_iff, not_or] at hname
  rw [flagged, if_pos (mem_interface_flags_iff.mp hflag), flagged_cons hname.1 hname.2]

/-- The words of a command for a rule. -/
theorem words_describe (program : String) (h : rule.Plain) (action : Action) :
    Text.words (describe program rule action) =
      Text.words program ++ rule.commandArgs action.flag := by
  unfold describe
  rw [Text.words_append, Text.words_joinWords (h.isWord_commandArgs action)]

/-- Of these, only those behind the chain can stand behind flags. -/
theorem flagged_describe_of_args (h : rule.Plain)
    (hprogram : ∀ word ∈ Text.words program, word ∉ interfaceFlags)
    (hchain : rule.chain ∉ interfaceFlags) (action : Action) :
    flagged (Text.words (describe program rule action)) = flagged rule.args := by
  have hfront : flagged (Text.words program ++ ["-t"]) = [] :=
    flagged_of_no_flags (List.forall_mem_append.mpr ⟨hprogram, by decide⟩)
  have htable : rule.table.name ≠ "-i" ∧ rule.table.name ≠ "-o" := by
    cases rule.table <;> decide
  have hflag : action.flag ≠ "-i" ∧ action.flag ≠ "-o" := by
    cases action <;> decide
  rw [mem_interface_flags_iff, not_or] at hchain
  rw [words_describe program h]
  unfold Rule.commandArgs
  -- neither the words before the rule's arguments nor its chain are flags
  rw [flagged_append (by decide) (by decide), hfront, List.nil_append,
    flagged_cons htable.1 htable.2, flagged_cons hflag.1 hflag.2, flagged_cons hchain.1 hchain.2]

/-- Where one word stands behind a flag, that is the name in the error. -/
theorem missingInterface_of_flagged (h : flagged (Text.words command) = [name]) (stderr : String) :
    missingInterface command stderr = name := by
  unfold missingInterface
  dsimp only
  rw [h]
  cases hoccurs : Text.occursIn name stderr <;> simp [hoccurs]

end Rules

end FirewallCommand

/-- An error about a missing interface names one that the command names. -/
theorem Outcome.Means.missing {outcome : Outcome} {program command name : String}
    (h : Means program command outcome (.interfaceNotFound name)) :
    ∃ stderr, FirewallCommand.missingInterface command stderr = name := by
  cases h with
  | failed hfailed hcomplains =>
      cases hcomplains with
      | device hprivilege hdevice => exact ⟨_, rfl⟩

/-- The errors for a rule name one interface and no other one. -/
structure NamesInterface (program : String) (rule : Rule) (name : String) : Prop where
  /-- A complaint about a missing interface is taken to be about this one, -/
  classified : ∀ action stderr, ¬Text.Mentions FirewallCommand.permissionPhrases stderr →
    Text.Mentions FirewallCommand.noDevicePhrases stderr →
      FirewallCommand.classify (FirewallCommand.describe program rule action) stderr =
        .interfaceNotFound name
  /-- and no end of a run to be about another one, for a change -/
  changed : ∀ action outcome other, FirewallCommand.changeAnswer program
    (FirewallCommand.describe program rule action) outcome = .error (.interfaceNotFound other) →
      other = name
  /-- and for a check. -/
  checked : ∀ outcome other, FirewallCommand.checkAnswer program
    (FirewallCommand.describe program rule .check) outcome = .error (.interfaceNotFound other) →
      other = name

namespace FirewallCommand

variable {program name : String} {rule : Rule}

theorem names_interface_of_args (h : rule.Plain)
    (hprogram : ∀ word ∈ Text.words program, word ∉ interfaceFlags)
    (hchain : rule.chain ∉ interfaceFlags) (hargs : flagged rule.args = [name]) :
    NamesInterface program rule name := by
  have hname : ∀ action stderr,
      missingInterface (describe program rule action) stderr = name := by
    intro action stderr
    refine missingInterface_of_flagged ?_ stderr
    rw [flagged_describe_of_args h hprogram hchain, hargs]
  constructor
  · intro action stderr hprivilege hdevice
    rw [← hname action stderr]
    exact classify_eq_iff.mpr (.device hprivilege hdevice)
  · intro action outcome other hanswer
    obtain ⟨stderr, hother⟩ := (changeAnswer_eq_error_iff.mp hanswer).missing
    exact hother.symm.trans (hname action stderr)
  · intro outcome other hanswer
    obtain ⟨stderr, hother⟩ := (checkAnswer_eq_error_iff.mp hanswer).1.missing
    exact hother.symm.trans (hname .check stderr)

end FirewallCommand

/-! ## Configurations -/

/-- The text of a subnet is no flag. -/
theorem Subnet.text_not_flag (subnet : Subnet) :
    subnet.text ∉ FirewallCommand.interfaceFlags := by
  intro hmem
  have hdash : '-' ∈ subnet.text.toList := by
    rcases FirewallCommand.mem_interface_flags_iff.mp hmem with h | h <;> rw [h] <;> decide
  rcases subnet.mem_text hdash with h | h | h <;> exact absurd h (by decide)

/-- The errors for the rules of a proper configuration name its interfaces: the TAP interface for
those that accept, the uplink for the one that masquerades. -/
structure NatConfig.NamesInterfaces (config : NatConfig) (program : String) : Prop where
  accept_to : NamesInterface program (.acceptTo config.tap) config.tap
  accept_from : NamesInterface program (.acceptFrom config.tap) config.tap
  masquerade : NamesInterface program (.masquerade config.subnet config.uplink) config.uplink

theorem NatConfig.names_interfaces {config : NatConfig} (hcheck : config.check = .ok ())
    (hnames : ∀ name ∈ [config.tap, config.uplink], name ∉ FirewallCommand.interfaceFlags)
    {program : String}
    (hprogram : ∀ word ∈ Text.words program, word ∉ FirewallCommand.interfaceFlags) :
    config.NamesInterfaces program := by
  have hplain := config.plain_rules hcheck
  rw [config.rules_eq] at hplain
  have htap := hnames config.tap (by simp)
  have huplink := hnames config.uplink (by simp)
  have hsubnet : config.subnet.text ≠ "-i" ∧ config.subnet.text ≠ "-o" :=
    not_or.mp (config.subnet.text_not_flag ∘ FirewallCommand.mem_interface_flags_iff.mpr)
  have hforward : "FORWARD" ∉ FirewallCommand.interfaceFlags := by decide
  have hpostrouting : "POSTROUTING" ∉ FirewallCommand.interfaceFlags := by decide
  constructor
  · refine FirewallCommand.names_interface_of_args (hplain _ (by simp)) hprogram hforward ?_
    exact FirewallCommand.flagged_behind (by decide) htap ["-j", "ACCEPT"]
  · refine FirewallCommand.names_interface_of_args (hplain _ (by simp)) hprogram hforward ?_
    exact FirewallCommand.flagged_behind (by decide) htap ["-j", "ACCEPT"]
  · refine FirewallCommand.names_interface_of_args (hplain _ (by simp)) hprogram hpostrouting ?_
    unfold Rule.masquerade
    rw [FirewallCommand.flagged_cons (by decide) (by decide),
      FirewallCommand.flagged_cons hsubnet.1 hsubnet.2]
    exact FirewallCommand.flagged_behind (by decide) huplink ["-j", "MASQUERADE"]

/-- **A missing interface is named.** Where the firewall command complains about a missing interface
and not about privilege, the error names the first word behind a flag for an interface that the
complaint mentions, or else the first one, or else none that is known. For the rules of a proper
configuration whose interfaces are not named like such flags, run by a program without them, that is
the interface of the rule, whatever else is said and whatever was to be done with the rule. -/
theorem missing_interface_is_blamed :
    (∀ command stderr, ¬Text.Mentions FirewallCommand.permissionPhrases stderr →
      Text.Mentions FirewallCommand.noDevicePhrases stderr → ∃ name,
        FirewallCommand.classify command stderr = .interfaceNotFound name ∧
          ∀ other, FirewallCommand.Blamed command stderr other ↔ other = name) ∧
    (∀ (config : NatConfig) (program : String), config.check = .ok () →
      (∀ name ∈ [config.tap, config.uplink], name ∉ FirewallCommand.interfaceFlags) →
        (∀ word ∈ Text.words program, word ∉ FirewallCommand.interfaceFlags) →
          config.NamesInterfaces program) := by
  refine ⟨?_, fun config program hcheck hnames => config.names_interfaces hcheck hnames⟩
  intro command stderr hprivilege hdevice
  -- the blamed word is a function of the two texts, hence the only one
  refine ⟨_, FirewallCommand.classify_eq_iff.mpr (.device hprivilege hdevice), ?_⟩
  intro other
  rw [← FirewallCommand.missingInterface_eq_iff]
  exact eq_comm

/-- Names that are parts of other words, and a complaint that mentions more than one of them. -/
theorem missing_interface_is_blamed_of_short_names :
    FirewallCommand.classify
      (FirewallCommand.describe "nice -n 5 iptables" (.acceptFrom "t") .append)
        "Cannot find device \"eth9\"" = .interfaceNotFound "t" ∧
    FirewallCommand.classify "-i -o lo -o eth9" "No such device: eth9" =
      .interfaceNotFound "eth9" := by
  have hdevice : Text.Mentions FirewallCommand.noDevicePhrases "Cannot find device \"eth9\"" :=
    FirewallCommand.saysNoDevice_iff.mp (by decide +kernel)
  have hprivilege :
      ¬Text.Mentions FirewallCommand.permissionPhrases "Cannot find device \"eth9\"" :=
    FirewallCommand.saysPermission_iff.not.mp (by decide +kernel)
  have hnames := missing_interface_is_blamed.2 { tap := "t", uplink := "e" } "nice -n 5 iptables"
    (by decide +kernel) (by decide +kernel) (by decide +kernel)
  refine ⟨hnames.accept_from.classified .append _ hprivilege hdevice, ?_⟩
  obtain ⟨name, hclassify, hblamed⟩ :=
    missing_interface_is_blamed.1 "-i -o lo -o eth9" "No such device: eth9"
      (FirewallCommand.saysPermission_iff.not.mp (by decide +kernel))
      (FirewallCommand.saysNoDevice_iff.mp (by decide +kernel))
  have hname : FirewallCommand.Blamed "-i -o lo -o eth9" "No such device: eth9" "eth9" :=
    FirewallCommand.missingInterface_eq_iff.mp (by decide +kernel)
  rw [hclassify, ← (hblamed "eth9").mp hname]

end GuestNat
