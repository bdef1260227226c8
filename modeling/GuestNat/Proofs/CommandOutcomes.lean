import GuestNat.Proofs.Systems

/-!
# What the end of a firewall command means

Every way in which a run of the firewall command can end, for any program and any rule: which ends
are successes, which one says that the rule is not there, and which error all others stand for.

* `Text.Mentions`: some of the phrases occur in a text;
* `Outcome.SearchedInVain`: the command has searched the chain and found no such rule;
* `Outcome.Means`: the error that an end stands for, with the order of the phrases;
* `FirewallCommand.changeAnswer_eq_error_iff`, `FirewallCommand.checkAnswer_eq_error_iff`: the
  errors of a change and of a check are the same ones;
* `FirewallCommand.missingInterface_describe`: the interface that an error names does not depend on
  what was to be done with the rule;
* `Classified`, `classified`: all of this for one rule and one end.
-/

namespace GuestNat

/-- Some of the phrases occur in the text. -/
def Text.Mentions (phrases : List String) (text : String) : Prop :=
  ∃ phrase ∈ phrases, phrase.toList <:+: text.toList

namespace FirewallCommand

/-- The phrases by which the command complains about privilege. -/
def permissionPhrases : List String :=
  ["Permission denied", "must be root", "Operation not permitted"]

/-- The phrases by which it says that no rule matches. -/
def noMatchPhrases : List String := ["Bad rule", "does a matching rule exist"]

/-- The phrases by which it complains about an interface. -/
def noDevicePhrases : List String := ["No such device", "Cannot find device"]

section Phrases

variable {stderr : String}

theorem saysPermission_iff : saysPermission stderr = true ↔
    Text.Mentions permissionPhrases stderr := by
  simp [saysPermission, Text.Mentions, permissionPhrases, Text.occursIn, Text.occursInChars_iff,
    or_assoc]

theorem saysNoMatch_iff : saysNoMatch stderr = true ↔ Text.Mentions noMatchPhrases stderr := by
  simp [saysNoMatch, Text.Mentions, noMatchPhrases, Text.occursIn, Text.occursInChars_iff]

theorem saysNoDevice_iff : saysNoDevice stderr = true ↔ Text.Mentions noDevicePhrases stderr := by
  simp [saysNoDevice, Text.Mentions, noDevicePhrases, Text.occursIn, Text.occursInChars_iff]

/-- The error that the words of a failed run stand for. A complaint about privilege counts before
one about an interface, and that before all others. -/
inductive Complains (command stderr : String) : HostError → Prop
  | privilege (hprivilege : Text.Mentions permissionPhrases stderr) :
      Complains command stderr .permissionDenied
  | device (hprivilege : ¬Text.Mentions permissionPhrases stderr)
      (hdevice : Text.Mentions noDevicePhrases stderr) :
      Complains command stderr (.interfaceNotFound (missingInterface command stderr))
  | other (hprivilege : ¬Text.Mentions permissionPhrases stderr)
      (hdevice : ¬Text.Mentions noDevicePhrases stderr) :
      Complains command stderr (.ruleRejected command (Text.trim stderr))

theorem classify_eq_iff {command : String} {error : HostError} :
    classify command stderr = error ↔ Complains command stderr error := by
  unfold classify
  constructor
  · rintro rfl
    -- the three branches of `classify` are the three kinds of complaint, asked for in order
    split
    · next hprivilege => exact .privilege (saysPermission_iff.mp hprivilege)
    · next hprivilege =>
        rw [saysPermission_iff] at hprivilege
        split
        · next hdevice => exact .device hprivilege (saysNoDevice_iff.mp hdevice)
        · next hdevice => exact .other hprivilege (hdevice ∘ saysNoDevice_iff.mpr)
  · intro h
    cases h with
    | privilege hprivilege => rw [if_pos (saysPermission_iff.mpr hprivilege)]
    | device hprivilege hdevice =>
        rw [if_neg (hprivilege ∘ saysPermission_iff.mp), if_pos (saysNoDevice_iff.mpr hdevice)]
    | other hprivilege hdevice =>
        rw [if_neg (hprivilege ∘ saysPermission_iff.mp), if_neg (hdevice ∘ saysNoDevice_iff.mp)]

end Phrases

end FirewallCommand

/-! ## Ends of a run -/

namespace Outcome

/-- The command has run and failed, with these words. -/
inductive Failed : Outcome → String → Prop
  | status {status : Nat} {stderr : Bytes} (hstatus : status ≠ 0) :
      Failed (.exited status stderr) (Text.Utf8.decodeLossy stderr)
  | signal {signal : Nat} {stderr : Bytes} :
      Failed (.killed signal stderr) (Text.Utf8.decodeLossy stderr)

/-- The command has searched the chain and found no such rule: it says so, and it does not complain
about privilege. -/
def SearchedInVain (outcome : Outcome) : Prop :=
  ∃ bytes, outcome = .exited 1 bytes ∧
    ¬Text.Mentions FirewallCommand.permissionPhrases (Text.Utf8.decodeLossy bytes) ∧
    Text.Mentions FirewallCommand.noMatchPhrases (Text.Utf8.decodeLossy bytes)

/-- The error that the end of a run stands for. -/
inductive Means (program command : String) : Outcome → HostError → Prop
  | noProgram : Means program command (.notStarted .notFound)
      (.unsupportedPlatform (program ++ " not found; is iptables installed?"))
  | mayNotStart : Means program command (.notStarted .permissionDenied) .permissionDenied
  | notStarted {cause : OsError} (hfound : cause ≠ .notFound)
      (hpermitted : cause ≠ .permissionDenied) :
      Means program command (.notStarted cause) (.commandFailed command cause.message)
  | failed {outcome : Outcome} {stderr : String} {error : HostError}
      (hfailed : outcome.Failed stderr)
      (hcomplains : FirewallCommand.Complains command stderr error) :
      Means program command outcome error

variable {outcome : Outcome} {program command stderr : String} {error : HostError}

/-- A run does not begin, succeeds or fails. -/
theorem trichotomy (outcome : Outcome) : (∃ cause, outcome = .notStarted cause) ∨
    outcome.Succeeded ∨ ∃ stderr, outcome.Failed stderr := by
  cases outcome with
  | notStarted cause => exact .inl ⟨cause, rfl⟩
  | exited status stderr =>
      cases status with
      | zero => exact .inr (.inl ⟨stderr, rfl⟩)
      | succ n => exact .inr (.inr ⟨_, .status (Nat.succ_ne_zero n)⟩)
  | killed signal stderr => exact .inr (.inr ⟨_, .signal⟩)

theorem Failed.not_succeeded (h : outcome.Failed stderr) : ¬outcome.Succeeded := by
  rintro ⟨bytes, rfl⟩
  cases h with
  | status hstatus => exact hstatus rfl

/-- There is one text that it failed with. -/
theorem Failed.unique {words : String} (h : outcome.Failed stderr) (h' : outcome.Failed words) :
    words = stderr := by
  cases h <;> cases h' <;> rfl

/-- An end that stands for an error is no success. -/
theorem Means.not_succeeded (h : Means program command outcome error) : ¬outcome.Succeeded := by
  cases h with
  | failed hfailed _ => exact hfailed.not_succeeded
  | _ =>
      rintro ⟨bytes, hbytes⟩
      cases hbytes

end Outcome

namespace FirewallCommand

variable {outcome : Outcome} {program command : String} {error : HostError}

theorem startError_eq_iff {cause : OsError} : startError program command cause = error ↔
    Outcome.Means program command (.notStarted cause) error := by
  constructor
  · rintro rfl
    -- two causes have a meaning of their own, every other one is passed on
    cases cause with
    | notFound => exact .noProgram
    | permissionDenied => exact .mayNotStart
    | _ => exact .notStarted nofun nofun
  · intro h
    cases h with
    | noProgram => rfl
    | mayNotStart => rfl
    | notStarted hfound hpermitted =>
        cases cause with
        | notFound => exact absurd rfl hfound
        | permissionDenied => exact absurd rfl hpermitted
        | _ => rfl
    | failed hfailed _ => cases hfailed

/-- The error of a run that failed is the one that its words stand for. -/
theorem classify_eq_iff_means {stderr : String} (h : outcome.Failed stderr) :
    classify command stderr = error ↔ outcome.Means program command error := by
  rw [classify_eq_iff]
  constructor
  · exact .failed h
  · intro hmeans
    cases hmeans with
    | failed hfailed hcomplains =>
        obtain rfl := h.unique hfailed
        exact hcomplains
    | _ => cases h

theorem changeAnswer_of_failed {stderr : String} (h : outcome.Failed stderr) :
    changeAnswer program command outcome = .error (classify command stderr) := by
  cases h with
  | @status status _ hstatus =>
      cases status with
      | zero => exact absurd rfl hstatus
      | succ n => rfl
  | signal => rfl

theorem checkAnswer_of_searched (h : outcome.SearchedInVain) :
    checkAnswer program command outcome = .ok false := by
  obtain ⟨bytes, rfl, hprivilege, hwords⟩ := h
  refine checkAnswer_of_words program command (saysNoMatch_iff.mpr hwords) ?_
  exact Bool.eq_false_iff.mpr (hprivilege ∘ saysPermission_iff.mp)

/-- Any other failure is an error, and the same one as that of a change. -/
theorem checkAnswer_of_failed {stderr : String} (h : outcome.Failed stderr)
    (hsearched : ¬outcome.SearchedInVain) :
    checkAnswer program command outcome = .error (classify command stderr) := by
  cases h with
  | @status status bytes hstatus =>
      cases status with
      | zero => exact absurd rfl hstatus
      -- only status 1 can be a search in vain, and this one is none
      | succ n =>
          refine if_neg ?_
          rintro ⟨hone, hwords, hprivilege⟩
          refine hsearched ⟨bytes, ?_, ?_, saysNoMatch_iff.mp hwords⟩
          · rw [hone]
            rfl
          · intro hmentions
            rw [saysPermission_iff.mpr hmentions] at hprivilege
            cases hprivilege
  | signal => rfl

/-- A change is made exactly by a run that succeeds. -/
theorem changeAnswer_eq_ok_iff : changeAnswer program command outcome = .ok () ↔
    outcome.Succeeded := by
  constructor
  · intro h
    rcases outcome.trichotomy with ⟨cause, rfl⟩ | hsucceeded | ⟨stderr, hfailed⟩
    · cases h
    · exact hsucceeded
    · rw [changeAnswer_of_failed hfailed] at h
      cases h
  · exact changeAnswer_of_succeeded program command

/-- Every other end is an error, namely the one that it stands for. -/
theorem changeAnswer_eq_error_iff : changeAnswer program command outcome = .error error ↔
    outcome.Means program command error := by
  rcases outcome.trichotomy with ⟨cause, rfl⟩ | hsucceeded | ⟨stderr, hfailed⟩
  · rw [← startError_eq_iff, changeAnswer, Except.error.injEq]
  · rw [changeAnswer_of_succeeded program command hsucceeded]
    exact iff_of_false nofun fun hmeans => hmeans.not_succeeded hsucceeded
  · rw [changeAnswer_of_failed hfailed, ← classify_eq_iff_means hfailed, Except.error.injEq]

/-- A rule is found exactly by a run that succeeds. -/
theorem checkAnswer_eq_true_iff : checkAnswer program command outcome = .ok true ↔
    outcome.Succeeded := by
  constructor
  · intro h
    rcases outcome.trichotomy with ⟨cause, rfl⟩ | hsucceeded | ⟨stderr, hfailed⟩
    · cases h
    · exact hsucceeded
    · by_cases hsearched : outcome.SearchedInVain
      · rw [checkAnswer_of_searched hsearched] at h
        cases h
      · rw [checkAnswer_of_failed hfailed hsearched] at h
        cases h
  · exact checkAnswer_of_succeeded program command

/-- It is missing exactly if the chain has been searched in vain. -/
theorem checkAnswer_eq_false_iff : checkAnswer program command outcome = .ok false ↔
    outcome.SearchedInVain := by
  constructor
  · intro h
    rcases outcome.trichotomy with ⟨cause, rfl⟩ | hsucceeded | ⟨stderr, hfailed⟩
    · cases h
    · rw [checkAnswer_of_succeeded program command hsucceeded] at h
      cases h
    · by_contra hsearched
      rw [checkAnswer_of_failed hfailed hsearched] at h
      cases h
  · exact checkAnswer_of_searched

/-- Every other end is the same error as that of a change. -/
theorem checkAnswer_eq_error_iff : checkAnswer program command outcome = .error error ↔
    outcome.Means program command error ∧ ¬outcome.SearchedInVain := by
  by_cases hsearched : outcome.SearchedInVain
  · rw [checkAnswer_of_searched hsearched]
    exact iff_of_false (by simp) fun h => h.2 hsearched
  · rw [and_iff_left hsearched, ← changeAnswer_eq_error_iff]
    rcases outcome.trichotomy with ⟨cause, rfl⟩ | hsucceeded | ⟨stderr, hfailed⟩
    · rw [checkAnswer, changeAnswer, Except.error.injEq, Except.error.injEq]
    · rw [checkAnswer_of_succeeded program command hsucceeded,
        changeAnswer_of_succeeded program command hsucceeded]
      exact iff_of_false (by simp) (by simp)
    · rw [checkAnswer_of_failed hfailed hsearched, changeAnswer_of_failed hfailed,
        Except.error.injEq, Except.error.injEq]

end FirewallCommand

/-! ## Checks and changes of one rule -/

namespace Text

theorem wordChars_ne_nil {cs : List Char} (h : startsWord cs = true) : wordChars cs ≠ [] := by
  cases cs with
  | nil => cases h
  | cons c cs =>
      have hc : isBlank c = false := by simpa [startsWord] using h
      unfold wordChars
      rw [if_neg (Bool.eq_false_iff.mp hc)]
      split
      · cases wordChars cs <;> simp [extendFirst]
      · simp

/-- A blank ends a word, whatever stands before it and behind it. -/
theorem wordChars_blank {c : Char} (hc : isBlank c = true) (front rest : List Char) :
    wordChars (front ++ c :: rest) = wordChars front ++ wordChars rest := by
  induction front with
  | nil => simp [wordChars, hc]
  | cons d front ih =>
      -- the blank is no part of a word that the characters before it may be in
      have hstarts : startsWord (front ++ c :: rest) = startsWord front := by
        cases front with
        | nil => simp [startsWord, hc]
        | cons e front => rfl
      rw [List.cons_append, wordChars, wordChars, hstarts, ih]
      split
      · rfl
      · split
        · next hword =>
            obtain ⟨w, ws, hws⟩ := List.exists_cons_of_ne_nil (wordChars_ne_nil hword)
            rw [hws]
            rfl
        · rfl

/-- The words of two texts with a blank between them. -/
theorem words_append (front rest : String) : words (front ++ " " ++ rest) =
    words front ++ words rest := by
  have hblank : isBlank ' ' = true := rfl
  unfold words
  rw [String.toList_append, String.toList_append, ← List.map_append, List.append_assoc]
  exact congrArg _ (wordChars_blank hblank front.toList rest.toList)

end Text

namespace FirewallCommand

/-- A word that is no flag for an interface is of no consequence for the next one. -/
theorem flagged_cons {word : String} (hi : word ≠ "-i") (ho : word ≠ "-o") (rest : List String) :
    flagged (word :: rest) = flagged rest := by
  cases rest with
  | nil => rfl
  | cons next rest => rw [flagged, if_neg (not_or.mpr ⟨hi, ho⟩)]

/-- Such a word separates those in front of it from those behind it. -/
theorem flagged_append {word : String} (hi : word ≠ "-i") (ho : word ≠ "-o")
    (front rest : List String) :
    flagged (front ++ word :: rest) = flagged (front ++ [word]) ++ flagged rest := by
  induction front with
  | nil => exact flagged_cons hi ho rest
  | cons a front ih =>
      -- `flagged` looks at two words at a time, so the front must be split twice before it unfolds
      cases front with
      | nil =>
          simp only [List.cons_append, List.nil_append, flagged, flagged_cons hi ho]
          split <;> rfl
      | cons b front =>
          simp only [List.cons_append, flagged] at ih ⊢
          split
          · rw [ih, List.cons_append]
          · exact ih

/-- The command as messages show it, with the flag of the action in its place. -/
theorem describe_eq (program : String) (rule : Rule) (action : Action) :
    describe program rule action = program ++ " " ++ "-t" ++ " " ++ rule.table.name ++ " " ++
      action.flag ++ " " ++ Text.joinWords (rule.chain :: rule.args) := by
  unfold describe Rule.commandArgs
  rw [Text.joinWords_cons (by simp), Text.joinWords_cons (by simp), Text.joinWords_cons (by simp)]
  simp only [String.append_assoc]

/-- The flag of the action stands behind the name of a table and is no flag for an interface, so the
words that follow such flags are the same for every action. -/
theorem flagged_describe (program : String) (rule : Rule) (action other : Action) :
    flagged (Text.words (describe program rule action)) =
      flagged (Text.words (describe program rule other)) := by
  have hwords : ∀ action : Action, flagged (Text.words (describe program rule action)) =
      flagged (Text.words program ++ ["-t"]) ++
        flagged (Text.words (Text.joinWords (rule.chain :: rule.args))) := by
    intro action
    have hname : Text.words "-t" = ["-t"] := rfl
    have htable : Text.words rule.table.name = [rule.table.name] ∧ rule.table.name ≠ "-i" ∧
        rule.table.name ≠ "-o" := by
      cases rule.table <;> decide
    have hflag : Text.words action.flag = [action.flag] ∧ action.flag ≠ "-i" ∧
        action.flag ≠ "-o" := by
      cases action <;> decide
    have ht : "-t" ≠ "-i" ∧ "-t" ≠ "-o" := by decide
    simp only [describe_eq, Text.words_append, hname, htable.1, hflag.1, List.append_assoc,
      List.cons_append, List.nil_append]
    rw [flagged_append ht.1 ht.2, flagged_cons htable.2.1 htable.2.2,
      flagged_cons hflag.2.1 hflag.2.2]
  rw [hwords, hwords]

/-- The interface that an error names does not depend on what was to be done with the rule. -/
theorem missingInterface_describe (program : String) (rule : Rule) (action other : Action) :
    missingInterface (describe program rule action) =
      missingInterface (describe program rule other) := by
  unfold missingInterface
  rw [flagged_describe program rule action other]

end FirewallCommand

/-- The error with another command in the place of the one that it quotes, if it quotes one. -/
def HostError.quoting (command : String) : HostError → HostError
  | ruleRejected _ text => ruleRejected command text
  | commandFailed _ text => commandFailed command text
  | error => error

namespace Outcome

variable {outcome : Outcome} {program : String} {rule : Rule} {action : Action} {error : HostError}

/-- An error quotes the command that was run, if any. -/
theorem Means.quotes {command : String} (h : Means program command outcome error) :
    error.quoting command = error := by
  cases h with
  | failed _ hcomplains => cases hcomplains <;> rfl
  | _ => rfl

/-- What was to be done with the rule makes no difference to the error, but for the command that it
quotes. -/
theorem Means.of_other_action
    (h : Means program (FirewallCommand.describe program rule action) outcome error)
    (other : Action) :
    let command := FirewallCommand.describe program rule other
    Means program command outcome (error.quoting command) := by
  intro command
  cases h with
  | noProgram => exact .noProgram
  | mayNotStart => exact .mayNotStart
  | notStarted hfound hpermitted => exact .notStarted hfound hpermitted
  | failed hfailed hcomplains =>
      refine .failed hfailed ?_
      -- only a missing device quotes the command, and the blamed name is the same for every action
      cases hcomplains with
      | privilege hprivilege => exact .privilege hprivilege
      | device hprivilege hdevice =>
          rw [FirewallCommand.missingInterface_describe program rule action other]
          exact .device hprivilege hdevice
      | other hprivilege hdevice => exact .other hprivilege hdevice

end Outcome

/-- What the end of a run for a rule is taken for, whether the rule was looked for or changed. -/
structure Classified (program : String) (rule : Rule) (outcome : Outcome) : Prop where
  /-- A change is made exactly by a run that succeeds, -/
  changed_iff : ∀ action, FirewallCommand.changeAnswer program
    (FirewallCommand.describe program rule action) outcome = .ok () ↔ outcome.Succeeded
  /-- and by such a run exactly a rule is found. -/
  found_iff : FirewallCommand.checkAnswer program
    (FirewallCommand.describe program rule .check) outcome = .ok true ↔ outcome.Succeeded
  /-- It is missing exactly if the chain has been searched in vain. -/
  missing_iff : FirewallCommand.checkAnswer program
    (FirewallCommand.describe program rule .check) outcome = .ok false ↔ outcome.SearchedInVain
  /-- All other ends are errors, -/
  change_fails_iff : ∀ action error, FirewallCommand.changeAnswer program
    (FirewallCommand.describe program rule action) outcome = .error error ↔
      outcome.Means program (FirewallCommand.describe program rule action) error
  check_fails_iff : ∀ error, FirewallCommand.checkAnswer program
    (FirewallCommand.describe program rule .check) outcome = .error error ↔
      outcome.Means program (FirewallCommand.describe program rule .check) error ∧
        ¬outcome.SearchedInVain
  /-- and the error of a check is that of any change, but for the command that is quoted, -/
  fails_alike : ∀ action error, FirewallCommand.checkAnswer program
    (FirewallCommand.describe program rule .check) outcome = .error error →
      error.quoting (FirewallCommand.describe program rule .check) = error ∧
        FirewallCommand.changeAnswer program (FirewallCommand.describe program rule action)
          outcome = .error (error.quoting (FirewallCommand.describe program rule action))
  /-- of which only the flag differs. -/
  quoted_alike : ∃ before after, ∀ action,
    FirewallCommand.describe program rule action = before ++ action.flag ++ after

theorem classified (program : String) (rule : Rule) (outcome : Outcome) :
    Classified program rule outcome where
  changed_iff := fun _ => FirewallCommand.changeAnswer_eq_ok_iff
  found_iff := FirewallCommand.checkAnswer_eq_true_iff
  missing_iff := FirewallCommand.checkAnswer_eq_false_iff
  change_fails_iff := fun _ _ => FirewallCommand.changeAnswer_eq_error_iff
  check_fails_iff := fun _ => FirewallCommand.checkAnswer_eq_error_iff
  fails_alike := by
    intro action error herror
    obtain ⟨hmeans, -⟩ := FirewallCommand.checkAnswer_eq_error_iff.mp herror
    exact ⟨hmeans.quotes, FirewallCommand.changeAnswer_eq_error_iff.mpr
      (hmeans.of_other_action action)⟩
  quoted_alike := by
    refine ⟨program ++ " " ++ "-t" ++ " " ++ rule.table.name ++ " ",
      " " ++ Text.joinWords (rule.chain :: rule.args), ?_⟩
    intro action
    rw [FirewallCommand.describe_eq, ← String.append_assoc]

end GuestNat
