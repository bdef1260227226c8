import GuestNat.Proofs.CallLimits
import GuestNat.Proofs.RemovalInFull
import GuestNat.Proofs.RuleCalls

/-!
# The loop of a removal

A removal looks for a rule and deletes it for as long as the host says that it is there. Nothing
makes the host ever say otherwise, so what ends the loop is the count of the deletions alone.

* `RemovalLoop`: the loop, with no bound to its rounds but the test of the count;
* `removal_loop_iff`: from a count within the limit it ends on every host, and in one way only;
* `callsAbout`: the calls about a rule;
* `RemovalLoop.calls`: a loop that comes to a number makes the calls of a removal;
* `TookAway.outcome_eq`, `TookAway.not_present`: what an outcome tells of these calls.
-/

namespace GuestNat

variable {σ : Type}

/-! ## The loop -/

/-- A way through the loop from a count of deletions and a state of the host, to the value that is
returned, the state that is left and what happened. The count is tested for being the limit. -/
inductive RemovalLoop (host : Host σ) (step : Step) (rule : Rule) :
    Nat → σ → Except SetupError Nat → σ → List Occurrence → Prop
  | unanswered {removed : Nat} {s : σ} {look : Response σ Bool} {cause : HostError}
      (hlook : host.ask (.rule rule) s = look) (hreply : look.reply = .error cause) :
      RemovalLoop host step rule removed s (.error (.stepFailed step cause)) look.state
        (look.trace (.asked (.rule rule) (.error cause)))
  | gone {removed : Nat} {s : σ} {look : Response σ Bool}
      (hlook : host.ask (.rule rule) s = look) (hreply : look.reply = .ok false) :
      RemovalLoop host step rule removed s (.ok removed) look.state
        (look.trace (.asked (.rule rule) (.ok false)))
  | givenUp {removed : Nat} {s : σ} {look : Response σ Bool}
      (hlook : host.ask (.rule rule) s = look) (hreply : look.reply = .ok true)
      (hlimit : removed = Setup.maxRemovals) :
      RemovalLoop host step rule removed s (.ok removed) look.state
        (look.trace (.asked (.rule rule) (.ok true)) ++ [.noted (.givingUp rule removed)])
  | refused {removed : Nat} {s : σ} {look : Response σ Bool} {deletion : Response σ Unit}
      {cause : HostError} (hlook : host.ask (.rule rule) s = look)
      (hreply : look.reply = .ok true) (hlimit : removed ≠ Setup.maxRemovals)
      (hdeletion : host.make (.delete rule) look.state = deletion)
      (hrefused : deletion.reply = .error cause) :
      RemovalLoop host step rule removed s (.error (.stepFailed step cause)) deletion.state
        (look.trace (.asked (.rule rule) (.ok true)) ++
          deletion.trace (.made (.delete rule) (.error cause)))
  | again {removed : Nat} {s s' : σ} {look : Response σ Bool} {deletion : Response σ Unit}
      {v : Except SetupError Nat} {t : List Occurrence} (hlook : host.ask (.rule rule) s = look)
      (hreply : look.reply = .ok true) (hlimit : removed ≠ Setup.maxRemovals)
      (hdeletion : host.make (.delete rule) look.state = deletion)
      (hdeleted : deletion.reply = .ok ())
      (hrest : RemovalLoop host step rule (removed + 1) deletion.state v s' t) :
      RemovalLoop host step rule removed s v s'
        (look.trace (.asked (.rule rule) (.ok true)) ++
          (deletion.trace (.made (.delete rule) (.ok ())) ++ t))

section Loop

variable {host : Host σ} {step : Step} {rule : Rule} {removed : Nat} {s s' s'' : σ}
  {v w : Except SetupError Nat} {t u : List Occurrence}

/-- The host's replies leave no choice. -/
theorem RemovalLoop.unique (h : RemovalLoop host step rule removed s v s' t)
    (h' : RemovalLoop host step rule removed s w s'' u) : v = w ∧ s' = s'' ∧ t = u := by
  -- the host's replies leave one constructor at each turn of the loop
  induction h generalizing w s'' u with
  | unanswered hlook hreply => cases h' <;> simp_all
  | gone hlook hreply => cases h' <;> simp_all
  | givenUp hlook hreply hlimit => cases h' <;> simp_all
  | refused hlook hreply hlimit hdeletion hrefused => cases h' <;> simp_all
  | again hlook hreply hlimit hdeletion hdeleted hrest ih =>
      cases h' with
      | again hlook' _ _ hdeletion' _ hrest' =>
          subst hlook hdeletion hlook' hdeletion'
          obtain ⟨rfl, rfl, rfl⟩ := ih hrest'
          exact ⟨rfl, rfl, rfl⟩
      | _ => simp_all

/-- Copies are removed as by the loop. The induction is on what is left up to the limit: the count
meets the limit just when nothing is left. -/
theorem ends_as_loop {budget removed : Nat} (h : removed + budget = Setup.maxRemovals) :
    (Setup.removeCopies step rule budget removed).run.Ends host s
      (RemovalLoop host step rule removed s) := by
  -- the budget and the removals add up to the limit, so the budget is gone at the limit
  induction budget generalizing s removed with
  | zero =>
      unfold Setup.removeCopies
      rw [Plan.ends_except_bind, Setup.ends_ask]
      generalize hlook : host.ask (.rule rule) s = look
      cases hreply : look.reply with
      | error cause => exact .unanswered hlook hreply
      | ok found =>
          cases found with
          | true => exact .givenUp hlook hreply h
          | false =>
              refine Setup.ends_pure.mpr ?_
              rw [List.append_nil]
              exact .gone hlook hreply
  | succ budget ih =>
      have hlimit : removed ≠ Setup.maxRemovals := by omega
      have hnext : removed + 1 + budget = Setup.maxRemovals := by omega
      unfold Setup.removeCopies
      rw [Plan.ends_except_bind, Setup.ends_ask]
      generalize hlook : host.ask (.rule rule) s = look
      cases hreply : look.reply with
      | error cause => exact .unanswered hlook hreply
      | ok found =>
          cases found with
          | false =>
              refine Setup.ends_pure.mpr ?_
              rw [List.append_nil]
              exact .gone hlook hreply
          | true =>
              refine Plan.ends_except_bind.mpr (Setup.ends_make.mpr ?_)
              generalize hdeletion : host.make (.delete rule) look.state = deletion
              cases hdeleted : deletion.reply with
              | error cause => exact .refused hlook hreply hlimit hdeletion hdeleted
              | ok _ =>
                  refine (ih hnext).mono ?_
                  intro v s' t hrest
                  exact .again hlook hreply hlimit hdeletion hdeleted hrest

/-- The loop ends on every host, and as the removal of copies does. -/
theorem removal_loop_iff {budget removed : Nat} (h : removed + budget = Setup.maxRemovals) :
    RemovalLoop host step rule removed s v s' t ↔
      (Setup.removeCopies step rule budget removed).run.run host s = ⟨v, s', t⟩ := by
  have hloop : RemovalLoop host step rule removed s _ _ _ := ends_as_loop h
  constructor
  · intro hother
    obtain ⟨hv, hs, ht⟩ := hloop.unique hother
    rw [← hv, ← hs, ← ht]
  · intro hrun
    rw [hrun] at hloop
    exact hloop

end Loop

/-! ## The calls about a rule -/

/-- The calls of a trace that are about the rule. -/
def callsAbout (rule : Rule) (trace : List Occurrence) : List Occurrence :=
  trace.filter (·.rule? = some rule)

section CallsAbout

variable {rule : Rule}

@[simp] theorem calls_about_append (t u : List Occurrence) :
    callsAbout rule (t ++ u) = callsAbout rule t ++ callsAbout rule u :=
  List.filter_append t u

@[simp] theorem calls_about_events (events : List Event) :
    callsAbout rule (events.map .noted) = [] := by
  unfold callsAbout
  rw [List.filter_eq_nil_iff]
  intro o ho
  obtain ⟨event, -, rfl⟩ := List.mem_map.mp ho
  simp [Occurrence.rule?]

theorem calls_about_call {ρ : Type} (r : Response σ ρ) {call : Occurrence}
    (hcall : call.rule? = some rule) : callsAbout rule (r.trace call) = [call] := by
  unfold Response.trace
  rw [calls_about_append, calls_about_events, List.nil_append]
  exact List.filter_eq_self.mpr (List.forall_mem_singleton.mpr (decide_eq_true hcall))

/-- Where no call about the rule is counted, there is none. -/
theorem calls_about_of_counted {t : List Occurrence}
    (h : countedIn (·.rule? = some rule) (·.rule? = some rule) t = 0) : callsAbout rule t = [] := by
  obtain ⟨hasked, hmade⟩ := Nat.add_eq_zero_iff.mp h
  rw [List.countP_eq_zero] at hasked hmade
  refine List.filter_eq_nil_iff.mpr ?_
  intro o ho
  cases o with
  | noted event => simp [Occurrence.rule?]
  | asked question reply => exact hasked question (List.mem_filterMap.mpr ⟨_, ho, rfl⟩)
  | made change reply => exact hmade change (List.mem_filterMap.mpr ⟨_, ho, rfl⟩)

theorem mem_calls_about {t : List Occurrence} {o : Occurrence} (ho : o ∈ t)
    (hrule : o.rule? = some rule) : o ∈ callsAbout rule t :=
  List.mem_filter.mpr ⟨ho, decide_eq_true hrule⟩

/-- The deletions of the rule are among the calls about it. -/
theorem count_deletions_about (t : List Occurrence) :
    (changesOf t).count (.delete rule) = (changesOf (callsAbout rule t)).count (.delete rule) := by
  unfold changesOf callsAbout
  rw [List.filterMap_filter, List.count_filterMap, List.count_filterMap]
  refine List.countP_congr ?_
  intro o _
  cases o with
  | made change reply => cases change <;> simp [Occurrence.change?, Occurrence.rule?, Change.rule?]
  | _ => simp [Occurrence.change?]

end CallsAbout

section TookAway

variable {host : Host σ} {step : Step} {rule : Rule}

theorem count_removal_calls (rule : Rule) (copies : Nat) (left : Bool) :
    (changesOf (rule.removalCalls copies left)).count (.delete rule) = copies := by
  rw [changes_of_removal_calls, List.count_replicate_self]

/-- All these deletions are done. -/
theorem reply_of_removal_calls {copies : Nat} {left : Bool} {reply : Reply Unit}
    (h : .made (.delete rule) reply ∈ rule.removalCalls copies left) : reply = .ok () := by
  induction copies with
  | zero => simp [Rule.removalCalls] at h
  | succ copies ih =>
      simp only [Rule.removalCalls, List.mem_cons, reduceCtorEq, false_or] at h
      rcases h with heq | hrest
      · injection heq
      · exact ih hrest

/-- The outcome counts the deletions, and they are done. -/
theorem TookAway.outcome_eq {outcome : StepOutcome} {t : List Occurrence}
    (h : TookAway rule outcome (callsAbout rule t)) :
    outcome = .ofRemovals ((changesOf t).count (.delete rule)) ∧
      ∀ reply, .made (.delete rule) reply ∈ t → reply = .ok () := by
  rw [count_deletions_about]
  generalize hcalls : callsAbout rule t = calls at h
  cases h with
  | copies hlimit hleft =>
      refine ⟨by rw [count_removal_calls], ?_⟩
      intro reply hmem
      have hmem' := mem_calls_about hmem rfl
      rw [hcalls] at hmem'
      exact reply_of_removal_calls hmem'

/-- A rule is said to be not there behind a single look, which has found nothing. -/
theorem TookAway.not_present {calls : List Occurrence} (h : TookAway rule .notPresent calls) :
    calls = [.asked (.rule rule) (.ok false)] := by
  generalize houtcome : StepOutcome.notPresent = outcome at h
  cases h with
  | @copies copies left hlimit hleft =>
      have hnone : copies = 0 := by
        by_contra hcopies
        rw [StepOutcome.ofRemovals, if_neg hcopies] at houtcome
        cases houtcome
      subst hnone
      cases left with
      | true => cases hleft rfl
      | false => rfl

/-- The calls of a loop that comes to a number, by induction on the loop. -/
theorem RemovalLoop.calls {removed n : Nat} {s s' : σ} {t : List Occurrence}
    (h : RemovalLoop host step rule removed s (.ok n) s' t)
    (hlimit : removed ≤ Setup.maxRemovals) :
    ∃ copies left, n = removed + copies ∧ n ≤ Setup.maxRemovals ∧
      (left = true → n = Setup.maxRemovals) ∧
      callsAbout rule t = rule.removalCalls copies left := by
  generalize hv : Except.ok n = v at h
  induction h with
  | unanswered hlook hreply => cases hv
  | gone hlook hreply =>
      obtain rfl := Except.ok.inj hv
      exact ⟨0, false, rfl, hlimit, nofun, calls_about_call _ rfl⟩
  | givenUp hlook hreply hmax =>
      obtain rfl := Except.ok.inj hv
      refine ⟨0, true, rfl, hlimit, fun _ => hmax, ?_⟩
      rw [calls_about_append, calls_about_call _ rfl]
      rfl
  | refused hlook hreply hmax hdeletion hrefused => cases hv
  -- this round's look and deletion stand before those of the rest
  | again hlook hreply hmax hdeletion hdeleted hrest ih =>
      obtain ⟨copies, left, hn, hle, hleft, hcalls⟩ := ih (by omega) hv
      refine ⟨copies + 1, left, by omega, hle, hleft, ?_⟩
      rw [calls_about_append, calls_about_append, calls_about_call _ rfl, calls_about_call _ rfl,
        hcalls]
      rfl

end TookAway

end GuestNat
