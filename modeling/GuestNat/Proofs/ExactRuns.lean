import GuestNat.Proofs.Memory
import GuestNat.Proofs.Procedure

/-!
# Runs on a host in memory

A host in memory answers from what it holds, so a run on it is settled in full: its value, the
changes it makes one after the other, and the rules that it gives up on.

* `Does`: all that a part of a setup does on a host in memory;
* `does_bind`, `does_stop`: what a part that goes on does, and one that stops early;
* one rule for each of the calls, and one for each loop: the interfaces that a step insists on, the
  copies that it deletes, the steps in turn.

Nothing fails here but what the host refuses of itself.
-/

namespace GuestNat

variable {α β : Type}

/-- The rule whose removal is given up, with the number of copies that were deleted. -/
def Occurrence.givenUp? : Occurrence → Option (Rule × Nat)
  | noted (.givingUp rule removals) => some (rule, removals)
  | _ => none

/-- The rules whose removal is given up in a run. -/
def givenUpIn (trace : List Occurrence) : List (Rule × Nat) := trace.filterMap (·.givenUp?)

/-- They are those that the log says so of. -/
theorem mem_given_up_iff {α σ : Type} {run : Run σ α} {rule : Rule} {removals : Nat} :
    (rule, removals) ∈ givenUpIn run.trace ↔ .givingUp rule removals ∈ run.events := by
  unfold givenUpIn Run.events
  rw [List.mem_filterMap, List.mem_filterMap]
  constructor
  · rintro ⟨o, ho, hrule⟩
    refine ⟨o, ho, ?_⟩
    cases o with
    -- `givingUp` is the only event that tells of copies left behind
    | noted event => cases event <;> simp_all [Occurrence.givenUp?]
    | asked question reply => cases hrule
    | made change reply => cases hrule
  · rintro ⟨o, ho, hevent⟩
    refine ⟨o, ho, ?_⟩
    cases o with
    | noted event => simp_all [Occurrence.givenUp?]
    | asked question reply => cases hevent
    | made change reply => cases hevent

/-- On the host, the part of a setup comes to the value, makes the changes in order, and gives up on
the rules. -/
def Does (x : Setup α) (s : Rehearsal) (value : Except SetupError α) (changes : List Change)
    (givenUp : List (Rule × Nat)) : Prop :=
  x.run.Ends Rehearsal.host s fun v s' t =>
    v = value ∧ s' = s.afterAll changes ∧ givenUpIn t = givenUp

section Parts

variable {s : Rehearsal} {step : Step} {changes more : List Change}
  {first second : List (Rule × Nat)}

/-- A part that goes on does what the first part does, and then what the rest does behind it. -/
theorem does_bind {x : Setup α} {f : α → Setup β} {a : α} {v : Except SetupError β}
    (hx : Does x s (.ok a) changes first) (hf : Does (f a) (s.afterAll changes) v more second) :
    Does (x >>= f) s v (changes ++ more) (first ++ second) := by
  refine Setup.ends_of_parts hx ?_ ?_
  · rintro a' s' t ⟨ha, rfl, ht⟩
    -- the second part starts from the host that the first one leaves
    obtain rfl := Except.ok.inj ha
    refine hf.mono ?_
    rintro w s'' t' ⟨hw, hs'', ht'⟩
    refine ⟨hw, ?_, ?_⟩
    · rw [hs'', Rehearsal.after_all_append]
    · unfold givenUpIn at ht ht' ⊢
      rw [List.filterMap_append, ht, ht']
  · rintro e s' t ⟨he, -⟩
    cases he

/-- A part that stops early is all that is done. -/
theorem does_stop {x : Setup α} {f : α → Setup β} {e : SetupError}
    (hx : Does x s (.error e) changes first) : Does (x >>= f) s (.error e) changes first := by
  refine Setup.ends_of_parts hx ?_ ?_
  · rintro a s' t ⟨ha, -⟩
    cases ha
  · rintro e' s' t ⟨he, hs', ht⟩
    obtain rfl := Except.error.inj he
    exact ⟨rfl, hs', ht⟩

/-- Behind a part that does nothing, the rest does what the whole does. -/
theorem does_then {x : Setup α} {f : α → Setup β} {a : α} {v : Except SetupError β}
    (hx : Does x s (.ok a) [] []) (hf : Does (f a) s v changes first) :
    Does (x >>= f) s v changes first :=
  does_bind hx hf

theorem does_pure (a : α) : Does (pure a : Setup α) s (.ok a) [] [] :=
  Setup.ends_pure.mpr ⟨rfl, rfl, rfl⟩

/-- What only hands a value on does nothing more. -/
theorem does_before_pure {x : Setup α} {a : α} (g : α → β) (hx : Does x s (.ok a) changes first) :
    Does (x >>= fun a => pure (g a)) s (.ok (g a)) changes first := by
  rw [← List.append_nil changes, ← List.append_nil first]
  exact does_bind hx (does_pure (g a))

theorem does_note {event : Event} (hevent : (Occurrence.noted event).givenUp? = none) :
    Does (Setup.note event) s (.ok ()) [] [] :=
  Setup.ends_note.mpr ⟨rfl, rfl, List.filterMap_cons_none hevent⟩

theorem does_giving_up (rule : Rule) (removals : Nat) :
    Does (Setup.note (.givingUp rule removals)) s (.ok ()) [] [(rule, removals)] :=
  Setup.ends_note.mpr ⟨rfl, rfl, rfl⟩

/-- A question is answered. -/
theorem does_ask (question : Question) :
    Does (Setup.ask step question) s (.ok (s.answer question)) [] [] :=
  Setup.ends_ask.mpr ⟨rfl, rfl, rfl⟩

/-- A change that is accepted is made. -/
theorem does_make {change : Change} (haccepts : s.Accepts change) :
    Does (Setup.make step change) s (.ok ()) [change] [] := by
  refine Setup.ends_make.mpr ?_
  rw [s.make_of_accepts haccepts]
  exact ⟨rfl, rfl, rfl⟩

/-- A change that is refused is not made. -/
theorem does_refused {change : Change} {cause : HostError} (h : s.apply change = .error cause) :
    Does (Setup.make step change) s (.error (.stepFailed step cause)) [] [] := by
  have hmake : Rehearsal.host.make change s = { reply := .error cause, state := s } := by
    unfold Rehearsal.host
    dsimp only
    rw [h]
  refine Setup.ends_make.mpr ?_
  rw [hmake]
  exact ⟨rfl, rfl, rfl⟩

end Parts

/-- Changes leave all of a host as it is but forwarding, the rules and the record. -/
theorem Rehearsal.after_all_eq (host : Rehearsal) (changes : List Change) :
    host.afterAll changes =
      { host with
        forwarding := changes.foldl Change.onForwarding host.forwarding
        rules := changes.foldl Change.onRules host.rules
        changes := host.changes ++ changes } := by
  induction changes generalizing host with
  | nil => rw [List.append_nil]; rfl
  | cons change changes ih =>
      rw [after_all_cons, ih]
      simp [after]

/-! ## Loops -/

section Loops

variable {s : Rehearsal} {step : Step} {names : List String}

/-- Interfaces that are all there are passed. -/
theorem does_interfaces (h : names.find? (!s.hasInterface ·) = none) :
    Does (Setup.requireInterfaces step names) s (.ok ()) [] [] := by
  induction names with
  | nil => exact does_pure ()
  | cons name names ih =>
      obtain ⟨hname, hnames⟩ : s.hasInterface name = true ∧
          names.find? (!s.hasInterface ·) = none := by
        simpa using h
      unfold Setup.requireInterfaces
      refine does_then (does_ask (.interface name)) ?_
      have hanswer : s.answer (.interface name) = true := hname
      rw [hanswer]
      exact ih hnames

/-- The first one that is missing ends the step. -/
theorem does_missing_interface {missing : String}
    (h : names.find? (!s.hasInterface ·) = some missing) :
    Does (Setup.requireInterfaces step names) s
      (.error (.stepFailed step (.interfaceNotFound missing))) [] [] := by
  induction names with
  | nil => cases h
  | cons name names ih =>
      unfold Setup.requireInterfaces
      refine does_then (does_ask (.interface name)) ?_
      change Does (if s.hasInterface name then _ else _) s _ [] []
      rw [List.find?_cons] at h
      cases hname : s.hasInterface name with
      -- this one is there, so the missing one is among the rest
      | true =>
          rw [hname] at h
          exact ih h
      | false =>
          rw [hname] at h
          obtain rfl := Option.some.inj h
          exact does_then (does_note rfl) (Setup.ends_throw.mpr ⟨rfl, rfl, rfl⟩)

/-- Without an allowance, a rule that is there can be deleted. -/
theorem Rehearsal.accepts_delete {rule : Rule} (hfree : s.allowance = none) (h : rule ∈ s.rules) :
    s.Accepts (.delete rule) := by
  refine ⟨?_, h⟩
  unfold isDenied
  rw [hfree]

/-- As many copies are deleted as there are, up to the limit, and a rule with more copies is given
up on. The induction is on the limit, and each deletion leaves one copy fewer to find. -/
theorem does_remove_copies (hfree : s.allowance = none) (step : Step) (rule : Rule)
    (budget removed : Nat) :
    Does (Setup.removeCopies step rule budget removed) s
      (.ok (removed + min budget (s.rules.count rule)))
      (List.replicate (min budget (s.rules.count rule)) (.delete rule))
      (if budget < s.rules.count rule then [(rule, removed + budget)] else []) := by
  induction budget generalizing s removed with
  | zero =>
      -- nothing more is deleted, but one more look tells whether copies are left
      unfold Setup.removeCopies
      rw [Nat.zero_min, List.replicate_zero]
      refine does_then (does_ask (.rule rule)) ?_
      rw [Rehearsal.answer_rule]
      by_cases hmem : rule ∈ s.rules
      · rw [if_pos (decide_eq_true hmem), if_pos (List.count_pos_iff.mpr hmem)]
        exact does_before_pure (fun _ => removed) (does_giving_up rule removed)
      · rw [if_neg (by simpa using hmem), if_neg (by simpa using hmem)]
        exact does_pure removed
  | succ budget ih =>
      unfold Setup.removeCopies
      refine does_then (does_ask (.rule rule)) ?_
      rw [Rehearsal.answer_rule]
      by_cases hmem : rule ∈ s.rules
      · have hpos : 0 < s.rules.count rule := List.count_pos_iff.mpr hmem
        have hcount : (s.after (.delete rule)).rules.count rule = s.rules.count rule - 1 := by
          simp [Rehearsal.after, Change.onRules]
        have hmin : min (budget + 1) (s.rules.count rule) =
            min budget (s.rules.count rule - 1) + 1 := by
          omega
        have hrest := ih (s := s.after (.delete rule)) hfree (removed + 1)
        rw [hcount] at hrest
        have hlimit : budget < s.rules.count rule - 1 ↔ budget + 1 < s.rules.count rule := by
          omega
        rw [if_pos (decide_eq_true hmem), hmin, List.replicate_succ]
        have hvalue : removed + (min budget (s.rules.count rule - 1) + 1) =
            removed + 1 + min budget (s.rules.count rule - 1) := by
          omega
        have htotal : removed + (budget + 1) = removed + 1 + budget := by
          omega
        rw [hvalue, htotal]
        simp only [hlimit] at hrest
        -- the first deletion, and then those of a host with one copy fewer
        exact does_bind (does_make (Rehearsal.accepts_delete hfree hmem)) hrest
      · rw [if_neg (by simpa using hmem), List.count_eq_zero_of_not_mem hmem, Nat.min_zero,
          if_neg (Nat.not_lt_zero _)]
        exact does_pure removed

/-! ## Steps in turn -/

variable {act : Step → Setup StepOutcome} {steps : List Step} {changes more : List Change}
  {first second : List (Rule × Nat)}

/-- A step that is finished, and then the others. -/
theorem does_perform_cons {outcome : StepOutcome} {v : Except SetupError Report}
    (hact : Does (act step) s (.ok outcome) changes first)
    (hrest : Does (Setup.perform act steps) (s.afterAll changes) v more second) :
    Does (Setup.perform act (step :: steps)) s (v.map ((step, outcome) :: ·)) (changes ++ more)
      (first ++ second) := by
  unfold Setup.perform
  refine does_bind hact (does_then (does_note rfl) ?_)
  cases v with
  | ok report => exact does_before_pure _ hrest
  | error e => exact does_stop hrest

/-- A step that fails is the last one. -/
theorem does_perform_stop {e : SetupError} (hact : Does (act step) s (.error e) changes first) :
    Does (Setup.perform act (step :: steps)) s (.error e) changes first :=
  does_stop hact

/-- With a proper configuration, a procedure does what its steps do. -/
theorem Procedure.does_setup (procedure : Procedure) {config : NatConfig}
    (hcheck : config.check = .ok ()) {v : Except SetupError Report}
    (h : Does (Setup.perform (procedure.act config .elevated) procedure.steps) s v changes first) :
    Does (procedure.setup config .elevated) s v changes first := by
  refine (procedure.ends_setup hcheck .elevated).mpr (h.mono ?_)
  rintro w s' t ⟨hw, hs', ht⟩
  refine ⟨hw, hs', ?_⟩
  rw [← ht]
  cases procedure <;> rfl

end Loops

end GuestNat
