import GuestNat.Host.Faults
import GuestNat.Host.Rehearsal
import GuestNat.Proofs.Traces

/-!
# Hosts that are mirrored in memory

What changes do to a host in memory, and hosts that are such a host as far as it goes: their answers
are those of the memory, a change they make is one that the memory accepts, and a call that fails
leaves the memory as it is. Which calls fail is left open, and may depend on everything.

* `Rehearsal.after`: the memory behind a change that is accepted;
* `Mirrors`: a host with a memory behind it;
* `Mirrors.memory_of_run`: the memory behind a run, from the changes in its trace;
* `mirrors_rehearsal`, `mirrors_faulty`: a host in memory mirrors itself, and faults in front of a
  host keep it a mirror.
-/

namespace GuestNat

namespace Change

/-- The rules behind a change. -/
def onRules (rules : List Rule) : Change → List Rule
  | setForwarding _ => rules
  | append rule => rules ++ [rule]
  | delete rule => rules.erase rule

/-- The forwarding switch behind a change. -/
def onForwarding (forwarding : Bool) : Change → Bool
  | setForwarding on => on
  | append _ | delete _ => forwarding

end Change

namespace Rehearsal

/-- The host behind a change that it accepts. -/
def after (host : Rehearsal) (change : Change) : Rehearsal :=
  { host with
    forwarding := change.onForwarding host.forwarding
    rules := change.onRules host.rules
    changes := host.changes ++ [change] }

/-- The host behind changes that it accepts one after the other. -/
def afterAll (host : Rehearsal) (changes : List Change) : Rehearsal := changes.foldl after host

/-- A change is accepted while the allowance lasts, unless it appends a refused rule or deletes one
that is not there. -/
def Accepts (host : Rehearsal) (change : Change) : Prop :=
  host.isDenied = false ∧
    match change with
    | .setForwarding _ => True
    | .append rule => rule ∉ host.refused
    | .delete rule => rule ∈ host.rules

section After

variable (host : Rehearsal) (change : Change) (changes more : List Change) (rule : Rule)

theorem apply_eq_ok_iff {next : Rehearsal} :
    host.apply change = .ok next ↔ host.Accepts change ∧ next = host.after change := by
  unfold apply Accepts
  -- the allowance comes first; a change within it is taken on its own terms
  cases hdenied : host.isDenied with
  | true => simp
  | false =>
      cases change with
      | setForwarding on => simp [after, Change.onForwarding, Change.onRules, eq_comm]
      | append rule =>
          by_cases hrefused : rule ∈ host.refused <;>
            simp [hrefused, after, Change.onForwarding, Change.onRules, eq_comm]
      | delete rule =>
          by_cases hmem : rule ∈ host.rules <;>
            simp [hmem, after, Change.onForwarding, Change.onRules, eq_comm]

/-- An accepted change is made. -/
theorem make_of_accepts {change : Change} (h : host.Accepts change) :
    Rehearsal.host.make change host = { reply := .ok (), state := host.after change } := by
  have happly := (host.apply_eq_ok_iff change).mpr ⟨h, rfl⟩
  unfold Rehearsal.host
  dsimp only
  rw [happly]

@[simp] theorem after_all_nil : host.afterAll [] = host := rfl

@[simp] theorem after_all_cons :
    host.afterAll (change :: changes) = (host.after change).afterAll changes := rfl

theorem after_all_append :
    host.afterAll (changes ++ more) = (host.afterAll changes).afterAll more :=
  List.foldl_append

theorem changes_after_all : (host.afterAll changes).changes = host.changes ++ changes := by
  induction changes generalizing host with
  | nil => rw [after_all_nil, List.append_nil]
  | cons change changes ih =>
      rw [after_all_cons, ih]
      simp [after]

theorem rules_after_all :
    (host.afterAll changes).rules = changes.foldl Change.onRules host.rules := by
  induction changes generalizing host with
  | nil => rfl
  | cons change changes ih => exact ih (host.after change)

theorem forwarding_after_all :
    (host.afterAll changes).forwarding =
      changes.foldl Change.onForwarding host.forwarding := by
  induction changes generalizing host with
  | nil => rfl
  | cons change changes ih => exact ih (host.after change)

theorem interfaces_after_all : (host.afterAll changes).interfaces = host.interfaces := by
  induction changes generalizing host with
  | nil => rfl
  | cons change changes ih => exact ih (host.after change)

theorem answer_rule : host.answer (.rule rule) = decide (rule ∈ host.rules) :=
  List.contains_eq_mem rule host.rules

end After

end Rehearsal

/-- Rules that are appended one after the other stand behind the others. -/
theorem rules_after_appends (rules appended : List Rule) :
    (appended.map Change.append).foldl Change.onRules rules = rules ++ appended := by
  induction appended generalizing rules with
  | nil => exact (List.append_nil rules).symm
  | cons rule appended ih =>
      rw [List.map_cons, List.foldl_cons, ih]
      simp [Change.onRules]

/-! ## Mirrors -/

variable {σ : Type}

/-- A host is mirrored by the memory that its states show. -/
structure Mirrors (host : Host σ) (memory : σ → Rehearsal) : Prop where
  /-- Questions change nothing. -/
  ask_keeps : ∀ question s, memory (host.ask question s).state = memory s
  /-- An answer is that of the memory. -/
  ask_ok : ∀ question s b, (host.ask question s).reply = .ok b → b = (memory s).answer question
  /-- A change that is made is one that the memory accepts and makes. -/
  make_ok : ∀ change s, (host.make change s).reply = .ok () →
    (memory s).Accepts change ∧ memory (host.make change s).state = (memory s).after change
  /-- A change that fails leaves the memory as it is. -/
  make_error : ∀ change s e, (host.make change s).reply = .error e →
    memory (host.make change s).state = memory s

/-- The memory behind a run is what the changes that were made leave of it, whatever the plan, by
induction on the plan. -/
theorem Mirrors.memory_of_run {α : Type} {host : Host σ} {memory : σ → Rehearsal}
    (h : Mirrors host memory) (plan : Plan α) (s : σ) :
    memory (plan.run host s).state = (memory s).afterAll (madeIn (plan.run host s).trace) := by
  induction plan generalizing s with
  | done a => rfl
  | note event next ih => exact ih s
  | ask question next ih =>
      have hmade := made_in_ask (host.ask question s) question
      unfold Response.trace at hmade
      unfold Plan.run Run.after
      dsimp only
      rw [ih, h.ask_keeps, made_in_append, hmade]
      rfl
  | make change next ih =>
      have hmade := made_in_make (host.make change s) change
      unfold Response.trace at hmade
      unfold Plan.run Run.after
      dsimp only
      rw [ih, made_in_append, hmade, Rehearsal.after_all_append]
      -- a change that was made is made in memory, and one that failed leaves the memory as it is
      cases hreply : (host.make change s).reply with
      | ok _ => rw [(h.make_ok change s hreply).2]; rfl
      | error e => rw [h.make_error change s e hreply]; rfl

/-- A host in memory mirrors itself. -/
theorem mirrors_rehearsal : Mirrors Rehearsal.host id where
  ask_keeps := fun _ _ => rfl
  ask_ok := by
    intro question s b hb
    exact (Except.ok.inj hb).symm
  make_ok := by
    intro change s hok
    -- the reply shows whether the change was accepted
    unfold Rehearsal.host at hok ⊢
    dsimp only at hok ⊢
    cases happly : s.apply change with
    | ok next => exact (Rehearsal.apply_eq_ok_iff s change).mp happly
    | error e =>
        rw [happly] at hok
        cases hok
  make_error := by
    intro change s e he
    unfold Rehearsal.host at he ⊢
    dsimp only at he ⊢
    cases happly : s.apply change with
    | ok next =>
        rw [happly] at he
        cases he
    | error e => rfl

/-- Faults in front of a host that is mirrored leave it mirrored: a call that fails does not reach
the host. -/
theorem mirrors_faulty {host : Host σ} {memory : σ → Rehearsal} (faults : List Fault)
    (h : Mirrors host memory) : Mirrors (Faulty.host faults host) fun s => memory s.state where
  -- a call is either faulted, which leaves the host alone, or passed on to it
  ask_keeps := by
    intro question s
    unfold Faulty.host Faulty.call
    dsimp only
    split
    · rfl
    · exact h.ask_keeps question s.state
  ask_ok := by
    intro question s b hb
    unfold Faulty.host Faulty.call at hb
    dsimp only at hb
    split at hb
    · cases hb
    · exact h.ask_ok question s.state b hb
  make_ok := by
    intro change s hok
    unfold Faulty.host Faulty.call at hok ⊢
    dsimp only at hok ⊢
    split at hok
    · cases hok
    · exact h.make_ok change s.state hok
  make_error := by
    intro change s e he
    unfold Faulty.host Faulty.call at he ⊢
    dsimp only at he ⊢
    split at he
    · rfl
    · exact h.make_error change s.state e he

end GuestNat
