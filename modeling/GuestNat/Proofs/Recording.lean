import GuestNat.Proofs.Memory

/-!
# The record of the changes is the state

A host in memory keeps a record of the changes made to it. Whatever is called on it, in any order,
the record and the state stay in step: what the host was seeded with and the record alone say what
it holds now.

* `Snapshot.replay`: what a record leaves of a state, if each of its deletions finds its rule;
* `Recorded`: the record accounts for the state and keeps to the limits of the host. It holds of a
  host without a record, and every change that is accepted keeps it;
* `record_is_state`: what holds behind any calls, and of the next one.
-/

namespace GuestNat

/-! ## Replaying -/

/-- What changes are made to: the forwarding switch and the rules. -/
structure Snapshot where
  forwarding : Bool
  rules : List Rule
deriving DecidableEq

namespace Snapshot

/-- Makes a change again. An appended rule goes to the end, and a deletion takes the first rule that
is equal; without one it cannot have been made. -/
def redo (snapshot : Snapshot) : Change → Option Snapshot
  | .setForwarding on => some { snapshot with forwarding := on }
  | .append rule => some { snapshot with rules := snapshot.rules ++ [rule] }
  | .delete rule =>
    if rule ∈ snapshot.rules then some { snapshot with rules := snapshot.rules.erase rule }
    else none

/-- Makes the changes of a record again, one after the other. -/
def replay : Snapshot → List Change → Option Snapshot
  | snapshot, [] => some snapshot
  | snapshot, change :: changes => (snapshot.redo change).bind fun next => next.replay changes

theorem replay_append (snapshot : Snapshot) (changes more : List Change) :
    snapshot.replay (changes ++ more) =
      (snapshot.replay changes).bind fun next => next.replay more := by
  induction changes generalizing snapshot with
  | nil => rfl
  | cons change changes ih =>
      simp only [List.cons_append, replay]
      cases snapshot.redo change with
      | none => rfl
      | some next => exact ih next

/-- The last change of a record is made to what the others leave. -/
theorem replay_concat (snapshot : Snapshot) (changes : List Change) (change : Change) :
    snapshot.replay (changes ++ [change]) =
      (snapshot.replay changes).bind fun next => next.redo change := by
  rw [replay_append]
  simp [replay]

/-- Where a record can be replayed, each of its deletions finds its rule. -/
theorem exists_of_replay {snapshot last : Snapshot} {before after : List Change} {rule : Rule}
    (h : snapshot.replay (before ++ .delete rule :: after) = some last) :
    ∃ between, snapshot.replay before = some between ∧ rule ∈ between.rules := by
  rw [replay_append] at h
  obtain ⟨between, hbefore, hdelete⟩ := Option.bind_eq_some_iff.mp h
  obtain ⟨next, hredo, -⟩ := Option.bind_eq_some_iff.mp hdelete
  refine ⟨between, hbefore, ?_⟩
  by_cases hmem : rule ∈ between.rules
  · exact hmem
  · simp [redo, hmem] at hredo

end Snapshot

/-- What a host in memory holds. -/
def Rehearsal.snapshot (host : Rehearsal) : Snapshot := ⟨host.forwarding, host.rules⟩

/-- A change that is accepted can be made again, and leaves what the host then holds. -/
theorem Rehearsal.redo_snapshot {host : Rehearsal} {change : Change} (h : host.Accepts change) :
    host.snapshot.redo change = some (host.after change).snapshot := by
  cases change with
  | setForwarding on => rfl
  | append rule => rfl
  | delete rule =>
      have hmem : rule ∈ host.rules := h.2
      simp [Snapshot.redo, snapshot, hmem, after, Change.onRules, Change.onForwarding]

/-! ## The invariant -/

/-- The record of a host accounts for all that it holds beyond the start, and keeps to its
limits. -/
structure Recorded (start now : Rehearsal) : Prop where
  replays : start.snapshot.replay now.changes = some now.snapshot
  interfaces : now.interfaces = start.interfaces
  allowance : now.allowance = start.allowance
  refused : now.refused = start.refused
  within_allowance : ∀ limit, start.allowance = some limit → now.changes.length ≤ limit
  refused_not_appended : ∀ rule ∈ start.refused, .append rule ∉ now.changes

theorem recorded_at_start {start : Rehearsal} (hempty : start.changes = []) :
    Recorded start start where
  -- no change is recorded, so there is nothing to replay
  replays := by
    rw [hempty]
    rfl
  interfaces := rfl
  allowance := rfl
  refused := rfl
  within_allowance := by
    intro limit _
    rw [hempty]
    exact Nat.zero_le limit
  refused_not_appended := by
    intro rule _
    rw [hempty]
    exact List.not_mem_nil

/-- A host that accepts a change has not used its allowance up. -/
theorem Rehearsal.Accepts.length_lt {host : Rehearsal} {change : Change} (h : host.Accepts change)
    {limit : Nat} (hlimit : host.allowance = some limit) : host.changes.length < limit := by
  have hdenied : host.isDenied = false := h.1
  unfold isDenied at hdenied
  rw [hlimit] at hdenied
  simpa using hdenied

/-- Every change that is accepted keeps the invariant. -/
theorem Recorded.after {start now : Rehearsal} {change : Change} (h : Recorded start now)
    (haccepts : now.Accepts change) : Recorded start (now.after change) where
  replays := by
    have hredo : now.snapshot.redo change = some (now.after change).snapshot :=
      Rehearsal.redo_snapshot haccepts
    change start.snapshot.replay (now.changes ++ [change]) = _
    rw [Snapshot.replay_concat, h.replays]
    exact hredo
  interfaces := h.interfaces
  allowance := h.allowance
  refused := h.refused
  -- a change is accepted only while the record is shorter than the allowance
  within_allowance := by
    intro limit hlimit
    have hlt : now.changes.length < limit := haccepts.length_lt (h.allowance.trans hlimit)
    change (now.changes ++ [change]).length ≤ limit
    rw [List.length_append]
    exact hlt
  refused_not_appended := by
    intro rule hrule hmem
    -- an earlier append, or this one, which a refused rule would not have got past
    rcases List.mem_append.mp hmem with hearlier | hlast
    · exact h.refused_not_appended rule hrule hearlier
    · obtain rfl : Change.append rule = change := List.mem_singleton.mp hlast
      have hallowed : rule ∉ now.refused := haccepts.2
      rw [h.refused] at hallowed
      exact hallowed hrule

/-- What every accepted change keeps holds of the memory behind any run, by induction on the
plan. -/
theorem Mirrors.invariant {α σ : Type} {host : Host σ} {memory : σ → Rehearsal}
    (h : Mirrors host memory) {Inv : Rehearsal → Prop}
    (hstep : ∀ now change, Inv now → now.Accepts change → Inv (now.after change)) (plan : Plan α)
    (s : σ) (hs : Inv (memory s)) : Inv (memory (plan.run host s).state) := by
  induction plan generalizing s with
  | done a => exact hs
  | note event next ih => exact ih s hs
  | ask question next ih =>
      have hkept : memory (host.ask question s).state = memory s := h.ask_keeps question s
      exact ih _ _ (hkept ▸ hs)
  | make change next ih =>
      refine ih _ _ ?_
      -- a change let through is accepted by what the host mirrors, a refused one leaves it alone
      cases hreply : (host.make change s).reply with
      | ok _ =>
          obtain ⟨haccepts, hafter⟩ := h.make_ok change s hreply
          rw [hafter]
          exact hstep (memory s) change hs haccepts
      | error e =>
          rw [h.make_error change s e hreply]
          exact hs

/-! ## Single calls -/

/-- What one call does to a host in memory: a question and a change that fails leave it as it is,
and a change that is made adds itself to the record. -/
structure OneCall (now : Rehearsal) : Prop where
  asked : ∀ question, (Rehearsal.host.ask question now).state = now
  failed : ∀ change e, (Rehearsal.host.make change now).reply = .error e →
    (Rehearsal.host.make change now).state = now
  made : ∀ change, (Rehearsal.host.make change now).reply = .ok () →
    (Rehearsal.host.make change now).state.changes = now.changes ++ [change]

theorem one_call (now : Rehearsal) : OneCall now where
  asked := fun _ => rfl
  failed := fun change e he => mirrors_rehearsal.make_error change now e he
  made := by
    intro change hok
    obtain ⟨-, hafter⟩ := mirrors_rehearsal.make_ok change now hok
    exact congrArg Rehearsal.changes hafter

/-- Once the allowance is used up, every change is denied. -/
theorem Rehearsal.make_of_denied {host : Rehearsal} (h : host.isDenied = true) (change : Change) :
    Rehearsal.host.make change host = { reply := .error .permissionDenied, state := host } := by
  have happly : host.apply change = .error .permissionDenied := by
    unfold apply
    rw [if_pos h]
  unfold Rehearsal.host
  dsimp only
  rw [happly]

/-! ## Any calls -/

/-- How the record of a host stands to its state behind a run, seen from the start of the run. -/
structure RecordIsState {α : Type} (start : Rehearsal) (run : Run Rehearsal α) : Prop where
  /-- Replaying the record over what the host started with gives what it holds. -/
  replays : start.snapshot.replay run.state.changes =
    some ⟨run.state.forwarding, run.state.rules⟩
  /-- Each deletion of the record finds its rule when it is replayed. -/
  deletes : ∀ before rule after, run.state.changes = before ++ .delete rule :: after →
    ∃ between, start.snapshot.replay before = some between ∧ rule ∈ between.rules
  /-- The record holds the changes that were made, in order, and no other. -/
  changes : run.state.changes = madeIn run.trace
  interfaces : run.state.interfaces = start.interfaces
  /-- So it is behind the next call as well. -/
  next : OneCall run.state
  within_allowance : ∀ limit, start.allowance = some limit → run.state.changes.length ≤ limit
  /-- Once the record is as long as it may become, every change is denied. -/
  denied : ∀ limit, start.allowance = some limit → run.state.changes.length = limit →
    ∀ change, Rehearsal.host.make change run.state =
      { reply := .error .permissionDenied, state := run.state }
  refused : ∀ rule ∈ start.refused, .append rule ∉ run.state.changes

/-- **The record is the state.** On a host in memory without a record, whatever it is seeded with,
whatever it refuses and whenever it denies all further changes, any finite sequence of calls keeps
the record in step with the state. A plan is such a sequence, in which each call may depend on the
replies before it. -/
theorem record_is_state {α : Type} {start : Rehearsal} (hempty : start.changes = [])
    (plan : Plan α) : RecordIsState start (plan.run Rehearsal.host start) := by
  have hrecorded : Recorded start (plan.run Rehearsal.host start).state :=
    mirrors_rehearsal.invariant (fun _ _ h haccepts => h.after haccepts) plan start
      (recorded_at_start hempty)
  refine ⟨hrecorded.replays, ?_, ?_, hrecorded.interfaces, one_call _,
    hrecorded.within_allowance, ?_, hrecorded.refused_not_appended⟩
  · -- a deletion could only be replayed because the rule was there
    intro before rule after hsplit
    have hreplay := hrecorded.replays
    rw [hsplit] at hreplay
    exact Snapshot.exists_of_replay hreplay
  · have hmemory := mirrors_rehearsal.memory_of_run plan start
    have hchanges : (plan.run Rehearsal.host start).state.changes =
        start.changes ++ madeIn (plan.run Rehearsal.host start).trace :=
      (congrArg Rehearsal.changes hmemory).trans (Rehearsal.changes_after_all start _)
    rw [hchanges, hempty, List.nil_append]
  · intro limit hlimit hlength change
    have hdenied : (plan.run Rehearsal.host start).state.isDenied = true := by
      unfold Rehearsal.isDenied
      rw [hrecorded.allowance, hlimit]
      simp [hlength]
    exact Rehearsal.make_of_denied hdenied change

/-- Two of six calls are recorded: one append is refused, one deletion finds no rule, and behind the
second change the allowance is used up. -/
theorem record_is_state_within_allowance :
    let input : Rule := ⟨.filter, "INPUT", ["-j", "DROP"]⟩
    let outbound : Rule := .acceptTo "tap0"
    let inbound : Rule := .acceptFrom "tap0"
    let start : Rehearsal :=
      { rules := [input, outbound, input, outbound], allowance := some 2, refused := [inbound] }
    let plan : Plan Unit :=
      .make (.append inbound) fun _ => .make (.delete outbound) fun _ =>
        .make (.delete inbound) fun _ => .ask (.rule outbound) fun _ =>
          .make (.append outbound) fun _ => .make (.setForwarding true) fun _ => .done ()
    let run := plan.run Rehearsal.host start
    RecordIsState start run ∧ run.state.changes = [.delete outbound, .append outbound] ∧
      start.snapshot.replay run.state.changes =
        some ⟨false, [input, input, outbound, outbound]⟩ ∧
      ∀ change, (Rehearsal.host.make change run.state).reply = .error .permissionDenied := by
  intro input outbound inbound start plan run
  have hrecord : RecordIsState start run := record_is_state rfl plan
  have hchanges : run.state.changes = [.delete outbound, .append outbound] := by decide +kernel
  refine ⟨hrecord, hchanges, by decide +kernel, ?_⟩
  intro change
  have hlength : run.state.changes.length = 2 := congrArg List.length hchanges
  rw [hrecord.denied 2 rfl hlength change]

end GuestNat
