import GuestNat.Proofs.Endings

/-!
# What a trace shows

The trace of a run holds all calls with their replies and all events, in order. From it one reads

* the calls alone, the changes that were asked for, and those of them that were made;
* the steps that were reported as finished, with what each did;
* the error of a call, if the call is one behind which a setup stops.

A host reports events of its own only, so what it reports says nothing about steps.
-/

namespace GuestNat

namespace Occurrence

/-- A call of the host; all else is a report. -/
def isCall : Occurrence → Bool
  | noted _ => false
  | asked .. | made .. => true

/-- The change that was asked for. -/
def change? : Occurrence → Option Change
  | made change _ => some change
  | _ => none

/-- The change that was made: it was asked for and not refused. -/
def made? : Occurrence → Option Change
  | made change (.ok _) => some change
  | _ => none

/-- The step that is reported as finished. -/
def finished? : Occurrence → Option (Step × StepOutcome)
  | noted (.stepFinished step outcome) => some (step, outcome)
  | _ => none

/-- The error with which a setup stops behind a call: that of the call when it failed, and the
missing interface when there is none of the name that was asked for. -/
def stop? : Occurrence → Option HostError
  | asked _ (.error e) => some e
  | made _ (.error e) => some e
  | asked (.interface name) (.ok false) => some (.interfaceNotFound name)
  | _ => none

end Occurrence

/-- The calls of a trace. -/
def callsOf (trace : List Occurrence) : List Occurrence := trace.filter (·.isCall)

/-- The changes that were asked for, whatever came of them. -/
def changesOf (trace : List Occurrence) : List Change := trace.filterMap (·.change?)

/-- The changes that were made. -/
def madeIn (trace : List Occurrence) : List Change := trace.filterMap (·.made?)

/-- The steps that were reported as finished. -/
def finishedIn (trace : List Occurrence) : Report := trace.filterMap (·.finished?)

/-- No call of the trace is one to stop behind. -/
def Smooth (trace : List Occurrence) : Prop := ∀ o ∈ trace, o.stop? = none

section Reading

variable (t u : List Occurrence)

@[simp] theorem calls_of_append : callsOf (t ++ u) = callsOf t ++ callsOf u :=
  List.filter_append t u

@[simp] theorem changes_of_append : changesOf (t ++ u) = changesOf t ++ changesOf u :=
  List.filterMap_append

@[simp] theorem made_in_append : madeIn (t ++ u) = madeIn t ++ madeIn u :=
  List.filterMap_append

@[simp] theorem finished_in_append : finishedIn (t ++ u) = finishedIn t ++ finishedIn u :=
  List.filterMap_append

@[simp] theorem smooth_append : Smooth (t ++ u) ↔ Smooth t ∧ Smooth u :=
  List.forall_mem_append

/-- Only calls change anything, so they show all changes. -/
theorem changes_of_calls : changesOf (callsOf t) = changesOf t := by
  unfold changesOf callsOf
  rw [List.filterMap_filter]
  congr
  funext o
  cases o <;> rfl

theorem made_of_calls : madeIn (callsOf t) = madeIn t := by
  unfold madeIn callsOf
  rw [List.filterMap_filter]
  congr
  funext o
  cases o <;> rfl

/-- What was made was asked for. -/
theorem made_subset_changes : madeIn t ⊆ changesOf t := by
  intro change hchange
  obtain ⟨o, ho, hmade⟩ := List.mem_filterMap.mp hchange
  refine List.mem_filterMap.mpr ⟨o, ho, ?_⟩
  cases o with
  | noted event => cases hmade
  | asked question reply => cases hmade
  | made asked reply =>
      cases reply with
      | ok _ => exact hmade
      | error e => cases hmade

/-- Where a trace has its only stopping call at its end, that is where it is found. -/
theorem split_at_stop {before after done : List Occurrence} {call last : Occurrence}
    (heq : before ++ call :: after = done ++ [last]) (hdone : Smooth done)
    (hcall : call.stop? ≠ none) : after = [] ∧ before = done ∧ call = last := by
  -- either the call is the last occurrence, or it stands among the earlier ones
  rcases List.eq_nil_or_concat after with hnil | ⟨init, x, hinit⟩
  · subst hnil
    have h := List.append_inj' heq rfl
    exact ⟨rfl, h.1, List.singleton_inj.mp h.2⟩
  · -- otherwise the call is among those before the last one, and they are smooth
    subst hinit
    rw [List.concat_eq_append, ← List.cons_append, ← List.append_assoc] at heq
    have hdone' : before ++ call :: init = done := (List.append_inj' heq rfl).1
    have hmem : call ∈ done := by
      rw [← hdone']
      exact List.mem_append_right before List.mem_cons_self
    exact absurd (hdone call hmem) hcall

end Reading

/-! ## One call -/

section Response

variable {σ ρ : Type} (r : Response σ ρ) {call : Occurrence}

theorem smooth_events (events : List Event) : Smooth (events.map .noted) := by
  intro o ho
  obtain ⟨event, -, rfl⟩ := List.mem_map.mp ho
  rfl

/-- A host reports no step as finished. -/
theorem finished_in_events : finishedIn (r.events.map .noted) = [] := by
  unfold finishedIn
  rw [List.filterMap_eq_nil_iff]
  intro o ho
  obtain ⟨event, hevent, rfl⟩ := List.mem_map.mp ho
  have hown := r.events_own event hevent
  cases event <;> simp_all [Event.isOfHost, Occurrence.finished?]

theorem calls_of_events (events : List Event) : callsOf (events.map .noted) = [] := by
  unfold callsOf
  rw [List.filter_eq_nil_iff]
  intro o ho
  obtain ⟨event, -, rfl⟩ := List.mem_map.mp ho
  exact Bool.false_ne_true

theorem finished_in_call (hcall : call.isCall) : finishedIn (r.trace call) = [] := by
  unfold Response.trace
  rw [finished_in_append, finished_in_events, List.nil_append]
  cases call with
  | noted event => exact absurd hcall Bool.false_ne_true
  | asked question reply => rfl
  | made change reply => rfl

theorem calls_of_call (hcall : call.isCall) : callsOf (r.trace call) = [call] := by
  unfold Response.trace
  rw [calls_of_append, calls_of_events, List.nil_append]
  exact List.filter_eq_self.mpr (List.forall_mem_singleton.mpr hcall)

theorem made_in_call (hcall : call.isCall) : madeIn (r.trace call) = call.made?.toList := by
  rw [← made_of_calls, calls_of_call r hcall]
  unfold madeIn
  cases hmade : call.made? <;> simp [hmade]

/-- A question makes nothing. -/
theorem made_in_ask (r : Response σ Bool) (question : Question) :
    madeIn (r.trace (.asked question r.reply)) = [] :=
  made_in_call r rfl

theorem made_in_make (r : Response σ Unit) (change : Change) :
    madeIn (r.trace (.made change r.reply)) = (Occurrence.made change r.reply).made?.toList :=
  made_in_call r rfl

theorem changes_of_call (hcall : call.isCall) :
    changesOf (r.trace call) = call.change?.toList := by
  rw [← changes_of_calls, calls_of_call r hcall]
  cases call <;> rfl

theorem smooth_call (hcall : call.stop? = none) : Smooth (r.trace call) :=
  (smooth_append _ _).mpr ⟨smooth_events r.events, List.forall_mem_singleton.mpr hcall⟩

end Response

end GuestNat
