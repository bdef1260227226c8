import GuestNat.Proofs.Lockstep

/-!
# Two plans at once

Two plans that run on one host at the same time make their calls in turns, in whatever order. Each
of them is compared with a run of its own on a host that it has to itself.

* `Plan.step`: one call of a plan, or one report;
* `Interleaved`: the ways in which two plans may go on in turns until both have ended;
* `weave`: the turns that a schedule gives;
* `Interleaved.alike`: if the calls of either plan are no business of the other one, both end as
  they do alone.
-/

namespace GuestNat

variable {α β σ τ υ : Type}

/-- The plan behind its next call or report, and the state that this leaves; an ended plan stays as
it is. -/
def Plan.step (host : Host σ) : Plan α → σ → Plan α × σ
  | .done value, s => (.done value, s)
  | .note _ next, s => (next, s)
  | .ask question next, s =>
    let r := host.ask question s
    (next r.reply, r.state)
  | .make change next, s =>
    let r := host.make change s
    (next r.reply, r.state)

/-- Two plans on one host end with these values and leave this state, when it is now the one's turn
and now the other's. -/
inductive Interleaved (host : Host σ) : Plan α → Plan β → σ → α → β → σ → Prop
  | ended (a : α) (b : β) (s : σ) : Interleaved host (.done a) (.done b) s a b s
  | left {plan : Plan α} {other : Plan β} {s s' : σ} {a : α} {b : β}
      (rest : Interleaved host (plan.step host s).1 other (plan.step host s).2 a b s') :
      Interleaved host plan other s a b s'
  | right {plan : Plan α} {other : Plan β} {s s' : σ} {a : α} {b : β}
      (rest : Interleaved host plan (other.step host s).1 (other.step host s).2 a b s') :
      Interleaved host plan other s a b s'

/-! ## Steps -/

section Step

variable {host : Host σ} {s : σ} {asks : Question → Prop} {makes : Change → Prop} {plan : Plan α}

/-- A step is the beginning of the run. -/
theorem Plan.run_step (host : Host σ) (plan : Plan α) (s : σ) :
    ((plan.step host s).1.run host (plan.step host s).2).value = (plan.run host s).value ∧
      ((plan.step host s).1.run host (plan.step host s).2).state = (plan.run host s).state := by
  cases plan <;> exact ⟨rfl, rfl⟩

theorem Plan.Within.step (h : plan.Within asks makes) :
    (plan.step host s).1.Within asks makes := by
  cases plan with
  | done a => trivial
  | note event next => exact h
  | ask question next => exact h.2 _
  | make change next => exact h.2 _

/-- States that are alike take the same step and stay alike. -/
theorem Lockstep.step_alike {first : Host σ} {second : Host τ} {Alike : σ → τ → Prop}
    (h : Lockstep first second asks makes Alike) (hplan : plan.Within asks makes) {t : τ}
    (halike : Alike s t) :
    (plan.step first s).1 = (plan.step second t).1 ∧
      Alike (plan.step first s).2 (plan.step second t).2 := by
  cases plan with
  | done a => exact ⟨rfl, halike⟩
  | note event next => exact ⟨rfl, halike⟩
  | ask question next =>
      obtain ⟨hreply, hstate⟩ := h.ask question s t hplan.1 halike
      exact ⟨congrArg next hreply, hstate⟩
  | make change next =>
      obtain ⟨hreply, hstate⟩ := h.make change s t hplan.1 halike
      exact ⟨congrArg next hreply, hstate⟩

/-- Calls that keep what is known of the state. -/
structure Keeps (host : Host σ) (asks : Question → Prop) (makes : Change → Prop)
    (Known : σ → Prop) : Prop where
  ask : ∀ question s, asks question → Known s → Known (host.ask question s).state
  make : ∀ change s, makes change → Known s → Known (host.make change s).state

theorem Keeps.step {Known : σ → Prop} (h : Keeps host asks makes Known)
    (hplan : plan.Within asks makes) (hs : Known s) : Known (plan.step host s).2 := by
  cases plan with
  | done a => exact hs
  | note event next => exact hs
  | ask question next => exact h.ask question s hplan.1 hs
  | make change next => exact h.make change s hplan.1 hs

end Step

/-! ## Turns -/

namespace Interleaved

variable {host : Host σ} {plan : Plan α} {other : Plan β} {s s' : σ} {a : α} {b : β}

/-- Which plan is the first one does not matter. -/
theorem symm (h : Interleaved host plan other s a b s') : Interleaved host other plan s b a s' := by
  induction h with
  | ended a b s => exact .ended b a s
  | left rest ih => exact .right ih
  | right rest ih => exact .left ih

/-- An ended plan leaves all turns to the other one, by induction on the other one. -/
theorem of_done (host : Host σ) (a : α) (other : Plan β) (s : σ) :
    Interleaved host (.done a) other s a (other.run host s).value (other.run host s).state := by
  induction other generalizing s with
  | done b => exact .ended a b s
  | note event next ih => exact .right (ih s)
  | ask question next ih => exact .right (ih _ _)
  | make change next ih => exact .right (ih _ _)

/-- One plan after the other is one of the ways. -/
theorem in_turn (host : Host σ) (plan : Plan α) (other : Plan β) (s : σ) :
    Interleaved host plan other s (plan.run host s).value
      (other.run host (plan.run host s).state).value
      (other.run host (plan.run host s).state).state := by
  induction plan generalizing s with
  | done a => exact of_done host a other s
  | note event next ih => exact .left (ih s)
  | ask question next ih => exact .left (ih _ _)
  | make change next ih => exact .left (ih _ _)

/-- What the calls of both plans keep holds at the end. -/
theorem keeps {asks asks' : Question → Prop} {makes makes' : Change → Prop} {Known : σ → Prop}
    (h : Interleaved host plan other s a b s') (hplan : plan.Within asks makes)
    (hother : other.Within asks' makes') (hleft : Keeps host asks makes Known)
    (hright : Keeps host asks' makes' Known) (hs : Known s) : Known s' := by
  induction h with
  | ended a b s => exact hs
  | left rest ih => exact ih hplan.step hother (hleft.step hplan hs)
  | right rest ih => exact ih hplan hother.step (hright.step hother hs)

/-- A plan that keeps in step with itself on a host of its own, and is not disturbed by the calls of
the other one, ends as it does there. The induction is on the turns: a turn of the plan is a step of
the run of its own, and a turn of the other one is none. -/
theorem alike {asks asks' : Question → Prop} {makes makes' : Change → Prop} {alone : Host τ}
    {Alike : σ → τ → Prop} (h : Interleaved host plan other s a b s')
    (hplan : plan.Within asks makes) (hother : other.Within asks' makes')
    (hlockstep : Lockstep host alone asks makes Alike)
    (hkeeps : ∀ t, Keeps host asks' makes' (Alike · t)) {t : τ} (halike : Alike s t) :
    a = (plan.run alone t).value ∧ Alike s' (plan.run alone t).state := by
  -- own steps keep `Alike` by lockstep, the other plan's steps because each of them keeps it
  induction h generalizing t with
  | ended a b s => exact ⟨rfl, halike⟩
  | @left plan other s s' a b rest ih =>
      obtain ⟨hnext, hstate⟩ := hlockstep.step_alike hplan halike
      obtain ⟨hvalue, hend⟩ := ih hplan.step hother hstate
      obtain ⟨hrun, hrunState⟩ := plan.run_step alone t
      rw [hnext] at hvalue hend
      exact ⟨hvalue.trans hrun, hrunState ▸ hend⟩
  | right rest ih => exact ih hplan hother.step ((hkeeps t).step hother halike)

end Interleaved

/-! ## Schedules -/

/-- Lets two plans go on as a schedule says, `true` for a turn of the first one, and then ends the
first one before the other: the values of both and the state that is left. -/
def weave (host : Host σ) : List Bool → Plan α → Plan β → σ → α × β × σ
  | [], plan, other, s =>
    let first := plan.run host s
    let second := other.run host first.state
    (first.value, second.value, second.state)
  | true :: schedule, plan, other, s =>
    weave host schedule (plan.step host s).1 other (plan.step host s).2
  | false :: schedule, plan, other, s =>
    weave host schedule plan (other.step host s).1 (other.step host s).2

/-- Every schedule gives one of the ways. -/
theorem interleaved_weave (host : Host σ) (schedule : List Bool) (plan : Plan α) (other : Plan β)
    (s : σ) :
    let woven := weave host schedule plan other s
    Interleaved host plan other s woven.1 woven.2.1 woven.2.2 := by
  induction schedule generalizing plan other s with
  | nil => exact .in_turn host plan other s
  | cons turn schedule ih =>
      cases turn with
      | true => exact .left (ih _ _ _)
      | false => exact .right (ih _ _ _)

end GuestNat
