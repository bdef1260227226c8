import GuestNat.Proofs.Traces

/-!
# Going through the steps

Applying and removing the setup are the same procedure with other steps: check the configuration,
announce what is done, then do the steps in order. This module says, for every host, what the trace
of one step and the trace of all of them look like.

* `StepOutcome.changes`: the changes that stand behind the outcome of a step;
* `Orderly`: a part of a step either goes well and makes the calls that it should, or its last call
  is one to stop behind and the error is that of this call;
* `Interrupts`: calls that break off with such a call;
* `orderly_bind`: a part that goes on is orderly if both parts are.
-/

namespace GuestNat

/-- The two ways through four steps. -/
inductive Procedure
  | apply (options : ApplyOptions)
  | teardown (disableForwarding : Bool)

namespace Procedure

def steps : Procedure → List Step
  | apply _ => Step.applying
  | teardown _ => Step.removing

/-- What is reported before the first step. -/
def announcement (config : NatConfig) : Procedure → Event
  | apply options => .applying config options.idempotent
  | teardown _ => .removing config

def act (config : NatConfig) (privilege : Privilege) : Procedure → Step → Setup StepOutcome
  | apply options => Setup.applyStep config options privilege
  | teardown disableForwarding => Setup.teardownStep config disableForwarding privilege

def setup (config : NatConfig) (privilege : Privilege) : Procedure → Setup Report
  | apply options => Setup.apply config options privilege
  | teardown disableForwarding => Setup.teardown config disableForwarding privilege

theorem setup_eq (procedure : Procedure) (config : NatConfig) (privilege : Privilege) :
    procedure.setup config privilege = (do
      Setup.checkConfig config
      Setup.note (procedure.announcement config)
      Setup.perform (procedure.act config privilege) procedure.steps) := by
  cases procedure <;> rfl

/-- With a proper configuration, a procedure is its announcement and then its steps. -/
theorem ends_setup {σ : Type} {host : Host σ} {s : σ} (procedure : Procedure) {config : NatConfig}
    (hcheck : config.check = .ok ()) (privilege : Privilege)
    {Q : Except SetupError Report → σ → List Occurrence → Prop} :
    (procedure.setup config privilege).run.Ends host s Q ↔
      (Setup.perform (procedure.act config privilege) procedure.steps).run.Ends host s
        fun v s' t => Q v s' (.noted (procedure.announcement config) :: t) := by
  rw [setup_eq, Plan.ends_except_bind, Setup.ends_check_config, hcheck]
  change (Setup.note (procedure.announcement config) >>= fun _ =>
    Setup.perform (procedure.act config privilege) procedure.steps).run.Ends host s Q ↔ _
  rw [Plan.ends_except_bind, Setup.ends_note]
  rfl

end Procedure

/-! ## The interfaces of a step -/

/-- The interfaces that a step of applying insists on are its own, if it insists on any. -/
theorem ApplyOptions.verified {options : ApplyOptions} {config : NatConfig} {step : Step}
    {name : String} (h : name ∈ if options.verifyInterfaces then step.interfaces config else []) :
    options.verifyInterfaces ∧ name ∈ step.interfaces config := by
  split at h
  · exact ⟨‹_›, h⟩
  · exact absurd h List.not_mem_nil

/-- They are among the two of the configuration. -/
theorem Step.interfaces_subset {config : NatConfig} {step : Step} {name : String}
    (h : name ∈ step.interfaces config) : name ∈ [config.tap, config.uplink] := by
  cases step <;> simp_all [Step.interfaces]

/-! ## The changes of a step -/

namespace Step

/-- The change by which a step adds what it is for. -/
def addition (config : NatConfig) (step : Step) : Change :=
  match step.rule config with
  | some rule => .append rule
  | none => .setForwarding (step = .enableForwarding)

/-- The changes by which a step takes copies of its rule away. -/
def deletions (config : NatConfig) (step : Step) (copies : Nat) : List Change :=
  match step.rule config with
  | some rule => List.replicate copies (.delete rule)
  | none => []

end Step

/-- The changes that stand behind an outcome. -/
def StepOutcome.changes (config : NatConfig) (step : Step) : StepOutcome → List Change
  | applied => [step.addition config]
  | removed copies => step.deletions config copies
  | alreadyPresent | notPresent | skipped => []

/-- The changes that stand behind the steps of a report. -/
def Report.changes (config : NatConfig) (report : Report) : List Change :=
  report.flatMap fun (step, outcome) => outcome.changes config step

/-- The changes that a step of the procedure may have made when it fails: none where rules are
added, some deletions where they are taken away. -/
def Procedure.Begun (config : NatConfig) (step : Step) (changes : List Change) : Procedure → Prop
  | apply _ => changes = []
  | teardown _ => ∃ copies, changes = step.deletions config copies

/-- The call is one that the step makes for itself. -/
def Occurrence.Concerns (config : NatConfig) (step : Step) : Occurrence → Prop
  | asked (.interface name) _ => name ∈ step.interfaces config
  | asked (.rule rule) _ => step.rule config = some rule
  | made (.setForwarding _) _ => step.rule config = none
  | made (.append rule) _ => step.rule config = some rule
  | made (.delete rule) _ => step.rule config = some rule
  | _ => False

/-! ## Parts of a step -/

namespace Occurrence

/-- The same call, whatever came of it. -/
inductive Alike : Occurrence → Occurrence → Prop
  | asked (question : Question) (reply reply' : Except HostError Bool) :
      Alike (.asked question reply) (.asked question reply')
  | made (change : Change) (reply reply' : Except HostError Unit) :
      Alike (.made change reply) (.made change reply')

/-- The check of an interface that is there. -/
def interfaceExists (name : String) : Occurrence := .asked (.interface name) (.ok true)

end Occurrence

variable {α β σ : Type}

/-- The calls break off with the last one. With another reply to it, they would be the beginning of
calls that go well. -/
def Interrupts (Done : α → List Occurrence → Prop) (before : List Occurrence) (last : Occurrence) :
    Prop :=
  ∃ a call rest, Done a (before ++ call :: rest) ∧ call.Alike last

/-- What goes well may be the beginning of more. -/
theorem Interrupts.on {Done : α → List Occurrence → Prop} {Done' : β → List Occurrence → Prop}
    {before : List Occurrence} {last : Occurrence} (h : Interrupts Done before last)
    (hon : ∀ a calls, Done a calls → ∃ b rest, Done' b (calls ++ rest)) :
    Interrupts Done' before last := by
  obtain ⟨a, call, rest, hdone, halike⟩ := h
  obtain ⟨b, more, hmore⟩ := hon a _ hdone
  refine ⟨b, call, rest ++ more, ?_, halike⟩
  rw [← List.cons_append, ← List.append_assoc]
  exact hmore

/-- What makes no call does not break off with one. -/
theorem not_interrupts_nil {before : List Occurrence} {last : Occurrence} :
    ¬ Interrupts (fun (_ : α) calls => calls = []) before last := by
  rintro ⟨_, call, rest, hnil, -⟩
  exact absurd (List.append_eq_nil_iff.mp hnil).2 (List.cons_ne_nil call rest)

/-- What the trace of a part of a step shows. `Done` is about the calls of a part that goes well. -/
def Orderly (config : NatConfig) (step : Step) (Done : α → List Occurrence → Prop) :
    Except SetupError α → List Occurrence → Prop
  | .ok a, t => finishedIn t = [] ∧ Smooth t ∧ Done a (callsOf t)
  | .error e, t => finishedIn t = [] ∧ ∃ before last cause,
      callsOf t = before ++ [last] ∧ Smooth before ∧ last.stop? = some cause ∧
        last.Concerns config step ∧ e = .stepFailed step cause ∧ Interrupts Done before last

theorem Orderly.mono {config : NatConfig} {step : Step} {Done Done' : α → List Occurrence → Prop}
    {v : Except SetupError α} {t : List Occurrence} (h : Orderly config step Done v t)
    (hdone : ∀ a calls, Done a calls → Done' a calls) : Orderly config step Done' v t := by
  cases v with
  | ok a => exact ⟨h.1, h.2.1, hdone a _ h.2.2⟩
  | error e =>
      obtain ⟨hfin, before, last, cause, hcalls, hsmooth, hstop, hown, he, hbroken⟩ := h
      refine ⟨hfin, before, last, cause, hcalls, hsmooth, hstop, hown, he, hbroken.on ?_⟩
      intro a calls hcalls
      refine ⟨a, [], ?_⟩
      rw [List.append_nil]
      exact hdone a calls hcalls

/-- No step is finished within a part of one. -/
theorem Orderly.finished {config : NatConfig} {step : Step} {Done : α → List Occurrence → Prop}
    {v : Except SetupError α} {t : List Occurrence} (h : Orderly config step Done v t) :
    finishedIn t = [] := by
  cases v with
  | ok a => exact h.1
  | error e => exact h.1

theorem smooth_calls {t : List Occurrence} (h : Smooth t) : Smooth (callsOf t) :=
  fun o ho => h o (List.mem_filter.mp ho).1

/-- What went well before does no harm, and its calls come first. -/
theorem Orderly.prepend {config : NatConfig} {step : Step} {Done : α → List Occurrence → Prop}
    {v : Except SetupError α} {t t' : List Occurrence} (hfin : finishedIn t = [])
    (hsmooth : Smooth t)
    (h : Orderly config step (fun a calls => Done a (callsOf t ++ calls)) v t') :
    Orderly config step Done v (t ++ t') := by
  have hfinished : ∀ {u}, finishedIn u = [] → finishedIn (t ++ u) = [] := by
    intro u hu
    rw [finished_in_append, hfin, hu, List.append_nil]
  cases v with
  | ok a =>
      obtain ⟨hfin', hsmooth', hdone⟩ := h
      refine ⟨hfinished hfin', (smooth_append t t').mpr ⟨hsmooth, hsmooth'⟩, ?_⟩
      rw [calls_of_append]
      exact hdone
  | error e =>
      -- the calls of both parts but the last one went well
      obtain ⟨hfin', before, last, cause, hcalls, hsmooth', hstop, hown, he, hbroken⟩ := h
      obtain ⟨a, call, rest, hdone, halike⟩ := hbroken
      refine ⟨hfinished hfin', callsOf t ++ before, last, cause, ?_, ?_, hstop, hown, he,
        a, call, rest, ?_, halike⟩
      · rw [calls_of_append, hcalls, List.append_assoc]
      · exact (smooth_append _ _).mpr ⟨smooth_calls hsmooth, hsmooth'⟩
      · rw [List.append_assoc]
        exact hdone

section Parts

variable {config : NatConfig} {step : Step} {host : Host σ} {s : σ}

/-- A part that goes on is orderly if both parts are; the second one may rely on the calls of the
first one. -/
theorem orderly_of_parts {x : Setup α} {f : α → Setup β} {Done : α → List Occurrence → Prop}
    {Done' : β → List Occurrence → Prop}
    (hx : x.run.Ends host s fun v _ t => Orderly config step Done v t)
    (hf : ∀ a s' calls, Done a calls → (f a).run.Ends host s' fun v _ t =>
      Orderly config step (fun b rest => Done' b (calls ++ rest)) v t)
    (hbroken : ∀ before last, Interrupts Done before last → Interrupts Done' before last) :
    (x >>= f).run.Ends host s fun v _ t => Orderly config step Done' v t := by
  refine Setup.ends_of_parts hx ?_ ?_
  · -- the calls of `x` are done, and those of `f a` come behind them
    intro a s' t ha
    obtain ⟨hfin, hsmooth, hdone⟩ := ha
    refine (hf a s' _ hdone).mono ?_
    intro w s'' t' hw
    exact hw.prepend hfin hsmooth
  · -- `x` breaks off, so `hbroken` says what its last call cuts short
    intro e s' t he
    obtain ⟨hfin, before, last, cause, hcalls, hsmooth, hstop, hown, hcause, hinterrupts⟩ := he
    exact ⟨hfin, before, last, cause, hcalls, hsmooth, hstop, hown, hcause,
      hbroken before last hinterrupts⟩

/-- The usual case: whatever the first part comes to, there is a way to go on from there. -/
theorem orderly_bind {x : Setup α} {f : α → Setup β} {Done : α → List Occurrence → Prop}
    {Done' : β → List Occurrence → Prop}
    (hx : x.run.Ends host s fun v _ t => Orderly config step Done v t)
    (hf : ∀ a s' calls, Done a calls → (f a).run.Ends host s' fun v _ t =>
      Orderly config step (fun b rest => Done' b (calls ++ rest)) v t)
    (hway : ∀ a calls, Done a calls → ∃ b rest, Done' b (calls ++ rest)) :
    (x >>= f).run.Ends host s fun v _ t => Orderly config step Done' v t :=
  orderly_of_parts hx hf fun _ _ hbroken => hbroken.on hway

/-- Behind a part that makes no call, the rest says what the whole does. -/
theorem orderly_then {x : Setup α} {f : α → Setup β} {Done : β → List Occurrence → Prop}
    (hx : x.run.Ends host s fun v _ t => Orderly config step (fun _ calls => calls = []) v t)
    (hf : ∀ a s', (f a).run.Ends host s' fun v _ t => Orderly config step Done v t) :
    (x >>= f).run.Ends host s fun v _ t => Orderly config step Done v t := by
  refine orderly_of_parts hx ?_ fun _ _ h => absurd h not_interrupts_nil
  intro a s' calls hcalls
  subst hcalls
  exact hf a s'

theorem orderly_pure {a : α} {Done : α → List Occurrence → Prop} (h : Done a []) :
    (pure a : Setup α).run.Ends host s fun v _ t => Orderly config step Done v t :=
  Setup.ends_pure.mpr ⟨rfl, fun _ ho => absurd ho List.not_mem_nil, h⟩

theorem orderly_note {event : Event} (hevent : (Occurrence.noted event).finished? = none) :
    (Setup.note event).run.Ends host s fun v _ t =>
      Orderly config step (fun _ calls => calls = []) v t := by
  rw [Setup.ends_note]
  refine ⟨?_, ?_, rfl⟩
  · simp [finishedIn, hevent]
  · simp [Smooth, Occurrence.stop?]

/-- A call of the step's own, whose reply is handed on with errors as those of the step. The reply
decides whether it is one to stop behind; with some reply the step would go on. -/
theorem orderly_call {ρ : Type} (r : Response σ ρ) {call : Occurrence}
    {Done : ρ → List Occurrence → Prop} (hcall : call.isCall) (hown : call.Concerns config step)
    (hok : ∀ a, r.reply = .ok a → call.stop? = none ∧ Done a [call])
    (herror : ∀ e, r.reply = .error e → call.stop? = some e)
    (hbroken : Interrupts Done [] call) :
    Orderly config step Done (r.reply.mapError (.stepFailed step)) (r.trace call) := by
  -- a reply is done with the call, an error stops behind it
  cases hreply : r.reply with
  | ok a =>
      obtain ⟨hstop, hdone⟩ := hok a hreply
      refine ⟨finished_in_call r hcall, smooth_call r hstop, ?_⟩
      rw [calls_of_call r hcall]
      exact hdone
  | error e =>
      refine ⟨finished_in_call r hcall, [], call, e, calls_of_call r hcall, ?_, herror e hreply,
        hown, rfl, hbroken⟩
      exact fun o ho => absurd ho List.not_mem_nil

/-- A question about the rule of the step. -/
theorem orderly_ask {rule : Rule} (hrule : step.rule config = some rule) :
    (Setup.ask step (.rule rule)).run.Ends host s fun v _ t =>
      Orderly config step (fun found calls => calls = [.asked (.rule rule) (.ok found)]) v t := by
  rw [Setup.ends_ask]
  refine orderly_call (host.ask (.rule rule) s) rfl hrule ?_ ?_ ?_
  · intro found hfound
    rw [hfound]
    exact ⟨by cases found <;> rfl, rfl⟩
  · intro e he
    rw [he]
    rfl
  · exact ⟨true, _, [], rfl, .asked _ _ _⟩

/-- A change of the step's own. -/
theorem orderly_make {change : Change}
    (hown : ∀ reply, (Occurrence.made change reply).Concerns config step) :
    (Setup.make step change).run.Ends host s fun v _ t =>
      Orderly config step (fun _ calls => calls = [.made change (.ok ())]) v t := by
  rw [Setup.ends_make]
  refine orderly_call (host.make change s) rfl (hown _) ?_ ?_ ?_
  · intro a ha
    rw [ha]
    exact ⟨rfl, rfl⟩
  · intro e he
    rw [he]
    rfl
  · exact ⟨(), _, [], rfl, .made _ _ _⟩

/-- The interfaces of the step: the first one that is missing ends it as a failed call does. -/
theorem orderly_interfaces {names : List String}
    (hnames : ∀ name ∈ names, name ∈ step.interfaces config) :
    (Setup.requireInterfaces step names).run.Ends host s fun v _ t =>
      Orderly config step (fun _ calls => calls = names.map Occurrence.interfaceExists) v t := by
  induction names generalizing s with
  | nil => exact orderly_pure rfl
  | cons name names ih =>
      have hown : name ∈ step.interfaces config := hnames name List.mem_cons_self
      have hrest := fun s' => ih (s := s') fun n hn => hnames n (List.mem_cons_of_mem name hn)
      -- had the interface been there, the checks of the others would have followed
      have hbroken : ∀ reply, Interrupts
          (fun (_ : Unit) calls => calls = (name :: names).map Occurrence.interfaceExists) []
          (.asked (.interface name) reply) :=
        fun reply => ⟨(), _, names.map Occurrence.interfaceExists, rfl, .asked _ _ reply⟩
      unfold Setup.requireInterfaces
      rw [Plan.ends_except_bind, Setup.ends_ask]
      have hcall : ∀ reply, (Occurrence.asked (.interface name) reply).isCall := fun _ => rfl
      generalize host.ask (.interface name) s = r
      cases hreply : r.reply with
      | error e =>
          -- the question failed and is the last call
          exact ⟨finished_in_call r (hcall _), [], _, e, calls_of_call r (hcall _),
            fun o ho => absurd ho List.not_mem_nil, rfl, hown, rfl, hbroken _⟩
      | ok found =>
          cases found with
          | true =>
              refine (hrest r.state).mono ?_
              intro v s' t hv
              refine Orderly.prepend (finished_in_call r (hcall _)) (smooth_call r rfl) ?_
              rw [calls_of_call r (hcall _)]
              refine hv.mono ?_
              rintro _ calls rfl
              rfl
          | false =>
              -- what is reported behind the question is no call
              refine ⟨?_, [], .asked (.interface name) (.ok false), .interfaceNotFound name, ?_,
                fun o ho => absurd ho List.not_mem_nil, rfl, hown, rfl, hbroken _⟩
              · rw [finished_in_append, finished_in_call r (hcall _)]
                rfl
              · rw [calls_of_append, calls_of_call r (hcall _)]
                rfl

end Parts

end GuestNat
