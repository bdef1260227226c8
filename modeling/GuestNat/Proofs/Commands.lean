import GuestNat.Program.Console
import GuestNat.Program.Execute
import GuestNat.Proofs.Procedure

/-!
# Commands and what they carry out

A command is a procedure or a look, with something to print behind it. What is printed, and when,
does not change what is asked and made, so whatever is known of procedures and looks carries over.

* `Command.procedure?`: the procedure of a command, if it is not a look;
* `Command.conclude`: what a command makes of the value of its procedure;
* `run_of_procedure`, `run_of_look`: a command is its procedure, or its look, with only the value
  changed.
-/

namespace GuestNat

namespace Command

/-- The procedure that a command carries out, if it is not a look. -/
def procedure? : Command → Option Procedure
  | .up options => some (.apply options)
  | .down disableForwarding => some (.teardown disableForwarding)
  | .status => none

/-- What a command that succeeds prints behind its steps. -/
def epilogue (config : NatConfig) : Command → List String
  | .up _ => [Program.activeLine config]
  | .down _ | .status => []

/-- What a command makes of the value of its procedure: a report is printed and an error gets a
context. -/
def conclude (command : Command) (config : NatConfig) (context : String) :
    Except SetupError Report → Program.Printed Nat
  | .ok report => ⟨report.lines ++ command.epilogue config, .ok Program.success⟩
  | .error error => ⟨[], .error ⟨[context], error⟩⟩

theorem procedure_eq_none_iff {command : Command} :
    command.procedure? = none ↔ command = .status := by
  cases command <;> simp [procedure?]

end Command

/-- What a look prints, with its exit status. -/
def Status.conclude (status : Status) : Program.Printed Nat :=
  ⟨status.lines,
    .ok (if status.health = .configured then Program.success else Program.notConfigured)⟩

namespace Program

section Finish

variable {printed : Printed Nat}

theorem exit_code_of_ok {exitCode : Nat} (h : printed.result = .ok exitCode) :
    (finish printed).exitCode = exitCode := by
  unfold finish
  rw [h]

theorem exit_code_of_error {failure : Failure} (h : printed.result = .error failure) :
    (finish printed).exitCode = failure.exitCode := by
  unfold finish
  rw [h]

/-- A failure is never taken for a success. -/
theorem exit_code_ne_success {failure : Failure} (h : printed.result = .error failure) :
    (finish printed).exitCode ≠ success := by
  rw [exit_code_of_error h]
  change failure.exitCode ≠ 0
  unfold Failure.exitCode
  split <;> simp

end Finish

/-- A task that goes on runs the rest behind a value, and prints behind what was printed before. -/
theorem Task.run_of_bind {α β : Type} (task : Task α) (f : α → Task β) :
    (task >>= f).run = do
      let first ← task.run
      match first.result with
      | .error failure => return ⟨first.lines, .error failure⟩
      | .ok a =>
        let rest ← (f a).run
        return ⟨first.lines ++ rest.lines, rest.result⟩ :=
  rfl

/-- Behind a setup there are no more calls. -/
theorem Task.run_of_setup {command : Command} {config : NatConfig} (context : String)
    (setup : Setup Report) {f : Report → Task Nat}
    (hf : ∀ report, (f report).run =
      pure ⟨report.lines ++ command.epilogue config, .ok success⟩) :
    (Task.ofSetup context setup >>= f).run = command.conclude config context <$> setup.run := by
  rw [Task.run_of_bind, Task.ofSetup, bind_map_left, map_eq_pure_bind]
  refine congrArg _ (funext fun v => ?_)
  cases v with
  | error error => rfl
  | ok report =>
      -- a setup prints nothing, so what is printed is the report
      change (f report).run >>= _ = _
      rw [hf]
      rfl

end Program

/-- A command that carries out a procedure makes the calls of the procedure. -/
theorem run_of_procedure {command : Command} {procedure : Procedure}
    (hprocedure : command.procedure? = some procedure) (config : NatConfig)
    (privilege : Privilege) :
    ∃ context, (Program.execute privilege command config).run =
      command.conclude config context <$> (procedure.setup config privilege).run := by
  cases command with
  | up options =>
      obtain rfl := Option.some.inj hprocedure
      exact ⟨_, Program.Task.run_of_setup _ _ fun report => rfl⟩
  | down disableForwarding =>
      obtain rfl := Option.some.inj hprocedure
      exact ⟨_, Program.Task.run_of_setup _ _ fun report => rfl⟩
  | status => cases hprocedure

/-- A look prints what it has found. -/
theorem run_of_look (privilege : Privilege) (config : NatConfig) :
    (Program.execute privilege .status config).run = Status.conclude <$> Status.probe config := by
  have hlook : (liftM (Status.probe config) : Program.Task Status).run =
      (fun status => ⟨[], .ok status⟩) <$> Status.probe config := rfl
  unfold Program.execute
  rw [Program.Task.run_of_bind, hlook, bind_map_left, map_eq_pure_bind]
  refine congrArg _ (funext fun status => ?_)
  have hlines : [] ++ (status.lines ++ []) = status.lines := by
    rw [List.append_nil, List.nil_append]
  exact congrArg (fun lines => (Plan.done ⟨lines, _⟩ : Plan (Program.Printed Nat))) hlines

end GuestNat
