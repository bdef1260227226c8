import GuestNat.Setup.Setup

/-!
# Tasks

A task is a plan that prints. It ends with a value or with a failure, and what it has printed until
then stays printed.
-/

namespace GuestNat.Program

/-- The lines that were printed, and the value or the failure behind them. -/
structure Printed (α : Type) where
  lines : List String
  result : Except Failure α

/-- A plan that prints and may end with a failure. -/
structure Task (α : Type) where
  run : Plan (Printed α)

namespace Task

variable {α β : Type}

/-- Goes on with another task behind a value. Behind a failure there is nothing more. -/
def bind (task : Task α) (f : α → Task β) : Task β where
  run := do
    let first ← task.run
    match first.result with
    | .error failure => return ⟨first.lines, .error failure⟩
    | .ok a =>
      let rest ← (f a).run
      return ⟨first.lines ++ rest.lines, rest.result⟩

/-- What was printed elsewhere, with the end that it came to. -/
def replay (printed : Printed α) : Task α := ⟨pure printed⟩

instance : Monad Task where
  pure a := replay ⟨[], .ok a⟩
  bind := bind

/-- A plan prints nothing and does not fail. -/
instance : MonadLift Plan Task where
  monadLift plan := ⟨(fun a => ⟨[], .ok a⟩) <$> plan⟩

def print (lines : List String) : Task Unit := replay ⟨lines, .ok ()⟩

/-- A setup prints nothing. What it is about is the context of its errors. -/
def ofSetup (context : String) (setup : Setup α) : Task α where
  run := (fun v => ⟨[], v.mapError fun error => Failure.within context { error }⟩) <$> setup.run

end Task

end GuestNat.Program
