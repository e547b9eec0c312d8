import GuardedMachine.Proofs.Shared.Defined
import GuardedMachine.Proofs.Synced.Defined

/-!
# Soundness of validation

A machine whose references are resolved is never in a state that is not defined, and never reports
a state, a guard or an effect as undefined: neither when its steps are taken one after the other,
nor in any run of a synchronous or a shared machine.  The callbacks may keep a memory, and in runs
they may call the machine in any way.
-/

namespace GuardedMachine

variable {S C K : Type} [DecidableEq S] [StateValue S] [Context C]

/-- Whatever is done with a machine, its states are defined and nothing is reported as
undefined. -/
theorem Machine.never_undefined (machine : Machine S C K) :
  (∀ (σ ε : Type) (client : StepClient σ ε C K) (actions : List (Action K)) (memory : σ)
      (state : MachineState S C) (recorded : Recorded σ),
      (actions.foldlM (machine.transition client) machine.initialState).run
        { memory, reports := [] } = .ok (state, recorded) →
          machine.Sane state recorded.reports)
    ∧ (∀ (M ε α : Type) (client : Synced.Client S C K M ε) (code : Synced.Code S C K M ε α)
      (memory : M) (depth : Nat),
      (Synced.run machine client depth code
        (Synced.World.initial machine.initialState memory)).Reaches
          (Synced.Sane machine) fun _ => Synced.Sane machine)
    ∧ ∀ (M ε α : Type) (client : Shared.Client S C K M ε) (code : Shared.Code S C K M ε α)
      (memory : M) (depth : Nat),
      (Shared.run machine client depth code
        (Shared.World.initial machine.initialState memory)).Reaches
          (Shared.Sane machine) fun _ => Shared.Sane machine
  := by
  refine ⟨?_, ?_, ?_⟩
  · intro σ ε client actions memory state recorded hrun
    apply machine.transitions_sane client actions memory hrun
  · intro M ε α client code memory depth
    apply Synced.run_sane
  · intro M ε α client code memory depth
    apply Shared.run_sane

end GuardedMachine
