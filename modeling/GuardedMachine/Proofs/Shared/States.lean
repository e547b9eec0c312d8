import GuardedMachine.Proofs.Machine.Steps
import GuardedMachine.Proofs.Program.Keeping
import GuardedMachine.Proofs.Shared.Bodies

/-!
# The states of shared machines

Only performing an action changes the state of a shared machine.  So an invariant that depends on
the state, and perhaps on what was reported, is kept by every body if it is kept by steps
(`OfState.runs_body`), whatever the owner and the callbacks ask of the machine.  In particular a
property of states that every step keeps holds at every moment of a run (`states_keep`).
-/

namespace GuardedMachine.Shared

variable {S C K M ε α : Type} {allowed : Call S C K → Prop} {invariant : Invariant S C K M}

/-! ### Invariants of the state -/

/-- A call that does not report anything as undefined. -/
def Call.Sane : Call S C K → Prop
  | .report written => written.diagnostic.isUndefined = false
  | _ => True

/-- An invariant that depends on nothing in the world but the state, with the calls that keep it. -/
structure OfState (allowed : Call S C K → Prop) (invariant : Invariant S C K M) : Prop where
  of_state : ∀ world world' history, world'.state = world.state → invariant world history →
    invariant world' history
  allowed : ∀ call : Call S C K, call.Sane → allowed call

namespace OfState

variable (hstate : OfState allowed invariant)

include hstate

theorem runs_ask {call : Call S C K} (hcall : call.Sane) :
  ((Contract.keeping allowed invariant).judgement invariant).runs
    (ask call : Engine S C K M ε call.Answer)
  := Contract.runs_ask_keeping (hstate.allowed call hcall)

/-- Every request may be made. -/
theorem runs_serveRequest (request : Request K) :
  ((Contract.keeping allowed invariant).judgement invariant).runs
    (serveRequest request : Engine S C K M ε (request.Answer S C))
  := by
  apply runs_serveRequest_of
  · intro world history observer
    exact hstate.of_state _ _ _ rfl
  · intro world history id
    exact hstate.of_state _ _ _ rfl
  · intro world history
    exact hstate.of_state _ _ _ rfl
  · intro action _
    exact hstate.runs_ask trivial

/-- A program of a client keeps what every request keeps. -/
theorem runs_ofCode (code : Code S C K M ε α) :
  ((Contract.keeping allowed invariant).judgement invariant).runs (ofCode code)
  := by
  apply holds_ofCode_of _ _ (Program.asks_true code) (Program.yields_true code)
  · intro world history memory
    exact hstate.of_state _ _ _ rfl
  · intro request _
    exact hstate.runs_ask trivial

variable [DecidableEq S] [StateValue S] [Context C] {machine : Machine S C K}

/-- Performing an action keeps the invariant if it holds of the state that a step leads to. -/
theorem runs_perform {action : Action K}
    (hstep : ∀ world history, invariant world history →
      ((Contract.keeping allowed invariant).judgement invariant).holds
        (fun outcome => ∀ next, outcome.state? = some next → ∀ world' history',
          invariant world' history' → invariant { world' with state := next } history')
        (stepHost.step machine.definition machine.config world.state action :
          Engine S C K M ε (Outcome S C))) :
  ((Contract.keeping allowed invariant).judgement invariant).runs
    (perform machine action : Engine S C K M ε Bool)
  := by
  intro world history hinvariant
  have hrunning : invariant { world with running := world.running + 1 } history := by
    apply hstate.of_state _ _ _ _ hinvariant
    rfl
  simp only [perform, Contract.ensures_bind, Contract.ensures_world, Contract.ensures_update]
  apply (hstep world history hinvariant _ _ hrunning).mono
  rintro outcome world' history' - ⟨hnext, hinvariant'⟩
  cases houtcome : outcome.state? with
  | none =>
    use trivial
    apply hstate.of_state _ _ _ _ hinvariant'
    rfl
  | some next =>
    simp only [Contract.ensures_bind, Contract.ensures_world, Contract.ensures_update]
    have hnotify : ∀ ids, ((Contract.keeping allowed invariant).judgement invariant).runs
        (notify ids : Engine S C K M ε Unit) := by
      apply runs_notify_of
      intro id token state
      exact hstate.runs_ask trivial
    apply (hnotify _ _ _ (hnext next houtcome _ _ hinvariant')).mono
    rintro _ world'' history'' - ⟨-, hinvariant''⟩
    use trivial
    apply hstate.of_state _ _ _ _ hinvariant''
    rfl

/-- Every body keeps the invariant if performing an action does. -/
theorem runs_body (client : Client S C K M ε)
    (hperform : ∀ action, ((Contract.keeping allowed invariant).judgement invariant).runs
      (perform machine action : Engine S C K M ε Bool))
    (call : Call S C K) :
  ((Contract.keeping allowed invariant).judgement invariant).runs (body machine client call)
  := by
  cases call with
  | request request => apply hstate.runs_serveRequest
  | perform action => apply hperform
  | guard token event context => apply hstate.runs_ofCode
  | reduce token context => apply hstate.runs_ofCode
  | observe id token state => apply hstate.runs_ofCode
  | report report => apply Judgement.runs_pure

end OfState

/-! ### Properties of states -/

variable [DecidableEq S] [StateValue S] [Context C]

/-- A property of states that every step keeps holds at every moment of a run. -/
theorem states_keep (machine : Machine S C K) {good : MachineState S C → Prop}
    (hgood : machine.definition.Keeps K good) (client : Client S C K M ε)
    (code : Code S C K M ε α) {world : World S C K M} (hstart : good world.state) (depth : Nat) :
  (Shared.run machine client depth code world).Reaches (fun world _ => good world.state)
    fun _ world _ => good world.state
  := by
  have hstate : OfState (fun _ => True) fun (world : World S C K M) (_ : History S C K M) =>
      good world.state := by
    constructor
    · intro world world' history heq hworld
      rw [heq]
      apply hworld
    · intro _ _
      trivial
  apply Contract.reaches_run_keeping
  · intro call world history _ hworld
    apply hworld
  · intro call answer world history _ hworld
    apply hworld
  · intro call _
    apply hstate.runs_body client
    intro action
    apply hstate.runs_perform
    intro world history hworld
    apply Judgement.holds_mono _ (hgood.holds_step machine.config hworld action _ _ _)
    · intro outcome hnext next houtcome _ _ _
      apply hnext next houtcome
    · intro token event context
      exact hstate.runs_ask trivial
    · intro token context
      exact hstate.runs_ask trivial
    · intro report
      exact Contract.runs_ask_keeping trivial
  · apply hstate.runs_ofCode
  · apply hstart

end GuardedMachine.Shared
