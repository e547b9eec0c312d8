import GuardedMachine.Proofs.Machine.Steps
import GuardedMachine.Proofs.Program.Keeping
import GuardedMachine.Proofs.Synced.Bodies

/-!
# The states of synchronous machines

Only applying an action changes the state of a synchronous machine.  So an invariant that depends on
the state, and perhaps on what was reported, is kept by every body if it is kept by steps
(`OfState.runs_body`), whatever the owner and the callbacks ask of the machine.  In particular a
property of states that every step keeps holds at every moment of a run (`states_keep`).
-/

namespace GuardedMachine.Synced

variable {S C K M ε α : Type} {allowed : Call S C K → Prop} {invariant : Invariant S C K M}

/-! ### Invariants of the state -/

/-- A call that does not report anything as undefined. -/
def Call.Sane : Call S C K → Prop
  | .report written => written.diagnostic.isUndefined = false
  | _ => True

/-- An invariant that depends on nothing in the world but the state, with the calls that keep it. -/
structure OfState (allowed : Call S C K → Prop) (invariant : Invariant S C K M) : Prop where
  of_state : ∀ world world' history, world'.state = world.state → invariant world history →
    invariant world' history
  allowed : ∀ call : Call S C K, call.Sane → allowed call

namespace OfState

variable (hstate : OfState allowed invariant)

include hstate

theorem runs_ask {call : Call S C K} (hcall : call.Sane) :
  ((Contract.keeping allowed invariant).judgement invariant).runs
    (ask call : Engine S C K M ε call.Answer)
  := Contract.runs_ask_keeping (hstate.allowed call hcall)

/-- A change of the world that leaves the state keeps the invariant. -/
theorem runs_update {change : World S C K M → World S C K M}
    (h : ∀ world, (change world).state = world.state) :
  ((Contract.keeping allowed invariant).judgement invariant).runs
    (Program.update change : Engine S C K M ε Unit)
  := by
  apply Contract.runs_update
  intro world history
  apply hstate.of_state _ _ _ (h world)

/-- An outermost call changes nothing but what it does. -/
theorem runs_act {program : Engine S C K M ε Unit}
    (h : ((Contract.keeping allowed invariant).judgement invariant).runs program) :
  ((Contract.keeping allowed invariant).judgement invariant).runs (act program)
  := by
  apply Judgement.runs_bind Contract.runs_world
  intro world
  split
  · apply h
  · refine Judgement.runs_bind (hstate.runs_update fun _ => rfl) ?_
    intro _
    apply Judgement.runs_bind h
    intro _
    refine Judgement.runs_bind (hstate.runs_ask trivial) ?_
    intro _
    exact hstate.runs_update fun _ => rfl

theorem runs_runExit :
  ((Contract.keeping allowed invariant).judgement invariant).runs
    (runExit : Engine S C K M ε Unit)
  := by
  apply Synced.runs_runExit
  · intro world history exit
    exact hstate.of_state _ _ _ rfl
  · intro cleanup event context
    exact hstate.runs_ask trivial

theorem runs_flush [DecidableEq S] :
  ((Contract.keeping allowed invariant).judgement invariant).runs (flush : Engine S C K M ε Unit)
  := by
  apply Synced.runs_flush
  · intro world history entered
    exact hstate.of_state _ _ _ rfl
  · intro state
    exact hstate.runs_ask trivial

/-- Every request may be made. -/
theorem runs_serveRequest [DecidableEq S] (request : Request K) :
  ((Contract.keeping allowed invariant).judgement invariant).runs
    (serveRequest request : Engine S C K M ε (request.Answer S C))
  := by
  have hqueues : Queues (Contract.keeping allowed invariant) invariant ε := by
    constructor
    · intro world history mounted
      exact hstate.of_state _ _ _ rfl
    · intro action
      exact hstate.runs_ask trivial
    · intro report hmisuse
      exact hstate.runs_ask (Diagnostic.isUndefined_of_isMisuse hmisuse)
  have hordinary : request.Ordinary →
      ((Contract.keeping allowed invariant).judgement invariant).runs
        (serveRequest request : Engine S C K M ε (request.Answer S C)) := by
    apply hqueues.serveRequest hqueues
    · intro program
      apply hstate.runs_act
    · apply hstate.runs_flush
    · intro token
      exact hstate.runs_ask trivial
  cases request with
  | drain => exact hstate.runs_ask trivial
  | flush => apply hstate.runs_flush
  | stop =>
    refine Judgement.runs_bind (hstate.runs_update fun _ => rfl) ?_
    intro _
    apply Judgement.runs_bind hstate.runs_runExit
    intro _
    exact hstate.runs_update fun _ => rfl
  | _ => exact hordinary trivial

/-- A program of a client keeps what every request keeps. -/
theorem runs_ofCode (code : Code S C K M ε α) :
  ((Contract.keeping allowed invariant).judgement invariant).runs (ofCode code)
  := by
  apply Synced.runs_ofCode _ _ (Program.asks_true code)
  · intro world history memory
    exact hstate.of_state _ _ _ rfl
  · intro request _
    exact hstate.runs_ask trivial

variable [DecidableEq S] [StateValue S] [Context C] {machine : Machine S C K}

/-- Applying an action keeps the invariant if it holds of the state that a step leads to. -/
theorem runs_apply {action : Action K}
    (hstep : ∀ world history, invariant world history →
      ((Contract.keeping allowed invariant).judgement invariant).holds
        (fun outcome => ∀ next, outcome.state? = some next → ∀ world' history',
          invariant world' history' → invariant { world' with state := next } history')
        (stepHost.step machine.definition machine.config world.state action :
          Engine S C K M ε (Outcome S C))) :
  ((Contract.keeping allowed invariant).judgement invariant).runs
    (apply machine action : Engine S C K M ε Unit)
  := by
  intro world history hinvariant
  simp only [apply, Contract.ensures_bind, Contract.ensures_world]
  apply (hstep world history hinvariant world history hinvariant).mono
  rintro outcome world' history' - ⟨hnext, hinvariant'⟩
  cases outcome with
  | unchanged => exact ⟨trivial, hinvariant'⟩
  | contextUpdated next => exact ⟨trivial, hnext next rfl _ _ hinvariant'⟩
  | transitioned next =>
    use trivial
    apply hstate.of_state _ _ _ _ (hnext next rfl _ _ hinvariant')
    rfl

/-- Every body keeps the invariant if applying an action does. -/
theorem runs_body (client : Client S C K M ε)
    (happly : ∀ action, ((Contract.keeping allowed invariant).judgement invariant).runs
      (apply machine action : Engine S C K M ε Unit))
    (call : Call S C K) :
  ((Contract.keeping allowed invariant).judgement invariant).runs (body machine client call)
  := by
  have hlocks : ∀ world history locks, invariant world history →
      invariant { world with locks } history := by
    intro world history locks
    exact hstate.of_state _ _ _ rfl
  cases call with
  | request request => apply hstate.runs_serveRequest
  | settle =>
    apply runs_settle _ hstate.runs_flush
    · exact hstate.runs_ask trivial
    · exact hstate.runs_ask trivial
  | drain =>
    apply runs_drain
    · intro world history queue
      exact hstate.of_state _ _ _ rfl
    · intro action
      exact hstate.runs_ask trivial
    · exact hstate.runs_ask trivial
  | push action => exact hstate.runs_update fun _ => rfl
  | apply action => apply happly
  | renew state =>
    apply runs_renew
    · intro world history exit
      exact hstate.of_state _ _ _ rfl
    · intro cleanup event context
      exact hstate.runs_ask trivial
    · exact hstate.runs_ask trivial
  | leave cleanup event context =>
    apply EffectHost.runs_leave
    · apply runs_setLocked hlocks
    · intro token params
      exact hstate.runs_ask trivial
  | enter state =>
    apply machine.runs_enter
    · apply runs_newLock hlocks
    · apply runs_setLocked hlocks
    · intro token params
      exact hstate.runs_ask trivial
  | guard token event context => apply hstate.runs_ofCode
  | reduce token context => apply hstate.runs_ofCode
  | effect token params => apply hstate.runs_ofCode
  | cleanup token params => apply hstate.runs_ofCode
  | callback token => apply hstate.runs_ofCode
  | report report => apply Judgement.runs_pure

end OfState

/-! ### Properties of states -/

variable [DecidableEq S] [StateValue S] [Context C]

/-- A property of states that every step keeps holds at every moment of a run. -/
theorem states_keep (machine : Machine S C K) {good : MachineState S C → Prop}
    (hgood : machine.definition.Keeps K good) (client : Client S C K M ε)
    (code : Code S C K M ε α) {world : World S C K M} (hstart : good world.state) (depth : Nat) :
  (Synced.run machine client depth code world).Reaches (fun world _ => good world.state)
    fun _ world _ => good world.state
  := by
  have hstate : OfState (fun _ => True) fun (world : World S C K M) (_ : History S C K M) =>
      good world.state := by
    constructor
    · intro world world' history heq hworld
      rw [heq]
      apply hworld
    · intro _ _
      trivial
  apply Contract.reaches_run_keeping
  · intro call world history _ hworld
    apply hworld
  · intro call answer world history _ hworld
    apply hworld
  · intro call _
    apply hstate.runs_body client
    intro action
    apply hstate.runs_apply
    intro world history hworld
    apply Judgement.holds_mono _ (hgood.holds_step machine.config hworld action _ _ _)
    · intro outcome hnext next houtcome _ _ _
      apply hnext next houtcome
    · intro token event context
      exact hstate.runs_ask trivial
    · intro token context
      exact hstate.runs_ask trivial
    · intro report
      exact Contract.runs_ask_keeping trivial
  · apply hstate.runs_ofCode
  · apply hstart

end GuardedMachine.Synced
