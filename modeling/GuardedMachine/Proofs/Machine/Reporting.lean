import GuardedMachine.Proofs.Dispatch.Alike
import GuardedMachine.Shared.Run
import GuardedMachine.Synced.Run

/-!
# Reporting changes nothing

What a machine does is independent of how it reports, that is of the console, of the verbosity and of
development mode: `Machine.reporting_harmless`.  For one step this holds of all guards that
return.  A guard that is traced is asked once more, so for sequences of steps and for runs guards have
to answer from the event and the context alone.

For the runs of a kind of machine it is enough to see which calls take steps (`Synced.retold`,
`Shared.retold`) and that these ask hidden calls (`Synced.discreet`, `Shared.discreet`).
-/

namespace GuardedMachine

open Program

variable {S C K M ε : Type}

/-- The machine with another reporter and with or without development mode. -/
def Machine.reporting [DecidableEq S] [StateValue S] (machine : Machine S C K)
    (reporter : Reporter) (development : Bool) : Machine S C K where
  definition := machine.definition
  config := machine.config.reporting reporter development
  resolved := machine.resolved

/-- Guards with a memory, which always answer, and reducers. -/
def StepClient.remembering {σ : Type} (answer : K → Event → C → σ → Bool × σ)
    (reduce : K → C → StateT σ (Except ε) C) : StepClient σ ε C K where
  guard token event context := fun memory => .ok (answer token event context memory)
  reduce := reduce

/-! ### Effects -/

namespace EffectHost

variable {m : Type → Type} [Monad m] [StateValue S] [Context C] (host : EffectHost m C K)
  (config : Config K) (reporter : Reporter) (development : Bool)

theorem runEffects_reporting (state : MachineState S C) (handle : Handle) (names : List String) :
  host.runEffects (config.reporting reporter development) state handle names
    = host.runEffects config state handle names
  := by
  induction names with
  | nil => rfl
  | cons name rest ih =>
    rw [runEffects, runEffects, ih]
    rfl

/-- The entry of a state does not depend on how it is reported. -/
theorem enter_reporting [DecidableEq S] (definition : Definition S C) (state : MachineState S C)
    (sync : Bool) :
  host.enter definition (config.reporting reporter development) state sync
    = host.enter definition config state sync
  := by simp only [enter, runEffects_reporting]

end EffectHost

/-! ### Synchronous machines -/

namespace Synced

/-- Whether a call is anything but a question to a guard and a report. -/
def Call.visible : Call S C K → Bool
  | .guard _ _ _ => false
  | .report _ => false
  | _ => true

/-- The client with guards that answer from the event and the context alone. -/
def Client.deciding (client : Client S C K M ε) (predicate : K → Event → C → Bool) :
    Client S C K M ε :=
  { client with guard := fun token event context => pure (predicate token event context) }

variable [DecidableEq S] [StateValue S] [Context C] (machine : Machine S C K)
  (client : Client S C K M ε) (reporter : Reporter) (development : Bool)

/-- A body is the same, or takes a step that is reported otherwise. -/
theorem retold (call : Call S C K) :
  stepHost.Retold machine.definition machine.config reporter development
    (body machine client call) (body (machine.reporting reporter development) client call)
  := by
  cases call with
  | apply action => exact .after _ fun world => .step world.state action _
  | enter state =>
    have henter : body (machine.reporting reporter development) client (.enter state)
        = body machine client (.enter state) := by
      apply EffectHost.enter_reporting
    rw [henter]
    apply StepHost.Retold.same
  | _ => apply StepHost.Retold.same

/-- Steps ask hidden calls alone. -/
theorem discreet (machine' : Machine S C K) (predicate : K → Event → C → Bool) :
  Discreet Call.visible (body machine (client.deciding predicate))
    (body machine' (client.deciding predicate)) stepHost
  where
  guard _ _ _ _ := steady_ask rfl rfl
  guard' _ _ _ _ := steady_ask rfl rfl
  report _ _ _ _ := alike_hidden rfl rfl rfl rfl (alike_done _)

end Synced

/-! ### Shared machines -/

namespace Shared

/-- Whether a call is anything but a question to a guard and a report. -/
def Call.visible : Call S C K → Bool
  | .guard _ _ _ => false
  | .report _ => false
  | _ => true

/-- The client with guards that answer from the event and the context alone. -/
def Client.deciding (client : Client S C K M ε) (predicate : K → Event → C → Bool) :
    Client S C K M ε :=
  { client with guard := fun token event context => pure (predicate token event context) }

variable [DecidableEq S] [StateValue S] [Context C] (machine : Machine S C K)
  (client : Client S C K M ε) (reporter : Reporter) (development : Bool)

/-- A body is the same, or takes a step that is reported otherwise. -/
theorem retold (call : Call S C K) :
  stepHost.Retold machine.definition machine.config reporter development
    (body machine client call) (body (machine.reporting reporter development) client call)
  := by
  cases call with
  | perform action => exact .after _ fun world => .after _ fun _ => .step world.state action _
  | _ => apply StepHost.Retold.same

/-- Steps ask hidden calls alone. -/
theorem discreet (machine' : Machine S C K) (predicate : K → Event → C → Bool) :
  Discreet Call.visible (body machine (client.deciding predicate))
    (body machine' (client.deciding predicate)) stepHost
  where
  guard _ _ _ _ := steady_ask rfl rfl
  guard' _ _ _ _ := steady_ask rfl rfl
  report _ _ _ _ := alike_hidden rfl rfl rfl rfl (alike_done _)

end Shared

/-! ### All machines -/

/-- However a machine reports, a step has the same outcome, and, if guards answer from the event and
the context alone, transitions one after the other come to the same state and runs of synchronous and
of shared machines to the same end in the same world, after the same calls other than questions to
guards and reports: the same effects, cleanups and observers are run, with the same parameters. -/
theorem Machine.reporting_harmless [DecidableEq S] [StateValue S] [Context C]
    (definition : Definition S C) (config : Config K) (reporter : Reporter) (development : Bool) :
  (∀ (σ ε : Type) (answer : K → Event → C → σ → Bool × σ)
      (reduce : K → C → StateT σ (Except ε) C) (state : MachineState S C) (action : Action K)
      (recorded : Recorded σ),
      ((definition.step config (.remembering answer reduce) state action).run recorded).map Prod.fst
        = ((definition.step (config.reporting reporter development) (.remembering answer reduce)
            state action).run recorded).map Prod.fst)
    ∧ (∀ (σ ε : Type) (predicate : K → Event → C → Bool)
      (reduce : K → C → StateT σ (Except ε) C) (actions : List (Action K))
      (state : MachineState S C) (recorded : Recorded σ),
      unreported ((actions.foldlM (definition.transition config (.deciding predicate reduce))
          state).run recorded)
        = unreported ((actions.foldlM (definition.transition
            (config.reporting reporter development) (.deciding predicate reduce)) state).run
            recorded))
    ∧ (∀ (resolved : definition.validate config = []) (M ε α : Type)
      (client : Synced.Client S C K M ε) (predicate : K → Event → C → Bool)
      (code : Synced.Code S C K M ε α) (world : Synced.World S C K M) (depth : Nat),
      (Synced.run { definition, config, resolved } (client.deciding predicate) depth code
          world).only Synced.Call.visible
        = (Synced.run (Machine.reporting { definition, config, resolved } reporter development)
            (client.deciding predicate) depth code world).only Synced.Call.visible)
    ∧ ∀ (resolved : definition.validate config = []) (M ε α : Type)
      (client : Shared.Client S C K M ε) (predicate : K → Event → C → Bool)
      (code : Shared.Code S C K M ε α) (world : Shared.World S C K M) (depth : Nat),
      (Shared.run { definition, config, resolved } (client.deciding predicate) depth code
          world).only Shared.Call.visible
        = (Shared.run (Machine.reporting { definition, config, resolved } reporter development)
            (client.deciding predicate) depth code world).only Shared.Call.visible
  := by
  refine ⟨?_, ?_, ?_, ?_⟩
  · intro σ ε answer reduce state action recorded
    symm
    apply step_outcome
    intro token event context recorded
    exact ⟨_, _, rfl, trivial⟩
  · intro σ ε predicate reduce actions state recorded
    obtain ⟨result, htransitions⟩ :=
      transitions_unreported definition config predicate reduce actions state recorded.memory
    exact (htransitions config.reporter config.development recorded.reports).trans
      (htransitions reporter development recorded.reports).symm
  · intro resolved M ε α client predicate code world depth
    apply Discreet.only_run (Synced.discreet _ client _ predicate)
      (Synced.retold { definition, config, resolved } _ reporter development)
  · intro resolved M ε α client predicate code world depth
    apply Discreet.only_run (Shared.discreet _ client _ predicate)
      (Shared.retold { definition, config, resolved } _ reporter development)

end GuardedMachine
