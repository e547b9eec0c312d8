import GuardedMachine.Proofs.Definition.Listing
import GuardedMachine.Proofs.Shared.States
import GuardedMachine.Proofs.Synced.States

/-!
# The events that states list

A state carries the kinds of events that its value listens to.  Every step keeps this list up to
date (`Definition.keeps_lists`), and an accepted event makes it anew, so that it is up to date from
then on even if the machine was started in a state with a wrong list.  For a definition built from
clauses the list is written out in `Definition.lists_built`.
-/

namespace GuardedMachine

variable {σ ε S C K : Type} [DecidableEq S]

/-- The events that a state lists are the kinds of the rows that count at its value, without
repetitions and in the order of their first occurrence. -/
def Listed (clauses : List (Clause S C)) (state : MachineState S C) : Prop :=
  state.nextEvents = firstOccurrences (writtenKinds clauses state.value)
    ∧ state.nextEvents.Nodup

namespace Definition

/-- The events that a state lists are those that the definition lists at its value. -/
def Lists (definition : Definition S C) (state : MachineState S C) : Prop :=
  state.nextEvents = definition.nextEvents state.value

/-- A built definition lists the kinds of the rows that count at a value. -/
theorem listed_iff {initial : S} {context : C} {clauses : List (Clause S C)}
    {state : MachineState S C} :
  Listed clauses state ↔ (build initial context clauses).Lists state
  := by
  rw [Lists, nextEvents_build]
  constructor
  · intro h
    apply h.1
  · intro h
    constructor
    · apply h
    · rw [h]
      apply nodup_firstOccurrences

theorem lists_initialState (definition : Definition S C) :
  definition.Lists definition.initialState
  := rfl

/-- The state that an accepted event leads to lists its events, whatever was listed before. -/
theorem lists_transitioned {definition : Definition S C} {decides : Event → Guard → Bool → Prop}
    {makes : K → C → Prop} {state next : MachineState S C} {action : Action K}
    (h : Leads definition decides makes state action (.transitioned next)) :
  definition.Lists next
  := by
  cases h
  rfl

/-- Every step keeps the list of events up to date. -/
theorem keeps_lists (definition : Definition S C) :
  definition.Keeps K definition.Lists
  := by
  intro state action outcome next hleads hnext hlists
  cases hleads with
  | undefined | unknown | denied => cases hnext
  | accepted =>
    cases hnext
    rfl
  | updated =>
    -- Neither the value nor the list changes with the context.
    cases hnext
    apply hlists

variable [StateValue S] [Context C]

/-- A step has one of the outcomes that its action can have. -/
theorem leads_of_step {definition : Definition S C} {config : Config K}
    {client : StepClient σ ε C K} {state : MachineState S C} {action : Action K}
    {outcome : Outcome S C} {recorded recorded' : Recorded σ}
    (hrun : (definition.step config client state action).run recorded = .ok (outcome, recorded')) :
  Leads definition (fun _ _ _ => True) (fun _ _ => True) state action outcome
  := by
  have hstep := definition.holds_step_leads config client state action
  apply (hstep recorded trivial outcome recorded' hrun).1

/-- Whatever is done with a built definition, its states list the kinds of the rows that count at
their values: when its steps are taken one after the other, from the initial state or after an event
that is accepted at any state at all, and at every moment of a run of a synchronous or a shared
machine. -/
theorem lists_built (initial : S) (context : C) (clauses : List (Clause S C))
    (config : Config K) :
  (∀ (σ ε : Type) (client : StepClient σ ε C K) (actions : List (Action K))
      (state : MachineState S C) (recorded recorded' : Recorded σ),
      (actions.foldlM ((build initial context clauses).transition config client)
        (build initial context clauses).initialState).run recorded = .ok (state, recorded') →
          Listed clauses state)
    ∧ (∀ (σ ε : Type) (client : StepClient σ ε C K) (action : Action K)
      (actions : List (Action K)) (start next state : MachineState S C)
      (recorded recorded' recorded'' : Recorded σ),
      ((build initial context clauses).step config client start action).run recorded
          = .ok (.transitioned next, recorded') →
        (actions.foldlM ((build initial context clauses).transition config client) next).run
            recorded' = .ok (state, recorded'') →
          Listed clauses state)
    ∧ (∀ (resolved : (build initial context clauses).validate config = []) (M ε α : Type)
      (client : Synced.Client S C K M ε) (code : Synced.Code S C K M ε α) (memory : M)
      (depth : Nat),
      (Synced.run { definition := build initial context clauses, config, resolved } client depth
        code (Synced.World.initial (build initial context clauses).initialState memory)).Reaches
          (fun world _ => Listed clauses world.state) fun _ world _ => Listed clauses world.state)
    ∧ ∀ (resolved : (build initial context clauses).validate config = []) (M ε α : Type)
      (client : Shared.Client S C K M ε) (code : Shared.Code S C K M ε α) (memory : M)
      (depth : Nat),
      (Shared.run { definition := build initial context clauses, config, resolved } client depth
        code (Shared.World.initial (build initial context clauses).initialState memory)).Reaches
          (fun world _ => Listed clauses world.state) fun _ world _ => Listed clauses world.state
  := by
  have hkeeps : (build initial context clauses).Keeps K (Listed clauses) := by
    intro state action outcome next hleads hnext hstate
    apply listed_iff.mpr
    apply keeps_lists _ state action outcome next hleads hnext
    apply listed_iff.mp hstate
  have hstart := listed_iff.mpr (build initial context clauses).lists_initialState
  refine ⟨?_, ?_, ?_, ?_⟩
  · intro σ ε client actions state recorded recorded' hrun
    apply hkeeps.transitions hstart hrun
  · intro σ ε client action actions start next state recorded recorded' recorded'' hstep hrun
    have hnext := lists_transitioned (leads_of_step hstep)
    apply hkeeps.transitions (listed_iff.mpr hnext) hrun
  · intro resolved M ε α client code memory depth
    exact Synced.states_keep { definition := build initial context clauses, config, resolved }
      hkeeps client code hstart depth
  · intro resolved M ε α client code memory depth
    exact Shared.states_keep { definition := build initial context clauses, config, resolved }
      hkeeps client code hstart depth

end Definition

end GuardedMachine
