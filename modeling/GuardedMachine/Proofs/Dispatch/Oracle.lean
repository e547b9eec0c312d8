import GuardedMachine.Proofs.Dispatch.Outcomes
import Mathlib.Data.List.Induction

/-!
# Guards and reducers without a memory

Guards that answer from the event and the context alone, and reducers that make a context from the
previous one alone, are given by an `Oracle`.  Then every action has one outcome at a state, however
the step is run: `holds_step_eq`.  `Machine.outcome` is this outcome, and `Machine.after` the state
to which a list of actions leads.  `Machine.LeadsTo` says that the actions lead from the initial
state to a state by `Machine.transition`, and `leadsTo_after` that this is the same state.
-/

namespace GuardedMachine

/-- Guards and reducers that answer from their arguments alone. -/
structure Oracle (C K : Type) where
  guard : K → Event → C → Bool
  reduce : K → C → C

namespace Oracle

variable {S C K : Type}

/-- The surroundings of a step that answer as the oracle does and write no reports. -/
def host (oracle : Oracle C K) : StepHost Id C K where
  guard := oracle.guard
  reduce := oracle.reduce
  report _ := ()

/-- Guards and reducers with a memory that answer as the oracle does and never fail. -/
def client {σ ε : Type} (oracle : Oracle C K) : StepClient σ ε C K where
  guard token event context := pure (oracle.guard token event context)
  reduce token context := pure (oracle.reduce token context)

/-- The answer to a name. -/
def answer (oracle : Oracle C K) (config : Config K) (event : Event) (context : C)
    (name : String) : Except GuardError Bool :=
  match config.guard? name with
  | some token => .ok (oracle.guard token event context)
  | none => .error (.undefined name)

/-- The decision of a guard; one that cannot be decided does not hold. -/
def decision (oracle : Oracle C K) (config : Config K) (context : C) (event : Event)
    (guard : Guard) : Bool :=
  match guard.evaluate (oracle.answer config event context) with
  | .ok allow => allow
  | .error _ => false

/-- The outcomes that an action can have when guards and reducers answer as the oracle does. -/
def Permits [DecidableEq S] (oracle : Oracle C K) (definition : Definition S C)
    (config : Config K) (state : MachineState S C) : Action K → Outcome S C → Prop :=
  Leads definition
    (fun event guard allow => allow = oracle.decision config state.context event guard)
    (fun reducer made => made = oracle.reduce reducer state.context) state

end Oracle

namespace StepHost

variable {m : Type → Type} [Monad m] {judgement : Judgement m} {S C K : Type} [StateValue S]
  [Context C] {host : StepHost m C K} {oracle : Oracle C K}

/-- Surroundings that answer as an oracle does decide a guard as the oracle does. -/
theorem holds_allows_oracle (config : Config K) (guard : Guard) (state : MachineState S C)
    (target : S) (event : Event)
    (hguard : ∀ token event context,
      judgement.holds (· = oracle.guard token event context) (host.guard token event context))
    (hreport : ∀ report, judgement.runs (host.report report)) :
  judgement.holds (· = oracle.decision config state.context event guard)
    (host.allows config guard state target event)
  := by
  have hcheck : ∀ name, judgement.holds (· = oracle.answer config event state.context name)
      (host.check config event state.context name).run := by
    intro name
    rw [check, Oracle.answer]
    cases config.guard? name with
    | some token =>
      apply judgement.holds_map (hguard token event state.context)
      rintro _ rfl
      rfl
    | none =>
      apply judgement.holds_pure
      rfl
  apply judgement.holds_mono (holds_allows (Guard.holds_evaluate_eq hcheck guard)
    (fun token => Judgement.runs_of_holds (hguard token event state.context))
    (fun report _ => hreport report) (fun name details _ => hreport _))
  rintro allow (hallow | ⟨rfl, error, herror⟩)
  · rw [Oracle.decision, ← hallow]
  · rw [Oracle.decision, ← herror]

variable [DecidableEq S]

/-- Surroundings that answer as an oracle does lead to the outcomes that the oracle allows. -/
theorem holds_step_oracle (definition : Definition S C) (config : Config K)
    (state : MachineState S C) (action : Action K)
    (hguard : ∀ token event context,
      judgement.holds (· = oracle.guard token event context) (host.guard token event context))
    (hreduce : ∀ token context,
      judgement.holds (· = oracle.reduce token context) (host.reduce token context))
    (hreport : ∀ report, judgement.runs (host.report report)) :
  judgement.holds (oracle.Permits definition config state action)
    (host.step definition config state action)
  := by
  apply holds_step
  · intro event row guard _ _
    exact holds_allows_oracle config guard state row.target event hguard hreport
  · intro reducer
    apply hreduce
  · intro report _
    apply hreport
  · intro _ details
    apply hreport

/-- Surroundings that answer as an oracle does lead to the outcome that the oracle's lead to. -/
theorem holds_step_eq (definition : Definition S C) (config : Config K)
    (state : MachineState S C) (action : Action K)
    (hguard : ∀ token event context,
      judgement.holds (· = oracle.guard token event context) (host.guard token event context))
    (hreduce : ∀ token context,
      judgement.holds (· = oracle.reduce token context) (host.reduce token context))
    (hreport : ∀ report, judgement.runs (host.report report)) :
  judgement.holds (· = Id.run (oracle.host.step definition config state action))
    (host.step definition config state action)
  := by
  have horacle : Judgement.value.holds (oracle.Permits definition config state action)
      (oracle.host.step definition config state action) := by
    apply holds_step_oracle
    · intro token event context
      rfl
    · intro token context
      rfl
    · intro report
      trivial
  apply judgement.holds_mono
    (holds_step_oracle definition config state action hguard hreduce hreport)
  intro outcome houtcome
  apply houtcome.unique horacle

end StepHost

/-! ### Transitions -/

/-- The judgement on programs with a memory and reports that return. -/
def returningJudgement {σ ε : Type} : Judgement (Recording σ ε) where
  holds P program := ∀ recorded, ∃ a recorded', program.run recorded = .ok (a, recorded') ∧ P a
  holds_pure h recorded := ⟨_, recorded, rfl, h⟩
  holds_bind {α β P Q program f} h hf recorded := by
    obtain ⟨a, recorded', hrun, ha⟩ := h recorded
    obtain ⟨b, recorded'', hrun', hb⟩ := hf a ha recorded'
    use b, recorded''
    rw [StateT.run_bind, hrun]
    exact ⟨hrun', hb⟩
  holds_map {α β P Q program f} h hf recorded := by
    obtain ⟨a, recorded', hrun, ha⟩ := h recorded
    use f a, recorded'
    rw [StateT.run_map, hrun]
    exact ⟨rfl, hf a ha⟩
  holds_mono h himp recorded := by
    obtain ⟨a, recorded', hrun, ha⟩ := h recorded
    exact ⟨a, recorded', hrun, himp a ha⟩

/-- The judgement on programs that return and leave the memory as it is. -/
def leavingJudgement {σ ε : Type} : Judgement (Recording σ ε) where
  holds P program := ∀ recorded, ∃ a recorded', program.run recorded = .ok (a, recorded')
    ∧ P a ∧ recorded'.memory = recorded.memory
  holds_pure h recorded := ⟨_, recorded, rfl, h, rfl⟩
  holds_bind {α β P Q program f} h hf recorded := by
    obtain ⟨a, recorded', hrun, ha, hmemory⟩ := h recorded
    obtain ⟨b, recorded'', hrun', hb, hmemory'⟩ := hf a ha recorded'
    use b, recorded''
    rw [StateT.run_bind, hrun]
    exact ⟨hrun', hb, hmemory'.trans hmemory⟩
  holds_map {α β P Q program f} h hf recorded := by
    obtain ⟨a, recorded', hrun, ha, hmemory⟩ := h recorded
    use f a, recorded'
    rw [StateT.run_map, hrun]
    exact ⟨rfl, hf a ha, hmemory⟩
  holds_mono h himp recorded := by
    obtain ⟨a, recorded', hrun, ha, hmemory⟩ := h recorded
    exact ⟨a, recorded', hrun, himp a ha, hmemory⟩

/-- A report leaves the memory as it is. -/
theorem leavingJudgement_report {σ ε C K : Type} {client : StepClient σ ε C K} (report : Report) :
  leavingJudgement.runs (client.host.report report)
  := fun recorded =>
    ⟨(), { recorded with reports := recorded.reports ++ [report] }, rfl, trivial, rfl⟩

namespace Machine

variable {S C K : Type} [DecidableEq S] [StateValue S] [Context C]

/-- Transitions on a list of actions lead from the initial state to a state, when guards and
reducers answer as an oracle does. -/
def LeadsTo (machine : Machine S C K) (oracle : Oracle C K) (actions : List (Action K))
    (state : MachineState S C) : Prop :=
  ∃ recorded : Recorded Unit,
    (actions.foldlM (machine.transition (oracle.client : StepClient Unit Empty C K))
        machine.initialState).run { memory := (), reports := [] } = .ok (state, recorded)

/-- The outcome of an action at a state. -/
def outcome (machine : Machine S C K) (oracle : Oracle C K) (state : MachineState S C)
    (action : Action K) : Outcome S C :=
  Id.run (oracle.host.step machine.definition machine.config state action)

/-- The state to which an action leads. -/
def next (machine : Machine S C K) (oracle : Oracle C K) (state : MachineState S C)
    (action : Action K) : MachineState S C :=
  (machine.outcome oracle state action).stateFrom state

/-- The state to which actions lead, one after the other. -/
def after (machine : Machine S C K) (oracle : Oracle C K) (state : MachineState S C)
    (actions : List (Action K)) : MachineState S C :=
  actions.foldl (machine.next oracle) state

/-- Whether each of some actions is accepted, when they are applied one after the other. -/
def changes (machine : Machine S C K) (oracle : Oracle C K) :
    MachineState S C → List (Action K) → List Bool
  | _, [] => []
  | state, action :: rest =>
    (!(machine.outcome oracle state action).isUnchanged)
      :: changes machine oracle (machine.next oracle state action) rest

variable {machine : Machine S C K} {oracle : Oracle C K}

theorem after_append (state : MachineState S C) (actions actions' : List (Action K)) :
  machine.after oracle state (actions ++ actions')
    = machine.after oracle (machine.after oracle state actions) actions'
  := List.foldl_append

/-- An action is accepted or not at the state to which the actions before it lead. -/
theorem changes_getElem? (state : MachineState S C) {actions : List (Action K)} {index : Nat}
    {action : Action K} (h : actions[index]? = some action) :
  (machine.changes oracle state actions)[index]?
    = some (!(machine.outcome oracle (machine.after oracle state (actions.take index))
        action).isUnchanged)
  := by
  induction actions generalizing state index with
  | nil => cases h
  | cons first rest ih =>
    cases index with
    | zero =>
      cases h
      rfl
    | succ index => apply ih _ h

theorem length_changes (state : MachineState S C) (actions : List (Action K)) :
  (machine.changes oracle state actions).length = actions.length
  := by
  induction actions generalizing state with
  | nil => rfl
  | cons first rest ih => rw [changes, List.length_cons, ih, List.length_cons]

/-- A step returns with the outcome of its action. -/
theorem step_oracle (machine : Machine S C K) (oracle : Oracle C K) (state : MachineState S C)
    (action : Action K) (recorded : Recorded Unit) :
  ∃ recorded', (machine.step (oracle.client : StepClient Unit Empty C K) state action).run recorded
    = .ok (machine.outcome oracle state action, recorded')
  := by
  have hstep : returningJudgement.holds (· = machine.outcome oracle state action)
      (machine.step (oracle.client : StepClient Unit Empty C K) state action) := by
    apply StepHost.holds_step_eq
    · intro token event context recorded
      exact ⟨_, _, rfl, rfl⟩
    · intro token context recorded
      exact ⟨_, _, rfl, rfl⟩
    · intro report recorded
      exact ⟨_, _, rfl, trivial⟩
  obtain ⟨_, recorded', hrun, rfl⟩ := hstep recorded
  exact ⟨recorded', hrun⟩

theorem leadsTo_nil :
  machine.LeadsTo oracle [] machine.initialState
  := ⟨_, rfl⟩

/-- One more action leads to the state that the outcome of its step makes of the last one. -/
theorem LeadsTo.step {actions : List (Action K)} {state : MachineState S C}
    (h : machine.LeadsTo oracle actions state) (action : Action K) :
  machine.LeadsTo oracle (actions ++ [action]) (machine.next oracle state action)
  := by
  obtain ⟨recorded, hrun⟩ := h
  obtain ⟨recorded', hstep⟩ := machine.step_oracle oracle state action recorded
  use recorded'
  rw [List.foldlM_append, StateT.run_bind, hrun]
  change (machine.transition oracle.client state action >>= pure).run recorded = _
  rw [bind_pure]
  change (machine.step oracle.client state action >>= fun outcome =>
    pure (outcome.stateFrom state)).run recorded = _
  rw [StateT.run_bind, hstep]
  rfl

/-- Transitions on actions lead where the actions lead one after the other. -/
theorem leadsTo_after (actions : List (Action K)) :
  machine.LeadsTo oracle actions (machine.after oracle machine.initialState actions)
  := by
  induction actions using List.reverseRecOn with
  | nil => apply leadsTo_nil
  | append_singleton actions action ih =>
    rw [after_append]
    apply ih.step action

end Machine

end GuardedMachine
