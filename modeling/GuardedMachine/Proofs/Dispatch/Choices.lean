import GuardedMachine.Proofs.Dispatch.Outcomes
import GuardedMachine.Machine.Basic

/-!
# Guards and reducers that choose

Guards and reducers may answer differently each time they are asked.  `Choices` says what they may
answer, and `Machine.Accepts` which states an action may then lead to when it is accepted: every
step that is accepted leads to one of them (`holds_step_accepts`).  `Machine.Takes` says that
actions lead from one state to another, each accepted at the state to which the previous one led.
-/

namespace GuardedMachine

/-- What may be answered: programs as the sets of their results. -/
def Possibly (α : Type) : Type :=
  α → Prop

instance : Monad Possibly where
  pure a := fun b => b = a
  bind program f := fun b => ∃ a, program a ∧ f a b

namespace Guard

variable {m : Type → Type} [Monad m] {judgement : Judgement m} {check : String → m Bool}
  {answers : String → Possibly Bool}

mutual

/-- If predicates answer what they may, a guard is decided as it may be. -/
theorem holds_evaluate_possibly (h : ∀ name, judgement.holds (answers name) (check name)) :
    ∀ guard : Guard,
  judgement.holds (guard.evaluate answers) (guard.evaluate check)
  | .leaf name => h name
  | .not inner => by
      apply judgement.holds_bind (holds_evaluate_possibly h inner)
      intro allow hallow
      apply judgement.holds_pure
      exact ⟨allow, hallow, rfl⟩
  | .and children => holds_evaluateAll_possibly h children
  | .or children => holds_evaluateAny_possibly h children

theorem holds_evaluateAll_possibly (h : ∀ name, judgement.holds (answers name) (check name)) :
    ∀ children : List Guard,
  judgement.holds (evaluateAll answers children) (evaluateAll check children)
  | [] => judgement.holds_pure rfl
  | child :: rest => by
      apply judgement.holds_bind (holds_evaluate_possibly h child)
      rintro (_ | _) hallow
      · apply judgement.holds_pure
        exact ⟨false, hallow, rfl⟩
      · apply judgement.holds_mono (holds_evaluateAll_possibly h rest)
        intro answer hanswer
        exact ⟨true, hallow, hanswer⟩

theorem holds_evaluateAny_possibly (h : ∀ name, judgement.holds (answers name) (check name)) :
    ∀ children : List Guard,
  judgement.holds (evaluateAny answers children) (evaluateAny check children)
  | [] => judgement.holds_pure rfl
  | child :: rest => by
      apply judgement.holds_bind (holds_evaluate_possibly h child)
      rintro (_ | _) hallow
      · apply judgement.holds_mono (holds_evaluateAny_possibly h rest)
        intro answer hanswer
        exact ⟨false, hallow, hanswer⟩
      · apply judgement.holds_pure
        exact ⟨true, hallow, rfl⟩

end

end Guard

/-- What guards may answer and reducers may make. -/
structure Choices (C K : Type) where
  guard : K → Event → C → Bool → Prop
  reduce : K → C → C → Prop

/-- What a name may be answered by; one that is not configured has no answer. -/
def Choices.answers {C K : Type} (choices : Choices C K) (config : Config K) (event : Event)
    (context : C) (name : String) : Possibly Bool :=
  fun allow => ∃ token, config.guard? name = some token ∧ choices.guard token event context allow

namespace Machine

variable {S C K : Type} [DecidableEq S] [StateValue S] {machine : Machine S C K}
  {choices : Choices C K}

/-- The states to which an action may lead when it is accepted at a state. -/
inductive Accepts (machine : Machine S C K) (choices : Choices C K) (state : MachineState S C) :
    Action K → MachineState S C → Prop where
  /-- The event has a row, whose guard may hold. -/
  | event {event : Event} {row : Target S} :
    (machine.definition.state? state.value).isSome →
      machine.definition.transition? state.value event.kind = some row →
        (∀ guard, row.guard = some guard →
          guard.evaluate (choices.answers machine.config event state.context) true) →
          Accepts machine choices state (.send event)
            { value := row.target
              context := state.context
              event
              nextEvents := machine.definition.nextEvents row.target }
  /-- The reducer may make the context. -/
  | context {reducer : K} {context : C} :
    choices.reduce reducer state.context context →
      Accepts machine choices state (.setContext reducer) { state with context }

/-- Actions lead from one state to another, each accepted at the state to which the previous one
led. -/
inductive Takes (machine : Machine S C K) (choices : Choices C K) :
    MachineState S C → List (Action K) → MachineState S C → Prop where
  | nil {state : MachineState S C} : Takes machine choices state [] state
  | cons {state state' state'' : MachineState S C} {action : Action K}
      {actions : List (Action K)} :
    machine.Accepts choices state action state' → Takes machine choices state' actions state'' →
      Takes machine choices state (action :: actions) state''

theorem Takes.append {state state' state'' : MachineState S C} {actions actions' : List (Action K)}
    (h : machine.Takes choices state actions state')
    (h' : machine.Takes choices state' actions' state'') :
  machine.Takes choices state (actions ++ actions') state''
  := by
  induction h with
  | nil => apply h'
  | cons haccepts _ ih => apply Takes.cons haccepts (ih h')

variable {m : Type → Type} [Monad m] {judgement : Judgement m} [Context C]

/-- If guards and reducers answer what they may, a step that is accepted leads to a state to which
its action may lead. -/
theorem holds_step_accepts (machine : Machine S C K) {host : StepHost m C K}
    {state : MachineState S C} (action : Action K)
    (hguard : ∀ token event context,
      judgement.holds (choices.guard token event context) (host.guard token event context))
    (hreduce : ∀ token context,
      judgement.holds (choices.reduce token context) (host.reduce token context))
    (hreport : ∀ report, judgement.runs (host.report report)) :
  judgement.holds
    (fun outcome => ∀ next, outcome.state? = some next →
      machine.Accepts choices state action next)
    (host.step machine.definition machine.config state action)
  := by
  have hstep : judgement.holds
      (Leads machine.definition
        (fun event guard allow => allow = true →
          guard.evaluate (choices.answers machine.config event state.context) true)
        (fun reducer => choices.reduce reducer state.context) state action)
      (host.step machine.definition machine.config state action) := by
    apply StepHost.holds_step
    · intro event row guard _ _
      have hcheck : ∀ name, (judgement.orError fun _ => True).holds
          (choices.answers machine.config event state.context name)
          (host.check machine.config event state.context name) := by
        intro name
        rw [StepHost.check]
        cases hname : machine.config.guard? name with
        | some token =>
          apply judgement.holds_map (hguard token event state.context)
          intro allow hallow
          exact ⟨token, hname, hallow⟩
        | none =>
          apply judgement.holds_pure
          trivial
      have hevaluate := Guard.holds_evaluate_possibly hcheck guard
      apply judgement.holds_mono (StepHost.holds_allows hevaluate
        (fun token => Judgement.runs_of_holds (hguard token event state.context))
        (fun report _ => hreport report) (fun name details _ => hreport _))
      rintro allow (hallow | ⟨hdeny, -⟩) rfl
      · apply hallow
      · cases hdeny
    · intro reducer
      apply hreduce
    · intro report _
      apply hreport
    · intro _ details
      apply hreport
  apply judgement.holds_mono hstep
  intro outcome hleads next hnext
  cases hleads with
  | undefined | unknown | denied => cases hnext
  | accepted hsome hrow hguards =>
    obtain rfl := Option.some.inj hnext
    apply Accepts.event hsome hrow
    intro guard hguard
    apply hguards guard hguard rfl
  | updated hmade =>
    obtain rfl := Option.some.inj hnext
    apply Accepts.context hmade

end Machine

end GuardedMachine
