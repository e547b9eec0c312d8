import GuardedMachine.Dispatch.Recorded
import GuardedMachine.Proofs.Guard.Asking

/-!
# The outcomes of steps

`Leads` lists what an action can do at a state, given what is known of the guards that are decided
and of the contexts that reducers make.  `holds_step` shows that a step does nothing else, in any
monad and under any judgement, and all that is proved of steps rests on it.
-/

namespace GuardedMachine

/-- Whether a diagnostic reports a name or a state that is not defined. -/
def Diagnostic.isUndefined : Diagnostic → Bool
  | .undefinedState _ => true
  | .undefinedGuard _ => true
  | .undefinedEffect _ _ => true
  | _ => false

section Leads

variable {S C K : Type} [DecidableEq S]

/-- What an action can do at a state, when `decides` holds of the decisions that guards may come to
on an event, and `makes` of the contexts that a reducer may make. -/
inductive Leads (definition : Definition S C) (decides : Event → Guard → Bool → Prop)
    (makes : K → C → Prop) (state : MachineState S C) : Action K → Outcome S C → Prop where
  /-- The state is not defined. -/
  | undefined {event : Event} :
    definition.state? state.value = none →
      Leads definition decides makes state (.send event) .unchanged
  /-- There is no row for the event. -/
  | unknown {event : Event} :
    (definition.state? state.value).isSome →
      definition.transition? state.value event.kind = none →
        Leads definition decides makes state (.send event) .unchanged
  /-- The guard of the row does not hold. -/
  | denied {event : Event} {row : Target S} {guard : Guard} :
    (definition.state? state.value).isSome →
      definition.transition? state.value event.kind = some row → row.guard = some guard →
        decides event guard false → Leads definition decides makes state (.send event) .unchanged
  /-- The event is accepted and leads to the target of the row. -/
  | accepted {event : Event} {row : Target S} :
    (definition.state? state.value).isSome →
      definition.transition? state.value event.kind = some row →
        (∀ guard, row.guard = some guard → decides event guard true) →
          Leads definition decides makes state (.send event)
            (.transitioned
              { value := row.target
                context := state.context
                event
                nextEvents := definition.nextEvents row.target })
  /-- The context is replaced. -/
  | updated {reducer : K} {context : C} :
    makes reducer context →
      Leads definition decides makes state (.setContext reducer)
        (.contextUpdated { state with context })

/-- If guards come to one decision and reducers make one context, an action does one thing. -/
theorem Leads.unique {definition : Definition S C} {state : MachineState S C}
    {decision : Event → Guard → Bool} {context : K → C} {action : Action K}
    {outcome outcome' : Outcome S C}
    (h : Leads definition (fun event guard allow => allow = decision event guard)
      (fun reducer made => made = context reducer) state action outcome)
    (h' : Leads definition (fun event guard allow => allow = decision event guard)
      (fun reducer made => made = context reducer) state action outcome') :
  outcome = outcome'
  := by
  cases h with
  | undefined hnone =>
    cases h' with
    | undefined | unknown | denied => rfl
    | accepted hsome =>
      rw [hnone] at hsome
      cases hsome
  | unknown hsome hrow =>
    cases h' with
    | undefined | unknown | denied => rfl
    | accepted _ hrow' => cases hrow.symm.trans hrow'
  | denied hsome hrow hguard hdenied =>
    cases h' with
    | undefined | unknown | denied => rfl
    | accepted _ hrow' hguards =>
      obtain rfl := Option.some.inj (hrow.symm.trans hrow')
      cases hdenied.trans (hguards _ hguard).symm
  | accepted hsome hrow hguards =>
    cases h' with
    | undefined hnone =>
      rw [hnone] at hsome
      cases hsome
    | unknown _ hrow' => cases hrow.symm.trans hrow'
    | denied _ hrow' hguard hdenied =>
      obtain rfl := Option.some.inj (hrow.symm.trans hrow')
      cases hdenied.trans (hguards _ hguard).symm
    | accepted _ hrow' =>
      obtain rfl := Option.some.inj (hrow.symm.trans hrow')
      rfl
  | updated hmade =>
    cases h' with
    | updated hmade' => rw [hmade, hmade']

end Leads

namespace StepHost

variable {m : Type → Type} [Monad m] {judgement : Judgement m} {S C K : Type}
  {host : StepHost m C K} {config : Config K} {guard : Guard} {event : Event}

/-- Asking a name runs, or fails as not defined, when the predicate behind it runs. -/
theorem runs_check {failure : GuardError → Prop} {context : C} (name : String)
    (hguard : ∀ token, judgement.runs (host.guard token event context))
    (hname : config.guard? name = none → failure (.undefined name)) :
  (judgement.orError failure).runs (host.check config event context name)
  := by
  rw [check]
  split
  · next token _ =>
    apply judgement.holds_map (hguard token)
    intro answer _
    trivial
  · next hnone =>
    apply judgement.holds_pure
    apply hname hnone

/-- Tracing runs when the predicates do. -/
theorem runs_traced {context : C}
    (hguard : ∀ token, judgement.runs (host.guard token event context)) :
  judgement.runs (host.traced? config guard event context)
  := by
  rw [traced?]
  split
  · have htrace : (judgement.orError fun _ => True).runs
        (guard.trace (host.check config event context)) := by
      apply Guard.runs_trace guard
      intro name _
      apply runs_check name hguard
      intro _
      trivial
    apply judgement.runs_bind (Judgement.runs_of_holds htrace)
    rintro (error | trace)
    · apply judgement.runs_pure
    · apply judgement.runs_pure
  · apply judgement.runs_pure

variable [StateValue S] [Context C] {state : MachineState S C} {target : S}

/-- The last part of a decision: the answer is reported as far as it calls for that, and
returned. -/
def explained (host : StepHost m C K) (guard : Guard) (state : MachineState S C) (target : S)
    (event : Event) (allow : Bool) (traced : Option Trace) : m Bool := do
  if let some trace := traced then
    if trace.allow ≠ some allow then
      host.report
        { diagnostic := .tracerDivergence
          details := [("Event", event.text), ("Guard", guard.render),
            ("Traced", Text.inspectOption (trace.allow.map Text.inspectBool)),
            ("Production", Text.inspectBool allow)] }
  if !allow then
    let explanation := match traced with
      | some trace => trace.explanation
      | none => guard.render
    host.report
      { diagnostic := .guardDenied (StateValue.name state.value) (StateValue.name target)
        details := [("Guard", explanation), ("Event", event.text),
          ("Context", Context.inspect state.context)] }
  return allow

/-- What follows the evaluation of a guard: an error is reported, and an answer is traced and
explained. -/
def concluded (host : StepHost m C K) (config : Config K) (guard : Guard)
    (state : MachineState S C) (target : S) (event : Event) : Except GuardError Bool → m Bool
  | .error (.undefined name) => do
    host.report
      { diagnostic := .undefinedGuard name
        details := [("Guard", guard.render), ("Event", event.text)] }
    return false
  | .ok allow => do
    let traced ← host.traced? config guard event state.context
    host.explained guard state target event allow traced

/-- A guard is decided by evaluating it and then concluding. -/
theorem allows_eq :
  host.allows config guard state target event
    = (guard.evaluate (host.check config event state.context)).run
      >>= host.concluded config guard state target event
  := rfl

/-- Neither a report of divergence nor one of denial changes a decision. -/
theorem holds_explained {allow : Bool} {traced : Option Trace}
    (hreport : ∀ report, report.diagnostic.isUndefined = false →
      judgement.runs (host.report report)) :
  judgement.holds (· = allow) (host.explained guard state target event allow traced)
  := by
  have hdenial : ∀ report : Report, report.diagnostic.isUndefined = false →
      judgement.holds (· = allow)
        (if (!allow) = true then host.report report >>= fun _ => pure allow
          else (pure allow : m Bool)) := by
    intro report hdefined
    split
    · apply judgement.holds_bind (hreport report hdefined)
      intro _ _
      exact judgement.holds_pure rfl
    · exact judgement.holds_pure rfl
  rw [explained.eq_def]
  cases traced with
  | none => apply hdenial _ rfl
  | some trace =>
    dsimp only
    split
    · apply judgement.holds_bind (hreport _ rfl)
      intro _ _
      apply hdenial _ rfl
    · apply hdenial _ rfl

/-- A guard is decided by its evaluation, and does not hold if that fails. -/
theorem holds_allows {result : Except GuardError Bool → Prop}
    (hevaluate : judgement.holds result
      (guard.evaluate (host.check config event state.context)).run)
    (hguard : ∀ token, judgement.runs (host.guard token event state.context))
    (hreport : ∀ report, report.diagnostic.isUndefined = false →
      judgement.runs (host.report report))
    (hundefined : ∀ name details, result (.error (.undefined name)) →
      judgement.runs (host.report { diagnostic := .undefinedGuard name, details })) :
  judgement.holds
    (fun allow => result (.ok allow) ∨ allow = false ∧ ∃ error, result (.error error))
    (host.allows config guard state target event)
  := by
  rw [allows_eq]
  apply judgement.holds_bind hevaluate
  rintro (⟨⟨name⟩⟩ | allow) hresult
  · apply judgement.holds_bind (hundefined name _ hresult)
    intro _ _
    apply judgement.holds_pure
    right
    exact ⟨rfl, _, hresult⟩
  · apply judgement.holds_bind (runs_traced hguard)
    intro traced _
    apply judgement.holds_mono (holds_explained hreport)
    rintro _ rfl
    left
    apply hresult

variable [DecidableEq S] {definition : Definition S C} {decides : Event → Guard → Bool → Prop}
  {makes : K → C → Prop}

/-- A step leads to nothing but the outcomes that its action can have. -/
theorem holds_step
    (hallows : ∀ event row guard, definition.transition? state.value event.kind = some row →
      row.guard = some guard →
        judgement.holds (decides event guard) (host.allows config guard state row.target event))
    (hreduce : ∀ reducer, judgement.holds (makes reducer) (host.reduce reducer state.context))
    (hreport : ∀ report, report.diagnostic.isUndefined = false →
      judgement.runs (host.report report))
    (hundefined : definition.state? state.value = none → ∀ details, judgement.runs
      (host.report { diagnostic := .undefinedState (StateValue.name state.value), details }))
    (action : Action K) :
  judgement.holds (Leads definition decides makes state action)
    (host.step definition config state action)
  := by
  cases action with
  | send event =>
    rw [step, send]
    dsimp only
    split
    · next hnone =>
      have hnone := Option.isNone_iff_eq_none.mp hnone
      apply judgement.holds_bind (hundefined hnone _)
      intro _ _
      apply judgement.holds_pure (.undefined hnone)
    · next hsome =>
      have hsome := Option.isSome_iff_ne_none.mpr fun h => hsome (Option.isNone_iff_eq_none.mpr h)
      split
      · next hrow =>
        apply judgement.holds_bind (hreport _ rfl)
        intro _ _
        apply judgement.holds_pure (.unknown hsome hrow)
      · next row hrow =>
        split
        · next guard hguard =>
          apply judgement.holds_bind (hallows event row guard hrow hguard)
          rintro (_ | _) hdecides
          · apply judgement.holds_pure (.denied hsome hrow hguard hdecides)
          · apply judgement.holds_pure
            apply Leads.accepted hsome hrow
            intro guard' hguard'
            obtain rfl := Option.some.inj (hguard.symm.trans hguard')
            apply hdecides
        · next hguard =>
          apply judgement.holds_bind (judgement.holds_pure rfl)
          rintro _ rfl
          apply judgement.holds_pure
          apply Leads.accepted hsome hrow
          intro guard' hguard'
          cases hguard.symm.trans hguard'
  | setContext reducer =>
    rw [step, setContext]
    apply judgement.holds_bind (hreduce reducer)
    intro context hmakes
    apply judgement.holds_bind (hreport _ rfl)
    intro _ _
    apply judgement.holds_pure (.updated hmakes)

/-- When guards, reducers and reports run, a step leads to one of the outcomes that its action can have
at all. -/
theorem holds_step_any (action : Action K)
    (hguard : ∀ token event context, judgement.runs (host.guard token event context))
    (hreduce : ∀ token context, judgement.runs (host.reduce token context))
    (hreport : ∀ report, judgement.runs (host.report report)) :
  judgement.holds (Leads definition (fun _ _ _ => True) (fun _ _ => True) state action)
    (host.step definition config state action)
  := by
  have hallows : ∀ event guard target, judgement.holds (fun _ => True)
      (host.allows config guard state target event) := by
    intro event guard target
    have hevaluate : (judgement.orError fun _ => True).runs
        (guard.evaluate (host.check config event state.context)) := by
      apply Guard.runs_evaluate
      intro name _
      apply runs_check name fun token => hguard token event state.context
      intro _
      trivial
    apply Judgement.runs_of_holds
    apply holds_allows (Judgement.runs_of_holds hevaluate)
    · intro token
      apply hguard
    · intro report _
      apply hreport
    · intro name details _
      apply hreport
  apply holds_step
  · intro event row guard _ _
    apply hallows
  · intro reducer
    apply hreduce
  · intro report _
    apply hreport
  · intro _ details
    apply hreport

/-- A step runs when guards, reducers and reports do. -/
theorem runs_step (action : Action K)
    (hguard : ∀ token event context, judgement.runs (host.guard token event context))
    (hreduce : ∀ token context, judgement.runs (host.reduce token context))
    (hreport : ∀ report, judgement.runs (host.report report)) :
  judgement.runs (host.step definition config state action)
  := Judgement.runs_of_holds (holds_step_any action hguard hreduce hreport)

end StepHost

end GuardedMachine
