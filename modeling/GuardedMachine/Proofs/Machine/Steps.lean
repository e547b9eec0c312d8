import GuardedMachine.Proofs.Dispatch.Recordings
import GuardedMachine.Proofs.Effect.Running
import GuardedMachine.Proofs.Machine.Resolved

/-!
# Steps of a machine

A step of a machine from a defined state leads to defined states and reports nothing as undefined
(`holds_step`), and neither does the entry of a state (`runs_enter`), whatever the callbacks do.
So every sequence of steps from the initial state stays among the defined states
(`transitions_sane`).
-/

namespace GuardedMachine

/-- Nothing is reported as undefined. -/
def NoneUndefined (reports : List Report) : Prop :=
  ∀ report ∈ reports, report.diagnostic.isUndefined = false

theorem noneUndefined_nil :
  NoneUndefined []
  := by
  intro report hreport
  cases hreport

/-- One more report is written. -/
theorem NoneUndefined.append {reports : List Report} {report : Report}
    (h : NoneUndefined reports) (hreport : report.diagnostic.isUndefined = false) :
  NoneUndefined (reports ++ [report])
  := by
  intro report' hreport'
  rcases List.mem_append.mp hreport' with hold | hnew
  · apply h report' hold
  · obtain rfl := List.mem_singleton.mp hnew
    apply hreport

/-- A state is defined, and nothing was reported as undefined. -/
structure Machine.Sane {S C K : Type} [DecidableEq S] [StateValue S] (machine : Machine S C K)
    (state : MachineState S C) (reports : List Report) : Prop where
  defined : state.value ∈ machine.definition.states.keys
  reported : NoneUndefined reports

namespace Machine

variable {m : Type → Type} [Monad m] {judgement : Judgement m} {S C K : Type} [DecidableEq S]
  [StateValue S] [Context C]

/-- A step from a defined state reports nothing as undefined, and the state that it leads to, if
there is one, is defined. -/
theorem holds_step (machine : Machine S C K) {host : StepHost m C K} {state : MachineState S C}
    (hstate : state.value ∈ machine.definition.states.keys) (action : Action K)
    (hguard : ∀ token event context, judgement.runs (host.guard token event context))
    (hreduce : ∀ token context, judgement.runs (host.reduce token context))
    (hreport : ∀ report, report.diagnostic.isUndefined = false →
      judgement.runs (host.report report)) :
  judgement.holds
    (fun outcome => ∀ next, outcome.state? = some next →
      next.value ∈ machine.definition.states.keys)
    (host.step machine.definition machine.config state action)
  := by
  have hstep : judgement.holds
      (Leads machine.definition (fun _ _ _ => True) (fun _ _ => True) state action)
      (host.step machine.definition machine.config state action) := by
    apply StepHost.holds_step
    · intro event row guard hrow hguarded
      -- No name of the guard is undefined, so its evaluation has an answer.
      have hevaluate : (judgement.orError fun _ => False).runs
          (guard.evaluate (host.check machine.config event state.context)) := by
        apply Guard.runs_evaluate
        intro name hname
        apply StepHost.runs_check name fun token => hguard token event state.context
        intro hnone
        apply guard_configured hrow hguarded hname hnone
      apply Judgement.runs_of_holds
      apply StepHost.holds_allows hevaluate
      · intro token
        apply hguard
      · apply hreport
      · rintro name details ⟨⟩
    · intro reducer
      apply hreduce
    · apply hreport
    · intro hnone
      have hsome := Table.isSome_of_mem_keys hstate
      rw [← Definition.state?, hnone] at hsome
      cases hsome
  apply judgement.holds_mono hstep
  intro outcome hleads next hnext
  cases hleads with
  | undefined | unknown | denied => cases hnext
  | accepted _ hrow =>
    cases hnext
    apply target_mem hrow
  | updated =>
    cases hnext
    apply hstate

omit [Context C] in
/-- Entering a state reports nothing as undefined. -/
theorem runs_enter [Context C] (machine : Machine S C K) {host : EffectHost m C K}
    (state : MachineState S C) (sync : Bool) (hnew : judgement.runs host.newLock)
    (hset : ∀ lock closed, judgement.runs (host.setLocked lock closed))
    (heffect : ∀ token params, judgement.runs (host.effect token params)) :
  judgement.runs (host.enter machine.definition machine.config state sync)
  := by
  apply EffectHost.runs_enter hnew hset heffect
  intro entered hentered name hname hnone
  cases effect_configured hentered hname hnone

end Machine

/-! ### Sequences of steps -/

namespace Machine

variable {σ ε S C K : Type} [DecidableEq S] [StateValue S] [Context C]

/-- A transition from a defined state leads to a defined state and reports nothing as
undefined. -/
theorem holds_transition (machine : Machine S C K) (client : StepClient σ ε C K)
    {state : MachineState S C} (hstate : state.value ∈ machine.definition.states.keys)
    (action : Action K) :
  (reportJudgement NoneUndefined).holds (fun next => next.value ∈ machine.definition.states.keys)
    (machine.transition client state action)
  := by
  have hstep : (reportJudgement NoneUndefined).holds
      (fun outcome => ∀ next, outcome.state? = some next →
        next.value ∈ machine.definition.states.keys)
      (machine.step client state action) := by
    apply machine.holds_step hstate
    · intro token event context
      apply runs_onMemory
    · intro token context
      apply runs_onMemory
    · rintro report hreport recorded hreported a recorded' ⟨⟩
      use trivial
      apply hreported.append hreport
  apply (reportJudgement NoneUndefined).holds_bind hstep
  intro outcome houtcome
  apply Judgement.holds_pure
  cases outcome with
  | unchanged => apply hstate
  | contextUpdated next => apply houtcome next rfl
  | transitioned next => apply houtcome next rfl

/-- Transitions from the initial state, one after the other, lead to a defined state and report
nothing as undefined. -/
theorem transitions_sane (machine : Machine S C K) (client : StepClient σ ε C K)
    (actions : List (Action K)) (memory : σ) {state : MachineState S C} {recorded : Recorded σ}
    (hrun : (actions.foldlM (machine.transition client) machine.initialState).run
      { memory, reports := [] } = .ok (state, recorded)) :
  machine.Sane state recorded.reports
  := by
  have hholds := Judgement.holds_foldlM
    (fun state action hstate => machine.holds_transition client hstate action) actions
    machine.initial_mem
  obtain ⟨hstate, hreported⟩ := hholds _ noneUndefined_nil _ _ hrun
  exact ⟨hstate, hreported⟩

end Machine

end GuardedMachine
