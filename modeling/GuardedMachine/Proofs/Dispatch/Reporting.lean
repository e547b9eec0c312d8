import GuardedMachine.Proofs.Dispatch.Questions
import GuardedMachine.Proofs.Program.Alike

/-!
# Steps and how they are reported

How a configuration reports, and whether it traces guards, makes no difference to what a step does.
Only the decision of a guard depends on it at all (`send_cases`), and that decision does not
(`allows_outcome`, `alike_allows`).  Tracing asks the guards once more, and so the memory of guards
that keep one may differ afterwards.
-/

namespace GuardedMachine

/-- The configuration with another reporter and with or without development mode. -/
def Config.reporting {K : Type} (config : Config K) (reporter : Reporter) (development : Bool) :
    Config K :=
  { config with reporter, development }

namespace StepHost

variable {m : Type → Type} [Monad m] {S C K : Type} [StateValue S] [Context C]

/-- The delivery of an event is rejected with a report, or accepted without a guard, or decided by
a guard, and nothing else depends on how it is reported. -/
theorem send_cases [LawfulMonad m] [DecidableEq S] (host : StepHost m C K) (definition : Definition S C)
    (config : Config K) (state : MachineState S C) (event : Event) :
  (∃ report, ∀ reporter development,
      host.send definition (config.reporting reporter development) state event
        = do host.report report; return .unchanged)
    ∨ (∃ outcome, ∀ reporter development,
      host.send definition (config.reporting reporter development) state event = pure outcome)
    ∨ ∃ guard target accepted, ∀ reporter development,
      host.send definition (config.reporting reporter development) state event
        = do
          let allow ← host.allows (config.reporting reporter development) guard state target event
          if allow then return .transitioned accepted else return .unchanged
  := by
  simp only [send]
  split
  · left
    exact ⟨_, fun _ _ => rfl⟩
  · split
    · left
      exact ⟨_, fun _ _ => rfl⟩
    · next row _ =>
      right
      cases row.guard with
      | none =>
        left
        exact ⟨_, fun _ _ => pure_bind _ _⟩
      | some guard =>
        right
        exact ⟨guard, row.target, _, fun _ _ => rfl⟩

end StepHost

/-! ### One step -/

section Returning

variable {σ ε S C K α β : Type}

/-- A program that has returned is continued by one that returns. -/
theorem returning_after {program : Recording σ ε α} {f : α → Recording σ ε β} {P : β → Prop}
    {a : α} {recorded recorded' : Recorded σ} (hrun : program.run recorded = .ok (a, recorded'))
    (hf : returningJudgement.holds P (f a)) :
  ∃ b recorded'', (program >>= f).run recorded = .ok (b, recorded'') ∧ P b
  := by
  rw [StateT.run_bind, hrun]
  apply hf

variable [StateValue S] [Context C] {client : StepClient σ ε C K}
  (hguard : ∀ token event context, returningJudgement.runs (client.host.guard token event context))

include hguard

/-- When guards return, a guard comes to one decision, however it is reported. -/
theorem allows_outcome (config : Config K) (guard : Guard) (state : MachineState S C) (target : S)
    (event : Event) (recorded : Recorded σ) :
  ∃ allow, ∀ reporter development, ∃ recorded',
    (client.host.allows (config.reporting reporter development) guard state target event).run
      recorded = .ok (allow, recorded')
  := by
  have hreport : ∀ report, returningJudgement.runs (client.host.report report) :=
    fun report recorded => ⟨_, _, rfl, trivial⟩
  have hevaluate : (returningJudgement.orError fun _ => True).runs
      (guard.evaluate (client.host.check config event state.context)) := by
    apply Guard.runs_evaluate
    intro name _
    apply StepHost.runs_check name fun token => hguard token event state.context
    intro _
    trivial
  obtain ⟨result, recorded', hrun, -⟩ := hevaluate recorded
  cases result with
  | error error =>
    use false
    intro reporter development
    have hconcluded : returningJudgement.holds (· = false)
        (client.host.concluded (config.reporting reporter development) guard state target event
          (.error error)) := by
      apply returningJudgement.holds_bind (hreport _)
      intro _ _
      exact returningJudgement.holds_pure rfl
    obtain ⟨_, recorded'', hallows, rfl⟩ := returning_after hrun hconcluded
    exact ⟨recorded'', hallows⟩
  | ok allow =>
    use allow
    intro reporter development
    have hconcluded : returningJudgement.holds (· = allow)
        (client.host.concluded (config.reporting reporter development) guard state target event
          (.ok allow)) := by
      apply returningJudgement.holds_bind
        (StepHost.runs_traced fun token => hguard token event state.context)
      intro traced _
      apply StepHost.holds_explained
      intro report _
      apply hreport
    obtain ⟨_, recorded'', hallows, rfl⟩ := returning_after hrun hconcluded
    exact ⟨recorded'', hallows⟩

variable [DecidableEq S]

/-- The delivery of an event has one outcome, however it is reported. -/
theorem send_outcome (definition : Definition S C) (config : Config K)
    (state : MachineState S C) (event : Event) (recorded : Recorded σ) :
  ∃ outcome, ∀ reporter development, ∃ recorded',
    (client.host.send definition (config.reporting reporter development) state event).run recorded
      = .ok (outcome, recorded')
  := by
  obtain ⟨report, hsend⟩ | ⟨outcome, hsend⟩ | ⟨guard, target, accepted, hsend⟩ :=
    client.host.send_cases definition config state event
  · use .unchanged
    intro reporter development
    rw [hsend]
    exact ⟨_, rfl⟩
  · use outcome
    intro reporter development
    rw [hsend]
    exact ⟨_, rfl⟩
  · obtain ⟨allow, hallow⟩ := allows_outcome hguard config guard state target event recorded
    use if allow then .transitioned accepted else .unchanged
    intro reporter development
    obtain ⟨recorded', hrun⟩ := hallow reporter development
    use recorded'
    rw [hsend, StateT.run_bind, hrun]
    cases allow with
    | false => rfl
    | true => rfl

/-- A step has one outcome, however it is reported. -/
theorem step_outcome (definition : Definition S C) (config : Config K) (reporter : Reporter)
    (development : Bool) (state : MachineState S C) (action : Action K) (recorded : Recorded σ) :
  ((definition.step (config.reporting reporter development) client state action).run recorded).map
      Prod.fst
    = ((definition.step config client state action).run recorded).map Prod.fst
  := by
  cases action with
  | send event =>
    obtain ⟨outcome, hsend⟩ := send_outcome hguard definition config state event recorded
    obtain ⟨recorded', hrun⟩ := hsend config.reporter config.development
    obtain ⟨recorded'', hrun'⟩ := hsend reporter development
    change ((client.host.send definition _ state event).run recorded).map Prod.fst
      = ((client.host.send definition config state event).run recorded).map Prod.fst
    change (client.host.send definition config state event).run recorded = _ at hrun
    rw [hrun, hrun']
    rfl
  | setContext reducer => rfl

end Returning

/-! ### Steps one after the other -/

section Leaving

variable {σ ε S C K α β : Type} [DecidableEq S] [StateValue S] [Context C]

/-- What a program did, without its reports. -/
def unreported (run : Except ε (α × Recorded σ)) : Except ε (α × σ) :=
  run.map fun result => (result.1, result.2.memory)

theorem unreported_bind_error {program : Recording σ ε α} {f : α → Recording σ ε β}
    {recorded : Recorded σ} {error : ε} (h : unreported (program.run recorded) = .error error) :
  unreported ((program >>= f).run recorded) = .error error
  := by
  rw [StateT.run_bind]
  cases hrun : program.run recorded with
  | error error' =>
    rw [hrun] at h
    cases h
    rfl
  | ok result =>
    rw [hrun] at h
    cases h

theorem unreported_bind_ok {program : Recording σ ε α} {f : α → Recording σ ε β}
    {recorded : Recorded σ} {result : α × σ} (h : unreported (program.run recorded) = .ok result) :
  ∃ reports, (program >>= f).run recorded = (f result.1).run { memory := result.2, reports }
  := by
  rw [StateT.run_bind]
  cases hrun : program.run recorded with
  | error error =>
    rw [hrun] at h
    cases h
  | ok result' =>
    rw [hrun] at h
    cases h
    exact ⟨result'.2.reports, rfl⟩

/-- Guards that answer from the event and the context alone, and reducers with a memory. -/
def StepClient.deciding (predicate : K → Event → C → Bool)
    (reduce : K → C → StateT σ (Except ε) C) : StepClient σ ε C K where
  guard token event context := pure (predicate token event context)
  reduce := reduce

variable (definition : Definition S C) (config : Config K) (predicate : K → Event → C → Bool)
  (reduce : K → C → StateT σ (Except ε) C)

/-- The delivery of an event has one outcome and leaves the memory as it is, however it is
reported. -/
theorem send_leaves (state : MachineState S C) (event : Event) :
  ∃ outcome, ∀ reporter development, leavingJudgement.holds (· = outcome)
    ((StepClient.deciding predicate reduce).host.send definition
      (config.reporting reporter development) state event)
  := by
  obtain ⟨report, hsend⟩ | ⟨outcome, hsend⟩ | ⟨guard, target, accepted, hsend⟩ :=
    (StepClient.deciding predicate reduce).host.send_cases definition config state event
  · use .unchanged
    intro reporter development
    rw [hsend]
    apply leavingJudgement.holds_bind (leavingJudgement_report report)
    intro _ _
    exact leavingJudgement.holds_pure rfl
  · use outcome
    intro reporter development
    rw [hsend]
    exact leavingJudgement.holds_pure rfl
  · let oracle : Oracle C K := { guard := predicate, reduce := fun _ context => context }
    use if oracle.decision config state.context event guard then .transitioned accepted
      else .unchanged
    intro reporter development
    have hallows : leavingJudgement.holds (· = oracle.decision config state.context event guard)
        ((StepClient.deciding predicate reduce).host.allows (config.reporting reporter development)
          guard state target event) := by
      change leavingJudgement.holds
        (· = oracle.decision (config.reporting reporter development) state.context event guard) _
      apply StepHost.holds_allows_oracle
      · intro token event context recorded
        exact ⟨_, _, rfl, rfl, rfl⟩
      · apply leavingJudgement_report
    rw [hsend]
    apply leavingJudgement.holds_bind hallows
    rintro allow rfl
    split
    · exact leavingJudgement.holds_pure rfl
    · exact leavingJudgement.holds_pure rfl

/-- What a step does to the memory and what it results in depend on nothing but the memory. -/
theorem step_unreported (state : MachineState S C) (action : Action K) (memory : σ) :
  ∃ result, ∀ reporter development reports,
    unreported ((definition.step (config.reporting reporter development)
      (StepClient.deciding predicate reduce) state action).run { memory, reports }) = result
  := by
  cases action with
  | send event =>
    obtain ⟨outcome, hsend⟩ := send_leaves definition config predicate reduce state event
    use .ok (outcome, memory)
    intro reporter development reports
    obtain ⟨_, recorded', hrun, rfl, hmemory⟩ := hsend reporter development { memory, reports }
    change unreported (((StepClient.deciding predicate reduce).host.send definition _ state
      event).run { memory, reports }) = _
    rw [hrun]
    change Except.ok (_, recorded'.memory) = _
    rw [hmemory]
  | setContext reducer =>
    use ((reduce reducer state.context).run memory).map fun made =>
      (.contextUpdated { state with context := made.1 }, made.2)
    intro reporter development reports
    change unreported (((reduce reducer state.context).run memory >>= fun made =>
      Except.ok (made.1, ({ memory := made.2, reports } : Recorded σ))) >>= _) = _
    cases (reduce reducer state.context).run memory with
    | error error => rfl
    | ok made => rfl

/-- Transitions one after the other come to one state and one memory, however they are reported. -/
theorem transitions_unreported (actions : List (Action K)) (state : MachineState S C)
    (memory : σ) :
  ∃ result, ∀ reporter development reports,
    unreported ((actions.foldlM (definition.transition (config.reporting reporter development)
      (StepClient.deciding predicate reduce)) state).run { memory, reports }) = result
  := by
  induction actions generalizing state memory with
  | nil =>
    use .ok (state, memory)
    intro reporter development reports
    rfl
  | cons action rest ih =>
    have hcons : ∀ reporter development,
        ((action :: rest).foldlM (definition.transition (config.reporting reporter development)
          (StepClient.deciding predicate reduce)) state : Recording σ ε (MachineState S C))
          = definition.step (config.reporting reporter development)
              (StepClient.deciding predicate reduce) state action >>= fun outcome =>
            rest.foldlM (definition.transition (config.reporting reporter development)
              (StepClient.deciding predicate reduce)) (outcome.stateFrom state) := by
      intro reporter development
      simp only [List.foldlM_cons, Definition.transition, bind_assoc, pure_bind]
    obtain ⟨result, hstep⟩ := step_unreported definition config predicate reduce state action memory
    cases result with
    | error error =>
      use .error error
      intro reporter development reports
      rw [hcons]
      apply unreported_bind_error (hstep reporter development reports)
    | ok result =>
      obtain ⟨result', hrest⟩ := ih (result.1.stateFrom state) result.2
      use result'
      intro reporter development reports
      obtain ⟨reports', hbind⟩ := unreported_bind_ok (hstep reporter development reports)
      rw [hcons, hbind]
      apply hrest

end Leaving

end GuardedMachine
