import GuardedMachine.Proofs.Dispatch.Reporting

/-!
# Steps that run alike

Where guards and reports are calls that are hidden, and asking a guard changes nothing, steps run
alike however they are reported (`Discreet.alike_step`).  In development mode a guard is traced after
it has been decided; the trace asks the same guards, so that it returns as well, agrees with the
decision and is not seen (`calm_traced`).

Programs are `StepHost.Retold` when they are the same but for how a step is reported.  If the bodies of
all calls are, then so are runs, but for what is hidden (`Discreet.only_run`), whatever the machine.
-/

namespace GuardedMachine

open Program

variable {Call : Type} {Answer : Call → Type} {W ε S C K : Type} {visible : Call → Bool}
  {body body' : (c : Call) → Program Call Answer W ε (Answer c)} {depth : Nat}

/-! ### Guards -/

/-- When the evaluation of a guard answers, its trace returns at the same place and with the same
answer. -/
theorem Guard.ends_trace {check : String → ExceptT GuardError (Program Call Answer W ε) Bool}
    {guard : Guard} {world world' : W} {history history' : List (Moment Call Answer W)}
    {allow : Bool}
    (h : (guard.evaluate check).run.EndsAt body depth world history (.ok allow) world' history') :
  ∃ trace, (guard.trace check).run.EndsAt body depth world history (.ok trace) world' history'
    ∧ trace.allow = some allow
  := by
  have htrace : (Trace.allow <$> guard.trace check).run.EndsAt body depth world history
      (.ok (some allow)) world' history' := by
    rw [allow_trace, ExceptT.run_map]
    apply endsAt_map.mpr
    exact ⟨_, h, rfl⟩
  rw [ExceptT.run_map] at htrace
  obtain ⟨result, hends, hresult⟩ := endsAt_map.mp htrace
  cases result with
  | error error => cases hresult
  | ok trace => exact ⟨trace, hends, (Except.ok.inj hresult).symm⟩

section Guards

variable {host : StepHost (Program Call Answer W ε) C K}
  (hguard : ∀ token event context,
    (steady visible body depth).runs (host.guard token event context))

include hguard

/-- If the evaluation of a guard answers somewhere, it does so everywhere and is not seen. -/
theorem calm_evaluate {config : Config K} {event : Event} {context : C} {guard : Guard}
    {allow : Bool}
    (h : ∃ world history world' history',
      (guard.evaluate (host.check config event context)).run.EndsAt body depth world history
        (.ok allow) world' history') :
  Calm visible body depth (· = .ok allow) (guard.evaluate (host.check config event context)).run
  := by
  have hevaluate : ((steady visible body depth).orError fun _ => True).runs
      (guard.evaluate (host.check config event context)) := by
    apply Guard.runs_evaluate
    intro name _
    apply StepHost.runs_check name fun token => hguard token event context
    intro _
    trivial
  obtain ⟨world, history, world', history', hends⟩ := h
  apply (hevaluate world history _ world' history' hends).2

/-- Once a guard has been decided, tracing it returns and is not seen, and the trace agrees with the
decision. -/
theorem calm_traced {config : Config K} {event : Event} {context : C} {guard : Guard}
    {allow : Bool}
    (h : ∃ world history world' history',
      (guard.evaluate (host.check config event context)).run.EndsAt body depth world history
        (.ok allow) world' history') :
  Calm visible body depth (fun traced => ∀ trace, traced = some trace → trace.allow = some allow)
    (host.traced? config guard event context)
  := by
  rw [StepHost.traced?]
  split
  · have htrace : Calm visible body depth
        (fun result => ∃ trace, result = .ok trace ∧ trace.allow = some allow)
        (guard.trace (host.check config event context)).run := by
      intro world history
      obtain ⟨_, history', hends, hsame, rfl⟩ := calm_evaluate hguard h world history
      obtain ⟨trace, hends', hallow⟩ := Guard.ends_trace hends
      exact ⟨_, _, hends', hsame, trace, rfl, hallow⟩
    apply htrace.bind
    rintro _ ⟨trace, rfl, hallow⟩
    apply calm_pure
    rintro _ ⟨⟩
    apply hallow
  · apply calm_pure
    rintro _ ⟨⟩

end Guards

/-! ### Steps -/

/-- At every depth asking a guard is not seen, and reports run alike whatever they say. -/
structure Discreet (visible : Call → Bool)
    (body body' : (c : Call) → Program Call Answer W ε (Answer c))
    (host : StepHost (Program Call Answer W ε) C K) : Prop where
  guard : ∀ depth token event context,
    (steady visible body depth).runs (host.guard token event context)
  guard' : ∀ depth token event context,
    (steady visible body' depth).runs (host.guard token event context)
  report : ∀ depth report report' (allow : Bool), Alike visible body body' depth
    (host.report report >>= fun _ => pure allow) (host.report report' >>= fun _ => pure allow)

namespace Discreet

variable {host : StepHost (Program Call Answer W ε) C K} (h : Discreet visible body body' host)
  [StateValue S] [Context C]

include h

/-- Traces that agree with a decision give rise to reports of the same kinds. -/
theorem alike_explained {guard : Guard} {state : MachineState S C} {target : S} {event : Event}
    {allow : Bool} {traced traced' : Option Trace}
    (htraced : ∀ trace, traced = some trace → trace.allow = some allow)
    (htraced' : ∀ trace, traced' = some trace → trace.allow = some allow) :
  Alike visible body body' depth (host.explained guard state target event allow traced)
    (host.explained guard state target event allow traced')
  := by
  have hdenial : ∀ report report' : Report, Alike visible body body' depth
      (if (!allow) = true then host.report report >>= fun _ => pure allow else pure allow)
      (if (!allow) = true then host.report report' >>= fun _ => pure allow else pure allow) := by
    intro report report'
    split
    · apply h.report
    · apply alike_done
  rw [StepHost.explained.eq_def, StepHost.explained.eq_def]
  cases traced with
  | none =>
    cases traced' with
    | none => apply hdenial
    | some trace' =>
      dsimp only
      rw [if_neg (not_not_intro (htraced' trace' rfl))]
      apply hdenial
  | some trace =>
    dsimp only
    rw [if_neg (not_not_intro (htraced trace rfl))]
    cases traced' with
    | none => apply hdenial
    | some trace' =>
      dsimp only
      rw [if_neg (not_not_intro (htraced' trace' rfl))]
      apply hdenial

variable (hask : ∀ c, Alike visible body body' depth (ask c) (ask c))

include hask

/-- Guards are decided alike, however they are reported. -/
theorem alike_allows (config : Config K) (reporter : Reporter) (development : Bool) (guard : Guard)
    (state : MachineState S C) (target : S) (event : Event) :
  Alike visible body body' depth (host.allows config guard state target event)
    (host.allows (config.reporting reporter development) guard state target event)
  := by
  rw [StepHost.allows_eq, StepHost.allows_eq]
  apply (alike_self hask _).bind
  rintro (⟨⟨name⟩⟩ | allow) hends hends'
  · exact alike_self hask _
  · have hcalm := calm_traced (h.guard depth) hends
    have hcalm' : Calm visible body' depth _
        (host.traced? (config.reporting reporter development) guard event state.context) :=
      calm_traced (h.guard' depth) hends'
    apply hcalm.alike hcalm'
    intro traced traced' htraced htraced'
    apply h.alike_explained htraced htraced'

/-- Steps run alike, however they are reported. -/
theorem alike_step [DecidableEq S] (definition : Definition S C) (config : Config K)
    (reporter : Reporter) (development : Bool) (state : MachineState S C) (action : Action K) :
  Alike visible body body' depth (host.step definition config state action)
    (host.step definition (config.reporting reporter development) state action)
  := by
  cases action with
  | send event =>
    change Alike visible body body' depth
      (host.send definition (config.reporting config.reporter config.development) state event)
      (host.send definition (config.reporting reporter development) state event)
    obtain ⟨report, hsend⟩ | ⟨outcome, hsend⟩ | ⟨guard, target, accepted, hsend⟩ :=
      host.send_cases definition config state event
    · rw [hsend, hsend]
      exact alike_self hask _
    · rw [hsend, hsend]
      exact alike_self hask _
    · rw [hsend, hsend]
      apply (h.alike_allows hask config reporter development guard state target event).bind
      intro allow _ _
      exact alike_self hask _
  | setContext reducer => exact alike_self hask _

end Discreet

/-! ### Programs that take a step -/

section Retold

variable [DecidableEq S] [StateValue S] [Context C]

/-- Two programs are the same but for a step that they may take, which the second one reports
otherwise. -/
inductive StepHost.Retold (host : StepHost (Program Call Answer W ε) C K)
    (definition : Definition S C) (config : Config K) (reporter : Reporter) (development : Bool)
    {α : Type} : Program Call Answer W ε α → Program Call Answer W ε α → Prop where
  | same (program : Program Call Answer W ε α) :
    host.Retold definition config reporter development program program
  | step (state : MachineState S C) (action : Action K)
    (rest : Outcome S C → Program Call Answer W ε α) :
    host.Retold definition config reporter development
      (host.step definition config state action >>= rest)
      (host.step definition (config.reporting reporter development) state action >>= rest)
  | after {β : Type} (first : Program Call Answer W ε β)
    {rest rest' : β → Program Call Answer W ε α} :
    (∀ b, host.Retold definition config reporter development (rest b) (rest' b)) →
      host.Retold definition config reporter development (first >>= rest) (first >>= rest')

variable {host : StepHost (Program Call Answer W ε) C K} {definition : Definition S C}
  {config : Config K} {reporter : Reporter} {development : Bool}

/-- Programs that report a step otherwise run alike. -/
theorem StepHost.Retold.alike {α : Type} {program program' : Program Call Answer W ε α}
    (h : host.Retold definition config reporter development program program')
    (hdiscreet : Discreet visible body body' host)
    (hask : ∀ c, Alike visible body body' depth (ask c) (ask c)) :
  Alike visible body body' depth program program'
  := by
  induction h with
  | same => exact alike_self hask _
  | step state action rest =>
    apply (hdiscreet.alike_step hask definition config reporter development state action).bind
    intro outcome _ _
    exact alike_self hask _
  | after first _ ih =>
    apply (alike_self hask first).bind
    intro b _ _
    apply ih

/-- The reporter alone makes no difference to a program, which only makes its reports. -/
theorem StepHost.Retold.eq {α : Type} {program program' : Program Call Answer W ε α}
    (h : host.Retold definition config reporter config.development program program') :
  program' = program
  := by
  induction h with
  | same | step => rfl
  | after first _ ih => rw [funext ih]

/-- Runs are the same, but for what is hidden, if bodies report their steps otherwise. -/
theorem Discreet.only_run {α : Type} (h : Discreet visible body body' host)
    (hbody : ∀ c, host.Retold definition config reporter development (body c) (body' c))
    (program : Program Call Answer W ε α) (depth : Nat) (world : W) :
  (program.run body depth world).only visible = (program.run body' depth world).only visible
  := by
  apply Program.only_run
  intro depth hask c
  apply (hbody c).alike h hask

end Retold

end GuardedMachine
