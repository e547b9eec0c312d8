import GuardedMachine.Proofs.Dispatch.Recordings
import GuardedMachine.Proofs.Dispatch.Rejections
import GuardedMachine.Proofs.Guard.Parity

/-!
# Divergence of traces

In development mode a guard that is decided is asked once more for its trace, from the memory that
the decision left.  Guards may answer differently by then, and the trace may reach other names.
`Definition.divergence_reported` says when the divergence of a trace is reported: exactly when there
is a trace and its root has the other answer.  The decision stands in any case.  A trace that fails
is none, and that is not reported: `failed_trace_unreported`.
-/

namespace GuardedMachine

variable {σ ε S C K : Type}

/-! ### Asking writes nothing -/

section Asking

variable (client : StepClient σ ε C K) (config : Config K) (event : Event) (context : C)

/-- Asking a name writes no reports. -/
theorem StepClient.runs_check_reports (reports : List Report) (name : String) :
  ((reportJudgement fun current => current = reports).orError fun _ => True).runs
    (client.host.check config event context name : ExceptT GuardError (Recording σ ε) Bool)
  := by
  apply StepHost.runs_check
  · intro token
    apply runs_onMemory
  · intro _
    trivial

variable {client config event context} {recorded recorded' : Recorded σ} {guard : Guard}

/-- Deciding a guard writes no reports. -/
theorem reports_of_evaluate {result : Except GuardError Bool}
    (hrun : (client.decision config event context guard).run recorded = .ok (result, recorded')) :
  recorded'.reports = recorded.reports
  := by
  have hruns := Guard.runs_evaluate guard fun name _ =>
    client.runs_check_reports config event context recorded.reports name
  obtain ⟨-, hreports⟩ := hruns recorded rfl result recorded' hrun
  apply hreports

/-- Tracing a guard writes no reports. -/
theorem reports_of_trace {result : Except GuardError Trace}
    (hrun : (client.tracing config event context guard).run recorded = .ok (result, recorded')) :
  recorded'.reports = recorded.reports
  := by
  have hruns := Guard.runs_trace guard fun name _ =>
    client.runs_check_reports config event context recorded.reports name
  obtain ⟨-, hreports⟩ := hruns recorded rfl result recorded' hrun
  apply hreports

/-- The root of a trace has an answer. -/
theorem allow_of_trace {trace : Trace}
    (hrun : (client.tracing config event context guard).run recorded = .ok (.ok trace, recorded')) :
  ∃ answer, trace.allow = some answer
  := by
  have hmap := client.map_tracing config event context guard
  obtain ⟨result, -, hanswer⟩ := run_of_map_eq hmap.symm hrun
  cases result with
  | error error => cases hanswer
  | ok answer =>
    use answer
    symm
    apply Except.ok.inj hanswer

/-- In development mode a guard is traced, and a trace that fails is none. -/
theorem StepHost.traced?_development {m : Type → Type} [Monad m] [LawfulMonad m]
    (host : StepHost m C K) (hdevelopment : config.development = true) :
  host.traced? config guard event context
    = Except.toOption <$> (guard.trace (host.check config event context)).run
  := by
  rw [traced?, if_pos hdevelopment, ← bind_pure_comp]
  congr 1
  funext result
  cases result with
  | error error => rfl
  | ok trace => rfl

end Asking

/-! ### Rows with guards -/

section Rows

variable [DecidableEq S] {definition : Definition S C}

/-- The row that a value selects is the one that is looked up. -/
theorem Definition.Selects.transition?_eq {value : S} {kind : String} {row : Target S}
    (h : definition.Selects value kind row) :
  definition.transition? value kind = some row
  := by
  obtain ⟨entered, hentered, hrow⟩ := h
  rw [transition?, hentered, Option.bind_some]
  obtain hown | ⟨hown, hroot⟩ := hrow
  · rw [hown]
  · rw [hown, hroot]

variable [StateValue S] [Context C]

/-- What comes of an event for which there is a row, when the guard of the row is decided. -/
def Definition.taken (definition : Definition S C) (state : MachineState S C) (event : Event)
    (row : Target S) (allow : Bool) : Outcome S C :=
  if allow then
    .transitioned
      { value := row.target
        context := state.context
        event
        nextEvents := definition.nextEvents row.target }
  else .unchanged

/-- An event whose row has a guard is sent by deciding this guard. -/
theorem StepHost.send_of_selects {m : Type → Type} [Monad m] (host : StepHost m C K)
    (config : Config K) {state : MachineState S C} {event : Event} {row : Target S} {guard : Guard}
    (hrow : definition.Selects state.value event.kind row) (hguard : row.guard = some guard) :
  host.send definition config state event
    = host.allows config guard state row.target event >>= fun allow =>
        pure (definition.taken state event row allow)
  := by
  have hsome : (definition.state? state.value).isNone = false := by
    obtain ⟨entered, hentered, -⟩ := hrow
    rw [hentered]
    rfl
  rw [send, if_neg (by rw [hsome]; exact Bool.false_ne_true), hrow.transition?_eq]
  dsimp only
  rw [hguard]
  dsimp only
  congr 1
  funext allow
  cases allow with
  | true => rfl
  | false => rfl

end Rows

/-! ### What is reported -/

namespace StepClient.Answers

variable [StateValue S] {state : MachineState S C} {target : S} {allow : Bool}
  {traced : Option Trace} {compared denied : List Report}

/-- A decision is not reported as a divergence. -/
theorem Explains.diagnostic_ne (h : Explains state target allow denied) :
  ∀ report ∈ denied, report.diagnostic ≠ .tracerDivergence
  := by
  cases allow with
  | true =>
    obtain rfl : denied = [] := h
    intro report hreport
    cases hreport
  | false =>
    obtain ⟨details, hdetails, rfl⟩ := h
    simp

/-- The divergence of a trace is reported exactly when there is a trace and its root does not have
the answer of the decision. -/
theorem Compares.mem_iff (hcompares : Compares allow traced compared)
    (hexplains : Explains state target allow denied) :
  .tracerDivergence ∈ (compared ++ denied).map Report.diagnostic
    ↔ ∃ trace, traced = some trace ∧ trace.allow ≠ some allow
  := by
  constructor
  · intro hmem
    obtain ⟨-, rfl⟩ | ⟨hdiffers, -⟩ := hcompares
    · obtain ⟨report, hreport, hdiagnostic⟩ := List.mem_map.mp hmem
      cases hexplains.diagnostic_ne report hreport hdiagnostic
    · apply hdiffers
  · rintro ⟨trace, htraced, hdiffers⟩
    obtain ⟨hagrees, -⟩ | ⟨-, details, -, rfl⟩ := hcompares
    · cases hdiffers (hagrees trace htraced)
    · apply List.mem_cons_self

/-- A divergence is reported with details. -/
theorem Compares.details_ne_nil (hcompares : Compares allow traced compared)
    (hexplains : Explains state target allow denied) {report : Report}
    (hreport : report ∈ compared ++ denied) (hdiagnostic : report.diagnostic = .tracerDivergence) :
  report.details ≠ []
  := by
  obtain hreport | hreport := List.mem_append.mp hreport
  · obtain ⟨-, rfl⟩ | ⟨-, details, hdetails, rfl⟩ := hcompares
    · cases hreport
    · obtain rfl := List.mem_singleton.mp hreport
      apply hdetails
  · cases hexplains.diagnostic_ne report hreport hdiagnostic

end StepClient.Answers

/-- The answer of a trace is another than the decision exactly when it is the opposite one. -/
theorem diverges_iff {result : Except GuardError Trace} {allow : Bool}
    (hroot : ∀ trace, result = .ok trace → ∃ answer, trace.allow = some answer) :
  (∃ trace, result.toOption = some trace ∧ trace.allow ≠ some allow)
    ↔ result.map Trace.allow = .ok (some !allow)
  := by
  cases result with
  | error error =>
    constructor
    · rintro ⟨trace, ⟨⟩, -⟩
    · rintro ⟨⟩
  | ok trace =>
    obtain ⟨answer, hanswer⟩ := hroot trace rfl
    have hopposite : answer ≠ allow ↔ answer = !allow := by
      cases answer <;> cases allow <;> decide
    simp [Except.toOption, Except.map, hanswer, hopposite]

/-! ### The decision stands -/

section Decided

variable [DecidableEq S] [StateValue S] [Context C] {client : StepClient σ ε C K}
  {definition : Definition S C} {config : Config K} {state : MachineState S C} {event : Event}
  {row : Target S} {guard : Guard} {allow : Bool} {recorded decided : Recorded σ}

/-- After the decision an event is sent by tracing the guard and explaining the decision. -/
theorem Definition.run_step_of_decided (hdevelopment : config.development = true)
    (hrow : definition.Selects state.value event.kind row) (hguard : row.guard = some guard)
    (hdecided : (client.decision config event state.context guard).run recorded
      = .ok (.ok allow, decided)) :
  (definition.step config client state (.send event)).run recorded
    = (client.tracing config event state.context guard).run decided >>= fun (traced, after) =>
        (client.host.explained guard state row.target event allow traced.toOption
          >>= fun allow => pure (definition.taken state event row allow)).run after
  := by
  have hsend : definition.step config client state (.send event)
      = client.host.allows config guard state row.target event
          >>= fun allow => pure (definition.taken state event row allow) :=
    client.host.send_of_selects config hrow hguard
  have htraced : client.host.traced? config guard event state.context
      = Except.toOption <$> client.tracing config event state.context guard :=
    client.host.traced?_development hdevelopment
  rw [StepClient.decision] at hdecided
  rw [hsend, StepHost.allows_eq, bind_assoc, StateT.run_bind, hdecided]
  change (StepHost.concluded client.host config guard state row.target event (.ok allow)
    >>= fun allow => pure (definition.taken state event row allow)).run decided = _
  rw [StepHost.concluded, htraced, bind_assoc, bind_map_left, StateT.run_bind]

/-- Divergence of the trace from the decision is reported, and shown when errors are.
In development mode, when the guard of a row is decided, it is traced from the memory that the
decision left.  The step fails only if a guard does so while it is traced.  Otherwise the divergence
is reported if and only if there is a trace whose root has the other answer, and the event is
accepted or rejected as the decision says. -/
theorem Definition.divergence_reported (hdevelopment : config.development = true)
    (hverbosity : config.reporter.verbosity ≠ .silent)
    (hrow : definition.Selects state.value event.kind row) (hguard : row.guard = some guard)
    (hdecided : (client.decision config event state.context guard).run recorded
      = .ok (.ok allow, decided)) :
  (∀ failure, (client.tracing config event state.context guard).run decided = .error failure →
      (definition.step config client state (.send event)).run recorded = .error failure)
    ∧ ∀ traced after,
      (client.tracing config event state.context guard).run decided = .ok (traced, after) →
      ∃ memory reports,
        (definition.step config client state (.send event)).run recorded
            = .ok (definition.taken state event row allow,
                { memory, reports := recorded.reports ++ reports })
          ∧ (.tracerDivergence ∈ reports.map Report.diagnostic
              ↔ traced.map Trace.allow = .ok (some !allow))
          ∧ ∀ report ∈ reports, report.diagnostic = .tracerDivergence →
              config.reporter.lines report
                = config.reporter.console.record
                    (Reporter.layout config.reporter.console.groups report)
  := by
  have hstep := run_step_of_decided hdevelopment hrow hguard hdecided
  constructor
  · intro failure htracing
    rw [hstep, htracing]
    rfl
  · intro traced after htracing
    have hreports : after.reports = recorded.reports := by
      rw [reports_of_trace htracing, reports_of_evaluate hdecided]
    have hroot : ∀ trace, traced = .ok trace → ∃ answer, trace.allow = some answer := by
      rintro trace rfl
      apply allow_of_trace htracing
    obtain ⟨_, memory, reports, hrun, rfl, compared, denied, rfl, hcompares, hexplains⟩ :=
      StepClient.Answers.writes_compared client guard state row.target event allow traced.toOption
        after
    use memory, compared ++ denied
    constructor
    · rw [hstep, htracing]
      change ((client.host.explained guard state row.target event _ traced.toOption)
        >>= fun allow => pure (definition.taken state event row allow)).run after = _
      rw [StateT.run_bind, hrun, hreports]
      rfl
    constructor
    · rw [hcompares.mem_iff hexplains, diverges_iff hroot]
    · intro report hreport hdiagnostic
      apply Reporter.lines_error hverbosity
      · rw [hdiagnostic]
        rfl
      · apply hcompares.details_ne_nil hexplains hreport hdiagnostic

end Decided

/-! ### Example -/

/-- A hatch that is opened when a guard holds. -/
def hatch (guard : Guard) : Definition String Int64 where
  initial := "shut"
  states := Table.ofList
    [("shut", StateDef.ofRows [.on "OPEN" (.guarded "open" (some guard))]),
      ("open", StateDef.ofRows [])]
  on := Table.empty
  context := 0

/-- Whether the hatch is ready is configured, the override is not.  Errors are written. -/
def hatchConfig : Config Int64 where
  guards := Table.ofList [("ready", 0)]
  effects := Table.empty
  reporter := { console := .memory, verbosity := .errors }
  development := true

/-- The hatch is ready when it is asked for the first time, and not any more. -/
def hatchClient : StepClient Bool Empty Int64 Int64 where
  guard _ _ _ first := .ok (first, false)
  reduce _ context memory := .ok (context, memory)

/-- A guard that does not hold any more while it is traced is reported, and the hatch opens. -/
theorem hatch_divergence_reported :
  ∃ memory reports,
    ((hatch (.leaf "ready")).step hatchConfig hatchClient (hatch (.leaf "ready")).initialState
        (.send (Event.ofKind "OPEN"))).run { memory := true, reports := [] }
        = .ok
            (.transitioned
              { value := "open", context := 0, event := Event.ofKind "OPEN", nextEvents := [] },
              { memory, reports })
      ∧ .tracerDivergence ∈ reports.map Report.diagnostic
  := by
  have hrow : (hatch (.leaf "ready")).Selects (hatch (.leaf "ready")).initialState.value
      (Event.ofKind "OPEN").kind (.guarded "open" (some (.leaf "ready"))) := ⟨_, rfl, .inl rfl⟩
  have hdecided : (hatchClient.decision hatchConfig (Event.ofKind "OPEN") 0 (.leaf "ready")).run
      { memory := true, reports := [] } = .ok (.ok true, { memory := false, reports := [] }) := rfl
  have hverbosity : hatchConfig.reporter.verbosity ≠ .silent := by decide
  obtain ⟨-, htraced⟩ := Definition.divergence_reported rfl hverbosity hrow rfl hdecided
  obtain ⟨memory, reports, hrun, hreported, -⟩ := htraced _ _ rfl
  use memory, reports, hrun
  apply hreported.mpr
  rfl

/-- When the trace reaches a name that is not configured, where the decision did not, there is no
answer that agrees with the decision and nothing is reported. -/
theorem failed_trace_unreported :
  let guard := Guard.or [.leaf "ready", .leaf "override"]
  let event := Event.ofKind "OPEN"
  let start : Recorded Bool := { memory := true, reports := [] }
  let decided : Recorded Bool := { memory := false, reports := [] }
  (hatchClient.decision hatchConfig event 0 guard).run start = .ok (.ok true, decided)
    ∧ (hatchClient.tracing hatchConfig event 0 guard).run decided
        = .ok (.error (.undefined "override"), decided)
    ∧ ((hatch guard).step hatchConfig hatchClient (hatch guard).initialState (.send event)).run start
        = .ok (.transitioned { value := "open", context := 0, event, nextEvents := [] }, decided)
  := ⟨rfl, rfl, rfl⟩

end GuardedMachine
