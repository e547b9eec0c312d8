import GuardedMachine.Proofs.Machine.Reporting

/-!
# Verbosity only filters

What a machine does and what it reports do not depend on its reporter.  On a console that keeps every
line without groups, a report is written as lines of its own level, all of them or none
(`Reporter.lines_memory`).  So of the lines that are recorded with the verbosity `all`, the errors are
what is recorded with `errors`: `Machine.verbosity_filters`.
-/

namespace GuardedMachine

/-! ### Lines -/

/-- Whether a line is an error. -/
def Line.isError : Line → Bool
  | .error _ => true
  | _ => false

theorem Line.isError_ofLevel (level : Level) (text : String) :
  (ofLevel level text).isError = (level == .error)
  := by
  cases level with
  | debug => rfl
  | error => rfl

/-- The lines of the verbosities are filtered from those of `all`, which are errors and ordinary lines:
those of `errors` are the errors among them, in order, and there are none of `silent`. -/
structure Filtered (lines : Verbosity → List Line) : Prop where
  errors : lines .errors = (lines .all).filter Line.isError
  logs : ∀ line ∈ lines .all, line.isError = false → ∃ text, line = .log text
  silent : lines .silent = []

/-- Lines that are written part by part are filtered if those of each part are. -/
theorem Filtered.flatMap {ι : Type} {lines : ι → Verbosity → List Line}
    (h : ∀ part, Filtered (lines part)) (parts : List ι) :
  Filtered fun verbosity => parts.flatMap fun part => lines part verbosity
  := by
  constructor
  · rw [List.filter_flatMap]
    congr 1
    funext part
    apply (h part).errors
  · intro line hline
    obtain ⟨part, -, hline⟩ := List.mem_flatMap.mp hline
    apply (h part).logs line hline
  · apply List.flatMap_eq_nil_iff.mpr
    intro part _
    apply (h part).silent

namespace Reporter

/-- The texts of the lines of a report: its message and its details. -/
def texts (report : Report) : List String :=
  report.diagnostic.message :: report.details.map fun (label, value) => detail label value

/-- Without groups, the lines of a report that is written are of its level. -/
theorem lines_memory (verbosity : Verbosity) (report : Report) :
  lines { console := .memory, verbosity } report
    = if verbosity.allows report.diagnostic.level && !report.details.isEmpty then
        (texts report).map (Line.ofLevel report.diagnostic.level)
      else []
  := by
  simp [lines, enabled, layout, texts, Console.record, Console.memory, Function.comp_def]

theorem exists_of_mem_lines {verbosity : Verbosity} {report : Report} {line : Line}
    (h : line ∈ lines { console := .memory, verbosity } report) :
  ∃ text, line = Line.ofLevel report.diagnostic.level text
  := by
  rw [lines_memory] at h
  split at h
  · obtain ⟨text, -, rfl⟩ := List.mem_map.mp h
    use text
  · cases h

/-- The lines of one report are filtered. -/
theorem filtered_lines (report : Report) :
  Filtered fun verbosity => lines { console := .memory, verbosity } report
  := by
  have hkind : ∀ line ∈ lines { console := .memory, verbosity := .all } report,
      line.isError = (report.diagnostic.level == .error) := by
    intro line hline
    obtain ⟨text, rfl⟩ := exists_of_mem_lines hline
    apply Line.isError_ofLevel
  constructor
  · cases hlevel : report.diagnostic.level with
    | debug =>
      have hnone : lines { console := .memory, verbosity := .errors } report = [] := by
        rw [lines_memory, hlevel]
        rfl
      rw [hnone]
      symm
      apply List.filter_eq_nil_iff.mpr
      intro line hline
      rw [hkind line hline, hlevel]
      exact Bool.false_ne_true
    | error =>
      have hall : lines { console := .memory, verbosity := .errors } report
          = lines { console := .memory, verbosity := .all } report := by
        rw [lines_memory, lines_memory, hlevel]
        rfl
      rw [hall]
      symm
      apply List.filter_eq_self.mpr
      intro line hline
      rw [hkind line hline, hlevel]
      rfl
  · intro line hline hlog
    obtain ⟨text, rfl⟩ := exists_of_mem_lines hline
    cases hlevel : report.diagnostic.level with
    | debug => exact ⟨text, rfl⟩
    | error =>
      rw [hlevel] at hlog
      cases hlog
  · rfl

end Reporter

variable {S C K : Type}

/-- The configuration that keeps the lines of its reports of a verbosity, without groups. -/
def Config.recording (config : Config K) (verbosity : Verbosity) : Config K :=
  config.reporting { console := .memory, verbosity } config.development

/-- The lines of a sequence of reports are filtered. -/
theorem Config.filtered_transcript (config : Config K) (reports : List Report) :
  Filtered fun verbosity => (config.recording verbosity).transcript reports
  := Filtered.flatMap Reporter.filtered_lines reports

/-! ### Runs -/

/-- The machine that keeps the lines of its reports of a verbosity, without groups. -/
def Machine.recording [DecidableEq S] [StateValue S] (machine : Machine S C K)
    (verbosity : Verbosity) : Machine S C K :=
  machine.reporting { console := .memory, verbosity } machine.config.development

/-- What a console keeps of runs whose bodies differ in the reporting of steps alone is filtered. -/
theorem StepHost.filtered_run [DecidableEq S] [StateValue S] [Context C] {Call : Type}
    {Answer : Call → Type} {W ε α : Type} {host : StepHost (Program Call Answer W ε) C K}
    {definition : Definition S C} {config : Config K}
    {body : (c : Call) → Program Call Answer W ε (Answer c)}
    {recording : Verbosity → (c : Call) → Program Call Answer W ε (Answer c)}
    (hbody : ∀ verbosity c, host.Retold definition config { console := .memory, verbosity }
      config.development (body c) (recording verbosity c))
    (reports : List (Moment Call Answer W) → List Report) (program : Program Call Answer W ε α)
    (depth : Nat) (world : W) :
  Filtered fun verbosity => (config.recording verbosity).transcript
    (reports (program.run (recording verbosity) depth world).history)
  := by
  have hsame : recording = fun _ => body := by
    funext verbosity c
    apply (hbody verbosity c).eq
  rw [hsame]
  apply config.filtered_transcript

/-- What the console of a synchronous machine keeps of a run. -/
def Synced.transcript {M ε α : Type} [DecidableEq S] [StateValue S] [Context C]
    (machine : Machine S C K) (client : Client S C K M ε) (depth : Nat) (code : Code S C K M ε α)
    (world : World S C K M) : List Line :=
  machine.config.transcript (History.reports (Synced.run machine client depth code world).history)

/-- What the console of a shared machine keeps of a run. -/
def Shared.transcript {M ε α : Type} [DecidableEq S] [StateValue S] [Context C]
    (machine : Machine S C K) (client : Client S C K M ε) (depth : Nat) (code : Code S C K M ε α)
    (world : World S C K M) : List Line :=
  machine.config.transcript (History.reports (Shared.run machine client depth code world).history)

variable [DecidableEq S] [StateValue S] [Context C]

/-- Take steps from given states, one after the other. -/
def Definition.takeSteps {σ ε : Type} (definition : Definition S C) (config : Config K)
    (client : StepClient σ ε C K) (steps : List (MachineState S C × Action K)) :
    Recording σ ε (List (Outcome S C)) :=
  steps.mapM fun (state, action) => definition.step config client state action

/-- The verbosity filters what is recorded and makes no other difference.  Steps taken one after the
other fail alike or have the same outcomes and reports, and the lines of these reports are filtered;
so are the lines of a run of a synchronous machine and those of a run of a shared machine. -/
theorem Machine.verbosity_filters (definition : Definition S C) (config : Config K) :
  (∀ (σ ε : Type) (client : StepClient σ ε C K) (steps : List (MachineState S C × Action K))
      (memory : σ),
      (∃ error, ∀ verbosity,
          (definition.takeSteps (config.recording verbosity) client steps).run
            { memory, reports := [] } = .error error)
        ∨ ∃ outcomes recorded, (∀ verbosity,
          (definition.takeSteps (config.recording verbosity) client steps).run
            { memory, reports := [] } = .ok (outcomes, recorded))
          ∧ Filtered fun verbosity => (config.recording verbosity).transcript recorded.reports)
    ∧ (∀ (resolved : definition.validate config = []) (M ε α : Type)
      (client : Synced.Client S C K M ε) (depth : Nat) (code : Synced.Code S C K M ε α)
      (world : Synced.World S C K M),
      Filtered fun verbosity =>
        Synced.transcript (Machine.recording { definition, config, resolved } verbosity) client depth
          code world)
    ∧ ∀ (resolved : definition.validate config = []) (M ε α : Type)
      (client : Shared.Client S C K M ε) (depth : Nat) (code : Shared.Code S C K M ε α)
      (world : Shared.World S C K M),
      Filtered fun verbosity =>
        Shared.transcript (Machine.recording { definition, config, resolved } verbosity) client depth
          code world
  := by
  refine ⟨?_, ?_, ?_⟩
  · intro σ ε client steps memory
    have hsame : ∀ verbosity, definition.takeSteps (config.recording verbosity) client steps
        = definition.takeSteps config client steps := fun _ => rfl
    cases hrun : (definition.takeSteps config client steps).run { memory, reports := [] } with
    | error error =>
      left
      use error
      intro verbosity
      rw [hsame, hrun]
    | ok result =>
      right
      use result.1, result.2
      constructor
      · intro verbosity
        rw [hsame, hrun]
      · apply config.filtered_transcript
  · intro resolved M ε α client depth code world
    apply StepHost.filtered_run fun _ => Synced.retold { definition, config, resolved } client _ _
  · intro resolved M ε α client depth code world
    apply StepHost.filtered_run fun _ => Shared.retold { definition, config, resolved } client _ _

/-- A context update and an event sent through a locked handle, recorded with `all`. -/
example : ((Config.default : Config String).recording .all).transcript
    [{ diagnostic := .contextUpdated, details := [("Prev Context", "0"), ("Next Context", "1")] },
      { diagnostic := .sendLocked, details := [("State", "idle"), ("Event", "GO")] }]
  = [.log "Context updated.", .log "Prev Context: 0", .log "Next Context: 1",
    .error "Send function not available. Must be used synchronously within an effect.",
    .error "State: idle", .error "Event: GO"]
  := by decide +kernel

end GuardedMachine
