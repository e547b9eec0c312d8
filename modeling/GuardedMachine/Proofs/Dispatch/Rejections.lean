import GuardedMachine.Definition.Builder
import GuardedMachine.Proofs.Dispatch.Writing
import GuardedMachine.Proofs.Machine.Listening
import Mathlib.Data.List.Basic

/-!
# Rejections are reported

When guards answer from the event and the context alone, `Rejects` tells for which reason an event
is rejected at a state, and `Accepts` to which state it leads otherwise.  `Course` relates a
sequence of actions to the diagnostics of those that are not accepted events, in the same order.
`Definition.rejections_reported` shows that transitions report the diagnostics of their course and
nothing else, in development mode and out of it.
-/

namespace GuardedMachine

/-! ### Where a guard fails -/

/-- The name for which a decision failed. -/
def failure? : Except GuardError Bool → Option String
  | .ok _ => none
  | .error (.undefined name) => some name

namespace Guard

variable (answers : String → Except GuardError Bool)

mutual

/-- Deciding a guard fails for the first name that fails among those that are asked. -/
theorem findSome?_asked : ∀ guard : Guard,
  (guard.asked answers).findSome? (fun name => failure? (answers name))
    = failure? (guard.evaluate answers)
  | .leaf name => by simp [asked, evaluate]
  | .not inner => by
    rw [asked, findSome?_asked inner, evaluate]
    cases inner.evaluate answers with
    | error error => rfl
    | ok allow => rfl
  | .and children => findSome?_askedAll children
  | .or children => findSome?_askedAny children

theorem findSome?_askedAll : ∀ children : List Guard,
  (askedAll answers children).findSome? (fun name => failure? (answers name))
    = failure? (evaluateAll answers children)
  | [] => rfl
  | child :: rest => by
    rw [askedAll, List.findSome?_append, findSome?_asked child, evaluateAll]
    cases child.evaluate answers with
    | error error => cases error; rfl
    | ok allow =>
      cases allow with
      | false => rfl
      | true => exact findSome?_askedAll rest

theorem findSome?_askedAny : ∀ children : List Guard,
  (askedAny answers children).findSome? (fun name => failure? (answers name))
    = failure? (evaluateAny answers children)
  | [] => rfl
  | child :: rest => by
    rw [askedAny, List.findSome?_append, findSome?_asked child, evaluateAny]
    cases child.evaluate answers with
    | error error => cases error; rfl
    | ok allow =>
      cases allow with
      | false => exact findSome?_askedAny rest
      | true => rfl

end

end Guard

/-! ### Fates of events -/

variable {S C K : Type} [DecidableEq S]

namespace Oracle

/-- The first name that is not configured among those that deciding a guard asks. -/
def unconfigured? (oracle : Oracle C K) (config : Config K) (context : C) (event : Event)
    (guard : Guard) : Option String :=
  (guard.asked (oracle.answer config event context)).find? fun name => (config.guard? name).isNone

/-- A decision fails for the first name that is asked and not configured. -/
theorem unconfigured?_eq (oracle : Oracle C K) (config : Config K) (context : C) (event : Event)
    (guard : Guard) :
  oracle.unconfigured? config context event guard
    = failure? (guard.evaluate (oracle.answer config event context))
  := by
  rw [← Guard.findSome?_asked, unconfigured?, List.find?_eq_findSome?_guard]
  congr 1
  funext name
  rw [answer]
  cases hname : config.guard? name with
  | none => simp [Option.guard, hname, failure?]
  | some token => simp [Option.guard, hname, failure?]

end Oracle

/-- Why an event is rejected at a state: the diagnostic that says so. -/
inductive Rejects [StateValue S] (definition : Definition S C) (config : Config K)
    (oracle : Oracle C K) (state : MachineState S C) (event : Event) : Diagnostic → Prop where
  /-- The value of the state is not defined. -/
  | undefinedState (hstate : definition.state? state.value = none) :
    Rejects definition config oracle state event (.undefinedState (StateValue.name state.value))
  /-- Neither the state nor the root has a row for the event. -/
  | unknownEvent {entered : StateDef S} (hstate : definition.state? state.value = some entered)
      (hown : entered.on.get? event.kind = none) (hroot : definition.on.get? event.kind = none) :
    Rejects definition config oracle state event
      (.unknownEvent (StateValue.name state.value) event.kind)
  /-- Deciding the guard of the row reaches a name that is not configured. -/
  | undefinedGuard {row : Target S} {guard : Guard} {name : String}
      (hrow : definition.Selects state.value event.kind row) (hguard : row.guard = some guard)
      (hreached : oracle.unconfigured? config state.context event guard = some name) :
    Rejects definition config oracle state event (.undefinedGuard name)
  /-- The guard of the row does not hold. -/
  | guardDenied {row : Target S} {guard : Guard}
      (hrow : definition.Selects state.value event.kind row) (hguard : row.guard = some guard)
      (hdenied : guard.evaluate (oracle.answer config event state.context) = .ok false) :
    Rejects definition config oracle state event
      (.guardDenied (StateValue.name state.value) (StateValue.name row.target))

/-- An event is accepted at a state, and leads to another. -/
def Accepts (definition : Definition S C) (config : Config K) (oracle : Oracle C K)
    (state : MachineState S C) (event : Event) (next : MachineState S C) : Prop :=
  ∃ row, definition.Selects state.value event.kind row
    ∧ (∀ guard, row.guard = some guard →
        guard.evaluate (oracle.answer config event state.context) = .ok true)
    ∧ next
      = { value := row.target
          context := state.context
          event
          nextEvents := definition.nextEvents row.target }

/-! ### Fates exclude each other -/

/-- A value selects one row for a kind of event. -/
theorem Definition.Selects.unique {definition : Definition S C} {value : S} {kind : String}
    {row row' : Target S} (h : definition.Selects value kind row)
    (h' : definition.Selects value kind row') :
  row = row'
  := by
  obtain ⟨entered, hentered, hrow⟩ := h
  obtain ⟨_, hentered', hrow'⟩ := h'
  obtain rfl := Option.some.inj (hentered.symm.trans hentered')
  rcases hrow with hown | ⟨hown, hroot⟩ <;> rcases hrow' with hown' | ⟨hown', hroot'⟩
  · exact Option.some.inj (hown.symm.trans hown')
  · cases hown.symm.trans hown'
  · cases hown.symm.trans hown'
  · exact Option.some.inj (hroot.symm.trans hroot')

section Exclusive

variable [StateValue S] {definition : Definition S C} {config : Config K} {oracle : Oracle C K}
  {state : MachineState S C} {event : Event} {row : Target S} {diagnostic : Diagnostic}

/-- An event that has a row at a state is rejected by the guard of the row or not at all. -/
theorem Rejects.of_selects (h : Rejects definition config oracle state event diagnostic)
    (hrow : definition.Selects state.value event.kind row) :
  ∃ guard, row.guard = some guard ∧
    ((∃ name, failure? (guard.evaluate (oracle.answer config event state.context)) = some name
        ∧ diagnostic = .undefinedGuard name)
      ∨ guard.evaluate (oracle.answer config event state.context) = .ok false
        ∧ diagnostic = .guardDenied (StateValue.name state.value) (StateValue.name row.target))
  := by
  cases h with
  | undefinedState hstate =>
    obtain ⟨_, hentered, -⟩ := hrow
    cases hstate.symm.trans hentered
  | unknownEvent hstate hown hroot =>
    obtain ⟨_, hentered, hrow⟩ := hrow
    obtain rfl := Option.some.inj (hstate.symm.trans hentered)
    rcases hrow with hrow | ⟨-, hrow⟩
    · cases hown.symm.trans hrow
    · cases hroot.symm.trans hrow
  | undefinedGuard hrow' hguard hreached =>
    obtain rfl := hrow.unique hrow'
    rw [Oracle.unconfigured?_eq] at hreached
    exact ⟨_, hguard, .inl ⟨_, hreached, rfl⟩⟩
  | guardDenied hrow' hguard hdenied =>
    obtain rfl := hrow.unique hrow'
    exact ⟨_, hguard, .inr ⟨hdenied, rfl⟩⟩

/-- An event is rejected for one reason only. -/
theorem Rejects.unique {other : Diagnostic}
    (h : Rejects definition config oracle state event diagnostic)
    (h' : Rejects definition config oracle state event other) :
  diagnostic = other
  := by
  by_cases hselects : ∃ row, definition.Selects state.value event.kind row
  · obtain ⟨row, hrow⟩ := hselects
    obtain ⟨guard, hguard, hreason⟩ := h.of_selects hrow
    obtain ⟨guard', hguard', hreason'⟩ := h'.of_selects hrow
    obtain rfl := Option.some.inj (hguard.symm.trans hguard')
    rcases hreason with ⟨name, hfails, rfl⟩ | ⟨hdenied, rfl⟩ <;>
      rcases hreason' with ⟨name', hfails', rfl⟩ | ⟨hdenied', rfl⟩
    · rw [Option.some.inj (hfails.symm.trans hfails')]
    · rw [hdenied'] at hfails
      cases hfails
    · rw [hdenied] at hfails'
      cases hfails'
    · rfl
  · cases h with
    | undefinedGuard hrow | guardDenied hrow => cases hselects ⟨_, hrow⟩
    | undefinedState hstate =>
      cases h' with
      | undefinedGuard hrow | guardDenied hrow => cases hselects ⟨_, hrow⟩
      | undefinedState _ => rfl
      | unknownEvent hstate' => cases hstate.symm.trans hstate'
    | unknownEvent hstate =>
      cases h' with
      | undefinedGuard hrow | guardDenied hrow => cases hselects ⟨_, hrow⟩
      | undefinedState hstate' => cases hstate'.symm.trans hstate
      | unknownEvent _ => rfl

/-- An event that is rejected is not accepted. -/
theorem Rejects.not_accepts (h : Rejects definition config oracle state event diagnostic)
    (next : MachineState S C) :
  ¬ Accepts definition config oracle state event next
  := by
  rintro ⟨row, hrow, hholds, -⟩
  obtain ⟨guard, hguard, ⟨name, hfails, -⟩ | ⟨hdenied, -⟩⟩ := h.of_selects hrow
  · rw [hholds guard hguard] at hfails
    cases hfails
  · cases hdenied.symm.trans (hholds guard hguard)

end Exclusive

/-! ### One event -/

section Send

variable [StateValue S] [Context C] {σ ε : Type} {client : StepClient σ ε C K}
  {oracle : Oracle C K} (h : client.Answers oracle) {definition : Definition S C}
  {config : Config K} {state : MachineState S C} {event : Event}

include h

/-- The guard of a row that holds is decided without a report, and one that does not hold is
reported with the reason. -/
theorem writes_allows {row : Target S} {guard : Guard}
    (hrow : definition.Selects state.value event.kind row) (hguard : row.guard = some guard) :
  Writes
    (fun allow reports =>
      (allow = true ∧ reports = []
        ∧ guard.evaluate (oracle.answer config event state.context) = .ok true)
      ∨ allow = false ∧ ∃ diagnostic, Rejects definition config oracle state event diagnostic
          ∧ Reports diagnostic reports)
    (client.host.allows config guard state row.target event)
  := by
  rw [StepHost.allows_eq]
  apply Writes.bind (h.silent_evaluate guard)
  rintro result _ ⟨rfl, hresult⟩
  cases hdecided : guard.evaluate (oracle.answer config event state.context) with
  | error error =>
    obtain ⟨name⟩ := error
    have hreached : oracle.unconfigured? config state.context event guard = some name := by
      rw [Oracle.unconfigured?_eq, hdecided]
      rfl
    rw [hresult, hdecided]
    apply Writes.bind (Writes.report client _)
    rintro _ _ rfl
    apply Writes.of_pure
    right
    exact ⟨rfl, _, .undefinedGuard hrow hguard hreached, _, List.cons_ne_nil _ _, rfl⟩
  | ok allow =>
    rw [hresult, hdecided]
    apply Writes.bind (h.silent_traced hdecided)
    rintro traced _ ⟨rfl, hagrees⟩
    apply (StepClient.Answers.writes_explained hagrees).mono
    rintro allow' reports ⟨hallow, hexplains⟩
    rw [hallow]
    cases allow with
    | true =>
      left
      exact ⟨rfl, hexplains, rfl⟩
    | false =>
      right
      exact ⟨rfl, _, .guardDenied hrow hguard hdecided, hexplains⟩

/-- An event is accepted without a report, or it is rejected and the reason is reported. -/
theorem writes_send :
  Writes
    (fun outcome reports =>
      (∃ next, Accepts definition config oracle state event next
        ∧ outcome = .transitioned next ∧ reports = [])
      ∨ ∃ diagnostic, Rejects definition config oracle state event diagnostic
          ∧ outcome = .unchanged ∧ Reports diagnostic reports)
    (client.host.send definition config state event)
  := by
  rw [StepHost.send]
  dsimp only
  cases hstate : definition.state? state.value with
  | none =>
    apply Writes.bind (Writes.report client _)
    rintro _ _ rfl
    apply Writes.of_pure
    right
    exact ⟨_, .undefinedState hstate, rfl, _, List.cons_ne_nil _ _, rfl⟩
  | some entered =>
    rw [if_neg (by simp)]
    cases hrow : definition.transition? state.value event.kind with
    | none =>
      have hnone : entered.on.get? event.kind = none ∧ definition.on.get? event.kind = none := by
        rw [Definition.transition?, hstate, Option.bind_some] at hrow
        cases hown : entered.on.get? event.kind with
        | none =>
          rw [hown] at hrow
          exact ⟨rfl, hrow⟩
        | some own =>
          rw [hown] at hrow
          cases hrow
      apply Writes.bind (Writes.report client _)
      rintro _ _ rfl
      apply Writes.of_pure
      right
      exact ⟨_, .unknownEvent hstate hnone.1 hnone.2, rfl, _, List.cons_ne_nil _ _, rfl⟩
    | some row =>
      have hselects : definition.Selects state.value event.kind row := by
        apply Definition.selects_of_transition? _ hrow
        rw [hstate]
        rfl
      dsimp only
      cases hguard : row.guard with
      | none =>
        apply Writes.of_pure
        left
        refine ⟨_, ⟨row, hselects, ?_, rfl⟩, rfl, rfl⟩
        rintro guard hguard'
        cases hguard.symm.trans hguard'
      | some guard =>
        apply Writes.bind (writes_allows h hselects hguard)
        rintro _ reports (⟨rfl, rfl, hholds⟩ | ⟨rfl, diagnostic, hrejects, hreports⟩)
        · apply Writes.of_pure
          left
          refine ⟨_, ⟨row, hselects, ?_, rfl⟩, rfl, rfl⟩
          intro guard' hguard'
          obtain rfl := Option.some.inj (hguard.symm.trans hguard')
          exact hholds
        · apply Writes.of_pure
          right
          refine ⟨diagnostic, hrejects, rfl, ?_⟩
          rw [List.append_nil]
          exact hreports

end Send

/-! ### Sequences of actions -/

/-- A sequence of actions leads from a state to a last one, with diagnostics for those that are not
accepted events, in order: an event that is rejected leaves the state as it is, for the reason
given, and a context update leaves all but the context. -/
inductive Course [StateValue S] {σ ε : Type} (definition : Definition S C) (config : Config K)
    (client : StepClient σ ε C K) (oracle : Oracle C K) (last : MachineState S C) :
    MachineState S C → List (Action K) → List Diagnostic → Prop where
  | done : Course definition config client oracle last last [] []
  | accepted {state next : MachineState S C} {event : Event} {actions : List (Action K)}
      {diagnostics : List Diagnostic}
      (haccepts : Accepts definition config oracle state event next)
      (hrest : Course definition config client oracle last next actions diagnostics) :
    Course definition config client oracle last state (.send event :: actions) diagnostics
  | rejected {state : MachineState S C} {event : Event} {actions : List (Action K)}
      {diagnostic : Diagnostic} {diagnostics : List Diagnostic}
      (hrejects : Rejects definition config oracle state event diagnostic)
      (hrest : Course definition config client oracle last state actions diagnostics) :
    Course definition config client oracle last state (.send event :: actions)
      (diagnostic :: diagnostics)
  | updated {state : MachineState S C} {reducer : K} {context : C} {actions : List (Action K)}
      {diagnostics : List Diagnostic}
      (hmakes : ∃ memory memory', client.reduce reducer state.context memory = .ok (context, memory'))
      (hrest : Course definition config client oracle last { state with context } actions
        diagnostics) :
    Course definition config client oracle last state (.setContext reducer :: actions)
      (.contextUpdated :: diagnostics)

/-- A course never says that a trace diverges. -/
theorem Course.not_mem_tracerDivergence [StateValue S] {σ ε : Type} {definition : Definition S C}
    {config : Config K} {client : StepClient σ ε C K} {oracle : Oracle C K}
    {state last : MachineState S C} {actions : List (Action K)} {diagnostics : List Diagnostic}
    (h : Course definition config client oracle last state actions diagnostics) :
  .tracerDivergence ∉ diagnostics
  := by
  induction h with
  | done => simp
  | accepted _ _ ih => exact ih
  | rejected hrejects _ ih =>
    rw [List.mem_cons, not_or]
    constructor
    · rintro rfl
      cases hrejects
    · exact ih
  | updated _ _ ih => simpa using ih

/-- A report with details, of a level that is to be written, is written as it is laid out. -/
theorem Reporter.lines_of_enabled {reporter : Reporter} {report : Report}
    (henabled : reporter.enabled report.diagnostic.level = true) (hdetails : report.details ≠ []) :
  reporter.lines report = reporter.console.record (layout reporter.console.groups report)
  := by
  rw [lines, henabled]
  simp [hdetails]

/-- When everything is to be written, a report with details is written as it is laid out. -/
theorem Reporter.lines_all {reporter : Reporter} (hverbosity : reporter.verbosity = .all)
    {report : Report} (hdetails : report.details ≠ []) :
  reporter.lines report = reporter.console.record (layout reporter.console.groups report)
  := by
  apply lines_of_enabled _ hdetails
  rw [enabled, hverbosity]
  rfl

/-- When errors are to be written, a report of an error with details is written as it is laid out. -/
theorem Reporter.lines_error {reporter : Reporter} (hverbosity : reporter.verbosity ≠ .silent)
    {report : Report} (hlevel : report.diagnostic.level = .error) (hdetails : report.details ≠ []) :
  reporter.lines report = reporter.console.record (layout reporter.console.groups report)
  := by
  apply lines_of_enabled _ hdetails
  rw [enabled, hlevel]
  cases hnamed : reporter.verbosity with
  | silent => cases hverbosity hnamed
  | errors => rfl
  | all => rfl

namespace Definition

variable [StateValue S] [Context C] {σ ε : Type} {client : StepClient σ ε C K}
  {oracle : Oracle C K}

/-- What one transition does and writes. -/
theorem writes_transition (h : client.Answers oracle) (definition : Definition S C)
    (config : Config K) (state : MachineState S C) (action : Action K) :
  Writes
    (fun next reports => (∀ report ∈ reports, report.details ≠ [])
      ∧ ∀ last actions diagnostics,
        Course definition config client oracle last next actions diagnostics →
          Course definition config client oracle last state (action :: actions)
            (reports.map Report.diagnostic ++ diagnostics))
    (definition.transition config client state action)
  := by
  cases action with
  | send event =>
    apply Writes.bind (writes_send h)
    rintro _ _ (⟨next, haccepts, rfl, rfl⟩ | ⟨diagnostic, hrejects, rfl, details, hdetails, rfl⟩)
    · apply Writes.of_pure
      constructor
      · rintro _ ⟨⟩
      · intro last actions diagnostics hrest
        exact .accepted haccepts hrest
    · apply Writes.of_pure
      constructor
      · simpa using hdetails
      · intro last actions diagnostics hrest
        exact .rejected hrejects hrest
  | setContext reducer =>
    have hmakes : silentJudgement.holds
        (fun context => ∃ memory memory',
          client.reduce reducer state.context memory = .ok (context, memory'))
        (client.host.reduce reducer state.context) := by
      apply silent_onMemory
      intro memory
      obtain ⟨context, memory', hrun⟩ := h.reduce reducer state.context memory
      exact ⟨context, memory', hrun, memory, memory', hrun⟩
    have hset : Writes
        (fun outcome reports => ∃ context,
          (∃ memory memory', client.reduce reducer state.context memory = .ok (context, memory'))
          ∧ outcome = .contextUpdated { state with context } ∧ Reports .contextUpdated reports)
        (client.host.setContext state reducer) := by
      apply Writes.bind hmakes
      rintro context _ ⟨rfl, hcontext⟩
      apply Writes.bind (Writes.report client _)
      rintro _ _ rfl
      apply Writes.of_pure
      exact ⟨context, hcontext, rfl, _, List.cons_ne_nil _ _, rfl⟩
    apply Writes.bind hset
    rintro _ _ ⟨context, hcontext, rfl, details, hdetails, rfl⟩
    apply Writes.of_pure
    constructor
    · simpa using hdetails
    · intro last actions diagnostics hrest
      exact .updated hcontext hrest

/-- What transitions do and write, one after the other. -/
theorem writes_transitions (h : client.Answers oracle) (definition : Definition S C)
    (config : Config K) (actions : List (Action K)) (state : MachineState S C) :
  Writes
    (fun last reports => (∀ report ∈ reports, report.details ≠ [])
      ∧ Course definition config client oracle last state actions (reports.map Report.diagnostic))
    (actions.foldlM (definition.transition config client) state)
  := by
  induction actions generalizing state with
  | nil =>
    apply Writes.of_pure
    constructor
    · rintro _ ⟨⟩
    · exact .done
  | cons action rest ih =>
    rw [List.foldlM_cons]
    apply Writes.bind (definition.writes_transition h config state action)
    rintro next reports ⟨hdetails, hcourse⟩
    apply (ih next).mono
    rintro last more ⟨hdetails', hrest⟩
    constructor
    · intro report hreport
      rcases List.mem_append.mp hreport with hreport | hreport
      · exact hdetails report hreport
      · exact hdetails' report hreport
    · rw [List.map_append]
      exact hcourse last rest _ hrest

/-- No rejection is silent and no acceptance is noisy.  Transitions on any actions from any state
return, and report one diagnostic for each action that is not an accepted event, in the order of the
actions: the reason for which an event is rejected, and that a context was updated.  The reasons
exclude each other and acceptance, a trace never diverges, and when everything is to be written
every report is. -/
theorem rejections_reported (h : client.Answers oracle) (definition : Definition S C)
    (config : Config K) (hverbosity : config.reporter.verbosity = .all)
    (actions : List (Action K)) (state : MachineState S C) (recorded : Recorded σ) :
  ∃ last memory reports,
    (actions.foldlM (definition.transition config client) state).run recorded
        = .ok (last, { memory, reports := recorded.reports ++ reports })
      ∧ Course definition config client oracle last state actions (reports.map Report.diagnostic)
      ∧ .tracerDivergence ∉ reports.map Report.diagnostic
      ∧ (∀ state event diagnostic, Rejects definition config oracle state event diagnostic →
          (∀ other, Rejects definition config oracle state event other → other = diagnostic)
          ∧ ∀ next, ¬ Accepts definition config oracle state event next)
      ∧ config.transcript reports = reports.flatMap fun report =>
          config.reporter.console.record (Reporter.layout config.reporter.console.groups report)
  := by
  obtain ⟨last, memory, reports, hrun, hdetails, hcourse⟩ :=
    definition.writes_transitions h config actions state recorded
  refine ⟨last, memory, reports, hrun, hcourse, hcourse.not_mem_tracerDivergence, ?_, ?_⟩
  · intro state event diagnostic hrejects
    exact ⟨fun other hother => hother.unique hrejects, hrejects.not_accepts⟩
  · rw [Config.transcript]
    apply List.flatMap_congr
    intro report hreport
    apply Reporter.lines_all hverbosity (hdetails report hreport)

end Definition

/-! ### Example -/

/-- A barrier that opens for those who paid or are members, lets members pass with an escort, and
leads into a state that is not defined. -/
def barrier : Definition String Int64 where
  initial := "shut"
  states := Table.ofList
    [("shut", StateDef.ofRows
        [.on "PAY" (.guarded "open" (some (.or [.leaf "member", .leaf "paid"]))),
          .on "PASS" (.guarded "open" (some (.and [.leaf "member", .leaf "escort"])))]),
      ("open", StateDef.ofRows [.on "LEAVE" (.to "road")])]
  on := Table.empty
  context := 0

/-- Nobody configured the escort.  Everything is written. -/
def barrierConfig : Config Int64 where
  guards := Table.ofList [("member", 1), ("paid", 2)]
  effects := Table.empty
  reporter := { console := .memory, verbosity := .all }
  development := true

/-- Guards hold from a context on, and reducers add to it. -/
def barrierOracle : Oracle Int64 Int64 where
  guard token _ context := token ≤ context
  reduce token context := context + token

/-- What happens at the barrier. -/
def barrierActions : List (Action Int64) :=
  [.send (Event.ofKind "PAY"), .send (Event.ofKind "CALL"), .setContext 1,
    .send (Event.ofKind "PASS"), .send (Event.ofKind "PAY"), .send (Event.ofKind "LEAVE"),
    .send (Event.ofKind "PAY")]

/-- The barrier reports what it rejects and the update of the context, in order, and it does not
report that it opens and is left. -/
theorem barrier_reported :
  ∃ client : StepClient Unit Empty Int64 Int64, client.Answers barrierOracle
    ∧ ∃ last memory reports,
      (barrierActions.foldlM (barrier.transition barrierConfig client) barrier.initialState).run
        { memory := (), reports := [] } = .ok (last, { memory, reports })
      ∧ Course barrier barrierConfig client barrierOracle last barrier.initialState barrierActions
        [.guardDenied "shut" "open", .unknownEvent "shut" "CALL", .contextUpdated,
          .undefinedGuard "escort", .undefinedState "road"]
  := by
  have hanswers : (barrierOracle.client : StepClient Unit Empty Int64 Int64).Answers
      barrierOracle := ⟨fun _ _ _ memory => ⟨memory, rfl⟩, fun _ _ memory => ⟨_, memory, rfl⟩⟩
  obtain ⟨last, memory, reports, hrun, hcourse, -⟩ := Definition.rejections_reported hanswers
    barrier barrierConfig rfl barrierActions barrier.initialState { memory := (), reports := [] }
  have hreported := congrArg
    (Except.map fun result => result.2.reports.map Report.diagnostic) hrun
  refine ⟨_, hanswers, last, memory, reports, hrun, ?_⟩
  have hdiagnostics : reports.map Report.diagnostic
      = [.guardDenied "shut" "open", .unknownEvent "shut" "CALL", .contextUpdated,
          .undefinedGuard "escort", .undefinedState "road"] := by
    apply Except.ok.inj
    rw [← List.nil_append reports]
    apply hreported.symm.trans
    decide +kernel
  rw [← hdiagnostics]
  exact hcourse

end GuardedMachine
