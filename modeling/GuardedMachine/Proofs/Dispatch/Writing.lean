import GuardedMachine.Proofs.Dispatch.Questions

/-!
# What steps write

`Writes` says of a program with a memory and reports that it returns, and what it returns and
writes.  A decision is compared with its trace and then explained (`writes_compared`).  Guards that
answer from the event and the context alone are decided without a report up to the conclusion
(`silent_evaluate`, `silent_traced`), and tracing them agrees with the decision, so that a decision
is explained by a denial or by nothing (`writes_explained`).
-/

namespace GuardedMachine

variable {σ ε S C K α β : Type}

/-- A program returns, and `goal` holds of its result and of the reports that it writes. -/
def Writes (goal : α → List Report → Prop) (program : Recording σ ε α) : Prop :=
  ∀ recorded, ∃ a memory reports,
    program.run recorded = .ok (a, { memory, reports := recorded.reports ++ reports })
      ∧ goal a reports

namespace Writes

variable {goal goal' : α → List Report → Prop} {next : β → List Report → Prop}
  {program : Recording σ ε α} {f : α → Recording σ ε β}

theorem of_pure {a : α} (h : goal a []) :
  Writes goal (pure a : Recording σ ε α)
  := fun recorded => ⟨a, recorded.memory, [], by rw [List.append_nil]; rfl, h⟩

/-- What two programs write one after the other. -/
theorem bind (h : Writes goal program)
    (hf : ∀ a reports, goal a reports → Writes (fun b more => next b (reports ++ more)) (f a)) :
  Writes next (program >>= f)
  := by
  intro recorded
  obtain ⟨a, memory, reports, hrun, ha⟩ := h recorded
  obtain ⟨b, memory', more, hrun', hb⟩ := hf a reports ha
    { memory, reports := recorded.reports ++ reports }
  refine ⟨b, memory', reports ++ more, ?_, hb⟩
  rw [StateT.run_bind, hrun, ← List.append_assoc]
  exact hrun'

theorem mono (h : Writes goal program) (himp : ∀ a reports, goal a reports → goal' a reports) :
  Writes goal' program
  := by
  intro recorded
  obtain ⟨a, memory, reports, hrun, ha⟩ := h recorded
  exact ⟨a, memory, reports, hrun, himp a reports ha⟩

/-- A report is written. -/
theorem report (client : StepClient σ ε C K) (report : Report) :
  Writes (fun _ reports => reports = [report]) (client.host.report report)
  := fun recorded => ⟨(), recorded.memory, [report], rfl, rfl⟩

end Writes

/-- The reports are one report of a diagnostic, with details. -/
def Reports (diagnostic : Diagnostic) (reports : List Report) : Prop :=
  ∃ details, details ≠ [] ∧ reports = [{ diagnostic, details }]

/-- A report with details is one report of its diagnostic. -/
theorem writes_reports {client : StepClient σ ε C K} {diagnostic : Diagnostic}
    {details : List (String × String)} (hdetails : details ≠ []) :
  Writes (fun _ reports => Reports diagnostic reports) (client.host.report { diagnostic, details })
  := by
  apply (Writes.report client _).mono
  rintro _ _ rfl
  use details, hdetails

/-- The judgement on programs that return and write nothing. -/
def silentJudgement : Judgement (Recording σ ε) where
  holds P program := Writes (fun a reports => reports = [] ∧ P a) program
  holds_pure h := .of_pure ⟨rfl, h⟩
  holds_bind h hf := by
    apply Writes.bind h
    rintro a _ ⟨rfl, ha⟩
    apply hf a ha
  holds_map {α β P Q program f} h hf := by
    have hpure : Writes (fun b reports => reports = [] ∧ Q b) (program >>= fun a => pure (f a)) := by
      apply Writes.bind h
      rintro a _ ⟨rfl, ha⟩
      exact .of_pure ⟨rfl, hf a ha⟩
    rwa [bind_pure_comp] at hpure
  holds_mono h himp := h.mono fun a _ ha => ⟨ha.1, himp a ha.2⟩

/-- A program on the memory alone writes nothing. -/
theorem silent_onMemory {P : α → Prop} {program : StateT σ (Except ε) α}
    (h : ∀ memory, ∃ a memory', program memory = .ok (a, memory') ∧ P a) :
  silentJudgement.holds P (StepClient.onMemory program)
  := by
  intro recorded
  obtain ⟨a, memory, hrun, ha⟩ := h recorded.memory
  refine ⟨a, memory, [], ?_, rfl, ha⟩
  change (program recorded.memory >>= fun result =>
    Except.ok (result.1, { recorded with memory := result.2 })) = _
  rw [hrun, List.append_nil]
  rfl

/-! ### Deciding and tracing -/

/-- Programs that agree up to maps of their results leave the same, and their results agree. -/
theorem run_of_map_eq {γ : Type} {program : Recording σ ε α} {other : Recording σ ε β} {f : α → γ}
    {g : β → γ} (h : f <$> program = g <$> other) {recorded recorded' : Recorded σ} {b : β}
    (hrun : other.run recorded = .ok (b, recorded')) :
  ∃ a, program.run recorded = .ok (a, recorded') ∧ f a = g b
  := by
  have hmapped := congrArg (fun program => program.run recorded) h
  rw [StateT.run_map, StateT.run_map, hrun] at hmapped
  cases hfirst : program.run recorded with
  | error failure =>
    rw [hfirst] at hmapped
    cases hmapped
  | ok first =>
    obtain ⟨a, left⟩ := first
    rw [hfirst] at hmapped
    obtain ⟨hresult, rfl⟩ := Prod.mk.inj (Except.ok.inj hmapped)
    use a, rfl, hresult

namespace StepClient

variable (client : StepClient σ ε C K) (config : Config K) (event : Event) (context : C)

/-- The decision of a guard on an event in a context. -/
def decision (guard : Guard) : Recording σ ε (Except GuardError Bool) :=
  (guard.evaluate (client.host.check config event context)).run

/-- The trace of a guard on an event in a context. -/
def tracing (guard : Guard) : Recording σ ε (Except GuardError Trace) :=
  (guard.trace (client.host.check config event context)).run

/-- Tracing a guard is deciding it, up to what the trace records. -/
theorem map_tracing (guard : Guard) :
  Except.map Trace.allow <$> client.tracing config event context guard
    = Except.map some <$> client.decision config event context guard
  := by
  have hagree := congrArg ExceptT.run
    (Guard.allow_trace (client.host.check config event context) guard)
  rw [ExceptT.run_map, ExceptT.run_map] at hagree
  apply hagree

end StepClient

/-! ### Guards with fixed answers -/

/-- Guards answer as an oracle does, and reducers return. -/
structure StepClient.Answers (client : StepClient σ ε C K) (oracle : Oracle C K) : Prop where
  guard : ∀ token event context memory, ∃ memory',
    client.guard token event context memory = .ok (oracle.guard token event context, memory')
  reduce : ∀ token context memory, ∃ next memory',
    client.reduce token context memory = .ok (next, memory')

namespace StepClient.Answers

variable {client : StepClient σ ε C K} {oracle : Oracle C K} (h : client.Answers oracle)
  {config : Config K} {event : Event} {context : C}

include h

/-- Asking a name writes nothing. -/
theorem silent_check (name : String) :
  silentJudgement.holds (· = oracle.answer config event context name)
    (client.host.check config event context name).run
  := by
  rw [StepHost.check, Oracle.answer]
  cases config.guard? name with
  | none =>
    apply silentJudgement.holds_pure
    rfl
  | some token =>
    have hask : silentJudgement.holds (· = oracle.guard token event context)
        (client.host.guard token event context) := by
      apply silent_onMemory
      intro memory
      obtain ⟨memory', hrun⟩ := h.guard token event context memory
      exact ⟨_, memory', hrun, rfl⟩
    apply silentJudgement.holds_map hask
    rintro _ rfl
    rfl

/-- Deciding a guard writes nothing. -/
theorem silent_evaluate (guard : Guard) :
  silentJudgement.holds (· = guard.evaluate (oracle.answer config event context))
    (guard.evaluate (client.host.check config event context)).run
  := Guard.holds_evaluate_eq (fun name => h.silent_check name) guard

/-- Tracing a guard that is decided writes nothing and comes to the same answer. -/
theorem silent_traced {guard : Guard} {allow : Bool}
    (hdecided : guard.evaluate (oracle.answer config event context) = .ok allow) :
  silentJudgement.holds (fun traced => ∀ trace, traced = some trace → trace.allow = some allow)
    (client.host.traced? config guard event context)
  := by
  rw [StepHost.traced?]
  split
  · have htrace : silentJudgement.holds
        (fun traced : Except GuardError Trace => traced.map Trace.allow = .ok (some allow))
        (guard.trace (client.host.check config event context)).run := by
      intro recorded
      obtain ⟨answer, memory, _, hrun, rfl, rfl⟩ := h.silent_evaluate guard recorded
      obtain ⟨first, htraced, hanswer⟩ :=
        run_of_map_eq (client.map_tracing config event context guard) hrun
      rw [hdecided] at hanswer
      use first, memory, [], htraced, rfl, hanswer
    apply silentJudgement.holds_bind htrace
    rintro (error | trace) hanswer
    · cases hanswer
    · apply silentJudgement.holds_pure
      rintro _ ⟨⟩
      exact Except.ok.inj hanswer
  · apply silentJudgement.holds_pure
    rintro _ ⟨⟩

variable [StateValue S] [Context C] {state : MachineState S C} {target : S}

/-- What is written about a decision on a row to a target: a denial, and nothing about a guard that
holds. -/
def Explains (state : MachineState S C) (target : S) (allow : Bool) (reports : List Report) : Prop :=
  if allow then reports = []
  else Reports (.guardDenied (StateValue.name state.value) (StateValue.name target)) reports

/-- What is written about a trace next to a decision: that it came to another answer, and nothing
about one that agrees or that is missing. -/
def Compares (allow : Bool) (traced : Option Trace) (reports : List Report) : Prop :=
  (∀ trace, traced = some trace → trace.allow = some allow) ∧ reports = []
    ∨ (∃ trace, traced = some trace ∧ trace.allow ≠ some allow)
      ∧ Reports .tracerDivergence reports

omit h [Context C] in
/-- A denial is reported. -/
theorem writes_denial {allow : Bool} {details : List (String × String)} (hdetails : details ≠ []) :
  Writes (fun result reports => result = allow ∧ Explains state target allow reports)
    (if (!allow) = true then
      client.host.report
        { diagnostic := .guardDenied (StateValue.name state.value) (StateValue.name target)
          details } >>= fun _ => pure allow
    else (pure allow : Recording σ ε Bool))
  := by
  cases allow with
  | true => exact .of_pure ⟨rfl, rfl⟩
  | false =>
    apply Writes.bind (writes_reports hdetails)
    intro _ reports hreports
    apply Writes.of_pure
    rw [List.append_nil]
    exact ⟨rfl, hreports⟩

omit h in
/-- A decision is compared with its trace, and then it is explained. -/
theorem writes_compared (client : StepClient σ ε C K) (guard : Guard) (state : MachineState S C)
    (target : S) (event : Event) (allow : Bool) (traced : Option Trace) :
  Writes
    (fun result reports => result = allow ∧ ∃ compared denied, reports = compared ++ denied
      ∧ Compares allow traced compared ∧ Explains state target allow denied)
    (client.host.explained guard state target event allow traced)
  := by
  rw [StepHost.explained.eq_def]
  cases traced with
  | none =>
    apply (writes_denial (List.cons_ne_nil _ _)).mono
    rintro result reports ⟨hresult, hexplains⟩
    use hresult, [], reports, rfl
    constructor
    · left
      constructor
      · rintro trace ⟨⟩
      · rfl
    · apply hexplains
  | some trace =>
    dsimp only
    by_cases hagrees : trace.allow = some allow
    · rw [if_neg (not_not.mpr hagrees)]
      apply (writes_denial (List.cons_ne_nil _ _)).mono
      rintro result reports ⟨hresult, hexplains⟩
      use hresult, [], reports, rfl
      constructor
      · left
        constructor
        · rintro _ ⟨⟩
          apply hagrees
        · rfl
      · apply hexplains
    · rw [if_pos hagrees]
      apply Writes.bind (writes_reports (List.cons_ne_nil _ _))
      intro _ compared hcompared
      apply (writes_denial (List.cons_ne_nil _ _)).mono
      rintro result denied ⟨hresult, hexplains⟩
      use hresult, compared, denied, rfl
      constructor
      · right
        use ⟨trace, rfl, hagrees⟩
      · apply hexplains

omit h in
/-- A trace that agrees with the decision is not reported. -/
theorem writes_explained {guard : Guard} {allow : Bool} {traced : Option Trace}
    (hagrees : ∀ trace, traced = some trace → trace.allow = some allow) :
  Writes (fun result reports => result = allow ∧ Explains state target allow reports)
    (client.host.explained guard state target event allow traced)
  := by
  apply (writes_compared client guard state target event allow traced).mono
  rintro result reports ⟨hresult, compared, denied, rfl, hcompares, hexplains⟩
  obtain ⟨-, rfl⟩ | ⟨⟨trace, htraced, hdiffers⟩, -⟩ := hcompares
  · use hresult, hexplains
  · cases hdiffers (hagrees trace htraced)

end StepClient.Answers

end GuardedMachine
