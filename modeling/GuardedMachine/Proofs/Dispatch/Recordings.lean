import GuardedMachine.Dispatch.Recorded
import GuardedMachine.Proofs.Dispatch.Outcomes

/-!
# Steps that are recorded

A judgement on programs with a memory and reports, and what follows for sequences of transitions:
a property of states that every step of a definition keeps is kept by all of them
(`Keeps.transitions`), whatever guards and reducers do with their memory.
-/

namespace GuardedMachine

/-! ### Programs with a memory and reports -/

/-- The judgement on programs with a memory and reports that keep an invariant of the reports. -/
def reportJudgement {σ ε : Type} (invariant : List Report → Prop) :
    Judgement (Recording σ ε) where
  holds P program := ∀ recorded, invariant recorded.reports → ∀ a recorded',
    program.run recorded = .ok (a, recorded') → P a ∧ invariant recorded'.reports
  holds_pure h recorded hinvariant := by
    rintro _ _ ⟨⟩
    exact ⟨h, hinvariant⟩
  holds_bind {α β P Q program f} h hf recorded hinvariant b recorded'' hrun := by
    rw [StateT.run_bind] at hrun
    cases hfirst : program.run recorded with
    | error error =>
      rw [hfirst] at hrun
      cases hrun
    | ok first =>
      rw [hfirst] at hrun
      obtain ⟨ha, hinvariant'⟩ := h recorded hinvariant first.1 first.2 hfirst
      apply hf first.1 ha first.2 hinvariant' b recorded'' hrun
  holds_map {α β P Q program f} h hf recorded hinvariant b recorded'' hrun := by
    rw [StateT.run_map] at hrun
    cases hfirst : program.run recorded with
    | error error =>
      rw [hfirst] at hrun
      cases hrun
    | ok first =>
      rw [hfirst] at hrun
      obtain ⟨ha, hinvariant'⟩ := h recorded hinvariant first.1 first.2 hfirst
      cases hrun
      exact ⟨hf first.1 ha, hinvariant'⟩
  holds_mono h himp recorded hinvariant a recorded' hrun := by
    obtain ⟨ha, hinvariant'⟩ := h recorded hinvariant a recorded' hrun
    exact ⟨himp a ha, hinvariant'⟩

/-- A program on the memory alone writes no reports. -/
theorem runs_onMemory {σ ε α : Type} {invariant : List Report → Prop}
    (program : StateT σ (Except ε) α) :
  (reportJudgement invariant).runs (StepClient.onMemory program)
  := by
  intro recorded hinvariant a recorded' hrun
  change (program.run recorded.memory >>= fun result =>
    Except.ok (result.1, { recorded with memory := result.2 })) = .ok (a, recorded') at hrun
  cases hfirst : program.run recorded.memory with
  | error error =>
    rw [hfirst] at hrun
    cases hrun
  | ok first =>
    rw [hfirst] at hrun
    cases hrun
    exact ⟨trivial, hinvariant⟩

/-! ### Properties that steps keep -/

variable {S C K : Type} [DecidableEq S]

section Leading

variable [StateValue S] [Context C] {σ ε : Type} (definition : Definition S C) (config : Config K)
  (client : StepClient σ ε C K) (state : MachineState S C) (action : Action K)

/-- A step has one of the outcomes that its action can have. -/
theorem Definition.holds_step_leads :
  (reportJudgement fun _ => True).holds
    (Leads definition (fun _ _ _ => True) (fun _ _ => True) state action)
    (definition.step config client state action)
  := by
  apply StepHost.holds_step_any
  · intro token event context
    apply runs_onMemory
  · intro token context
    apply runs_onMemory
  · rintro report recorded _ a recorded' ⟨⟩
    exact ⟨trivial, trivial⟩

/-- A transition leads to the state of such an outcome. -/
theorem Definition.holds_transition_leads :
  (reportJudgement fun _ => True).holds
    (fun next => ∃ outcome,
      Leads definition (fun _ _ _ => True) (fun _ _ => True) state action outcome
        ∧ outcome.stateFrom state = next)
    (definition.transition config client state action)
  := by
  apply Judgement.holds_bind _ (definition.holds_step_leads config client state action)
  intro outcome hleads
  apply Judgement.holds_pure
  use outcome

end Leading

/-- Every step of a definition keeps a property of states, whatever guards decide and reducers
make. -/
def Definition.Keeps (definition : Definition S C) (K : Type) (good : MachineState S C → Prop) :
    Prop :=
  ∀ state (action : Action K) outcome next,
    Leads definition (fun _ _ _ => True) (fun _ _ => True) state action outcome →
      outcome.state? = some next → good state → good next

namespace Definition.Keeps

variable [StateValue S] [Context C] {definition : Definition S C}
  {good : MachineState S C → Prop} (h : definition.Keeps K good)

include h

/-- The state that a step leads to, if there is one, has the property. -/
theorem holds_step {m : Type → Type} [Monad m] {judgement : Judgement m} {host : StepHost m C K}
    (config : Config K) {state : MachineState S C} (hgood : good state) (action : Action K)
    (hguard : ∀ token event context, judgement.runs (host.guard token event context))
    (hreduce : ∀ token context, judgement.runs (host.reduce token context))
    (hreport : ∀ report, judgement.runs (host.report report)) :
  judgement.holds (fun outcome => ∀ next, outcome.state? = some next → good next)
    (host.step definition config state action)
  := by
  apply judgement.holds_mono (StepHost.holds_step_any action hguard hreduce hreport)
  intro outcome hleads next hnext
  apply h state action outcome next hleads hnext hgood

variable {σ ε : Type}

/-- A transition keeps the property. -/
theorem holds_transition (config : Config K) (client : StepClient σ ε C K)
    {state : MachineState S C} (hgood : good state) (action : Action K) :
  (reportJudgement fun _ => True).holds good (definition.transition config client state action)
  := by
  apply Judgement.holds_mono _ (definition.holds_transition_leads config client state action)
  rintro _ ⟨outcome, hleads, rfl⟩
  cases outcome with
  | unchanged => apply hgood
  | contextUpdated next => apply h state action _ next hleads rfl hgood
  | transitioned next => apply h state action _ next hleads rfl hgood

/-- So do transitions one after the other. -/
theorem transitions {config : Config K} {client : StepClient σ ε C K} {actions : List (Action K)}
    {start state : MachineState S C} {recorded recorded' : Recorded σ} (hstart : good start)
    (hrun : (actions.foldlM (definition.transition config client) start).run recorded
      = .ok (state, recorded')) :
  good state
  := by
  have hholds := Judgement.holds_foldlM
    (fun state action hgood => h.holds_transition config client hgood action) actions hstart
  apply (hholds recorded trivial state recorded' hrun).1

end Definition.Keeps

end GuardedMachine
