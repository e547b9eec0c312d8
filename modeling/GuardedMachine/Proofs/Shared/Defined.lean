import GuardedMachine.Proofs.Shared.States

/-!
# Defined states of shared machines

In every run of a shared machine, whatever its owner, its observers and its other callbacks ask of
it, the state is always defined and nothing is reported as undefined.
-/

namespace GuardedMachine.Shared

variable {S C K M ε α : Type} [DecidableEq S] [StateValue S] {machine : Machine S C K}
  {world : World S C K M} {history : History S C K M}

/-- The state is defined, and nothing was reported as undefined. -/
def Sane (machine : Machine S C K) (world : World S C K M) (history : History S C K M) : Prop :=
  machine.Sane world.state (History.reports history)

theorem sane_called {call : Call S C K} (hcall : call.Sane) (h : Sane machine world history) :
  Sane machine world (.called call world :: history)
  := by
  cases call with
  | report written =>
    have hreports : History.reports (.called (.report written) world :: history)
        = history.reports ++ [written] := by
      simp [History.reports, Moment.made?]
    constructor
    · apply h.defined
    · rw [hreports]
      apply h.reported.append hcall
  | _ => simpa [Sane, History.reports, Moment.made?] using h

theorem sane_answered {call : Call S C K} (answer : call.Answer)
    (h : Sane machine world history) :
  Sane machine world (.answered call answer world :: history)
  := by simpa [Sane, History.reports, Moment.made?] using h

/-- Whether a machine is sane depends on its state and on what was reported. -/
theorem ofState_sane :
  OfState Call.Sane (Sane machine : Invariant S C K M)
  where
  of_state world world' history heq h := by
    constructor
    · rw [heq]
      apply h.defined
    · apply h.reported
  allowed _ hcall := hcall

/-- Performing an action leads to a defined state. -/
theorem runs_perform_sane [Context C] (action : Action K) :
  ((Contract.keeping Call.Sane (Sane machine)).judgement (Sane machine)).runs
    (perform machine action : Engine S C K M ε Bool)
  := by
  apply ofState_sane.runs_perform
  intro world history hsane
  apply Judgement.holds_mono _ (machine.holds_step hsane.defined action _ _ _)
  · intro outcome hnext next houtcome world' history' hsane'
    exact ⟨hnext next houtcome, hsane'.reported⟩
  · intro token event context
    exact ofState_sane.runs_ask trivial
  · intro token context
    exact ofState_sane.runs_ask trivial
  · intro report hreport
    exact ofState_sane.runs_ask hreport

/-- In every run the state is always defined and nothing is reported as undefined. -/
theorem run_sane [Context C] (machine : Machine S C K) (client : Client S C K M ε)
    (code : Code S C K M ε α) (memory : M) (depth : Nat) :
  (Shared.run machine client depth code (World.initial machine.initialState memory)).Reaches
    (Sane machine) fun _ => Sane machine
  := by
  apply Contract.reaches_run_keeping
  · intro call world history hcall hsane
    apply sane_called hcall hsane
  · intro call answer world history _ hsane
    apply sane_answered answer hsane
  · intro call _
    apply ofState_sane.runs_body client runs_perform_sane
  · apply ofState_sane.runs_ofCode
  · exact ⟨machine.initial_mem, noneUndefined_nil⟩

end GuardedMachine.Shared
