import GuardedMachine.Proofs.Synced.Cleanups
import GuardedMachine.Proofs.Synced.Order
import GuardedMachine.Proofs.Synced.Stopping

/-!
# Stopped machines

A synchronous machine that is stopped while it is quiet begins no effect ever after, and whenever no
call is open every cleanup that an effect ever returned has been run once (`stopped_for_good`).

A machine that is stopped by one of its effects is not quiet: the cleanup that the effect returns is
stored after the stored ones have been run, and nothing runs it any more (`stopped_by_effect`).
-/

namespace GuardedMachine.Synced

variable {S C K M ε α : Type} {world world' : World S C K M} {history history' : History S C K M}

/-! ### Bodies -/

/-- A call other than that to stop is carried out when its body keeps a stopped machine hushed. -/
theorem carriesOut_of_muted {call : Call S C K} (hcall : call ≠ .request .stop)
    (hmay : MayCall call world history) {body : Engine S C K M ε call.Answer}
    (hbody : stopContract.Ensures body
      (fun _ world' history' =>
        Muted world (.called call world :: history) world' history'
          ∧ (call.Closed → History.Stopped history' → history.Stopped))
      world (.called call world :: history)) :
  stopContract.CarriesOut Final call body (stopContract.post call world history) world history
  := by
  constructor
  · constructor
    · rintro token params begun earlier heq
      obtain ⟨heq, rfl⟩ := List.cons.inj heq
      cases heq
      apply hmay
    · rintro ⟨⟩
  · apply hbody.mono
    rintro answer world' history' - ⟨hmuted, hclosed⟩ _
    have hanswered := hmuted.answered hcall answer
    refine ⟨⟨?_, ?_⟩, hanswered, ?_⟩
    · rintro token params begun earlier ⟨⟩
    · intro _ hstopped
      apply (hanswered.hushed hstopped).exit_eq
    · intro hcall hstopped
      rw [stopped_answered] at hstopped
      apply hclosed hcall hstopped

/-- So is one whose body is a part of it. -/
theorem carriesOut_of_hush {call : Call S C K} (hcall : call ≠ .request .stop)
    (hopen : ¬call.Closed) (hhushed : history.Stopped → Hushed world)
    (hmay : MayCall call world history) {body : Engine S C K M ε call.Answer}
    (hbody : (stopContract.judgement (Hush world (.called call world :: history))).runs body) :
  stopContract.CarriesOut Final call body (stopContract.post call world history) world history
  := by
  apply carriesOut_of_muted hcall hmay
  have hstart : Hush world (.called call world :: history) world
      (.called call world :: history) := by
    apply hush_refl
    rwa [stopped_called hcall]
  apply (hbody _ _ hstart).mono
  rintro answer world' history' - ⟨-, hhush⟩
  exact ⟨hhush.muted, fun hclosed => (hopen hclosed).elim⟩

/-- And so is one that finds the machine not stopped, and leaves it so. -/
theorem carriesOut_of_unstopped {call : Call S C K} (hcall : call ≠ .request .stop)
    (hstopped : ¬history.Stopped) (hmay : MayCall call world history)
    {body : Engine S C K M ε call.Answer}
    (hbody : (stopContract.judgement (Unstopped world (.called call world :: history))).runs
      body) :
  stopContract.CarriesOut Final call body (stopContract.post call world history) world history
  := by
  apply carriesOut_of_muted hcall hmay
  have hcalled : ¬History.Stopped (.called call world :: history) := by
    rwa [stopped_called hcall]
  have hstart : Unstopped world (.called call world :: history) world
      (.called call world :: history) :=
    ⟨hush_refl fun h => (hcalled h).elim, hcalled⟩
  apply (hbody _ _ hstart).mono
  rintro answer world' history' - ⟨-, hunstopped⟩
  exact ⟨hunstopped.muted, fun _ h => (hunstopped.not_stopped h).elim⟩

/-- A quiet machine is hushed when it is stopped, and stays so. -/
theorem carriesOut_stop (hhushed : history.Stopped → Hushed world) :
  stopContract.CarriesOut Final (.request .stop) (stop : Engine S C K M ε Unit)
    (stopContract.post (.request .stop) world history) world history
  := by
  have hcalled : History.Stopped (.called (.request .stop) world :: history) →
      Hushed { world with mounted := false, exit := none } := by
    rintro (hquiet | hstopped)
    · have hquiet : Quiet world history := hquiet
      exact ⟨rfl, hquiet.entered_eq, rfl, hquiet.queue_eq⟩
    · have hhushed := hhushed hstopped
      exact ⟨rfl, hhushed.entered_eq, rfl, hhushed.queue_eq⟩
  constructor
  · constructor
    · rintro token params begun earlier ⟨⟩
    · rintro ⟨⟩
  · simp only [stop, Contract.ensures_bind, Contract.ensures_update]
    have hexit : stopContract.Ensures (runExit : Engine S C K M ε Unit)
        (fun _ world' history' =>
          Hush { world with mounted := false, exit := none }
            (.called (.request .stop) world :: history) world' history')
        { world with mounted := false } (.called (.request .stop) world :: history) :=
      ensures_runExit_hush hcalled
    apply hexit.mono
    rintro _ world' history' - ⟨-, hmuted⟩ -
    have hafter : History.Stopped (.answered (.request .stop) () { world' with queue := [] }
        :: history') → Hushed { world' with queue := [] } := by
      intro hstopped
      rw [stopped_answered] at hstopped
      have hhushed := hmuted.hushed hstopped
      exact ⟨hhushed.mounted_eq, hhushed.entered_eq, hhushed.exit_eq, Or.inl rfl⟩
    -- A stop while the machine is busy does not count: then it is not quiet.
    refine ⟨⟨?_, ?_⟩, ⟨hmuted.acting_eq, ?_, hafter, fun _ _ => rfl⟩, fun hclosed => hclosed.elim⟩
    · rintro token params begun earlier ⟨⟩
    · intro _ hstopped
      apply (hafter hstopped).exit_eq
    · intro hbusy hstopped
      rw [stopped_answered] at hstopped
      rcases hmuted.busy (busy_called _ _ hbusy) hstopped with hquiet | hstopped
      · have hquiet : Quiet world history := hquiet
        cases hbusy.symm.trans hquiet.busy_eq
      · apply hstopped

variable [DecidableEq S]

/-- Effects are run only while the machine has not been stopped: afterwards those of its state were
the last to run. -/
theorem runs_flush_hush :
  (stopContract.judgement (Hush world history)).runs (flush : Engine S C K M ε Unit)
  := by
  intro world' history' hhush
  simp only [flush, Contract.ensures_bind, Contract.ensures_world]
  split
  · exact ⟨trivial, hhush⟩
  · next hentered =>
    have hstopped : ¬History.Stopped history' := by
      intro hstopped
      apply hentered (hhush.muted.hushed hstopped).entered_eq
    simp only [Contract.ensures_bind, Contract.ensures_update]
    have hhush : Hush world history { world' with entered := some world'.key } history' :=
      ⟨hhush.continues, hhush.muted.of_not_stopped hstopped rfl⟩
    apply ensures_ask_hush hhush
    apply hstopped

/-- An orderly request other than that to stop is a part of a call. -/
theorem runs_serveRequest_hush {request : Request K} (horderly : request.Orderly)
    (hstop : request ≠ .stop) (h : history.Stopped → Hushed world) :
  (stopContract.judgement (Hush world history)).runs
    (serveRequest request : Engine S C K M ε (request.Answer S C))
  := by
  have hordinary : request.Ordinary := by
    cases request with
    | stop => cases hstop rfl
    | drain | flush => cases horderly
    | _ => trivial
  apply runs_serveRequest_of hordinary runs_dispatch_hush _ (fun report _ => runs_report_hush report) _
    (fun program => runs_act_hush h) runs_flush_hush runs_dispatch_hush
  · intro token
    apply runs_ask_hush
    intro _ _ _
    trivial
  · rintro action rfl
    cases horderly
  · rintro mounted rfl
    cases horderly

/-- A machine that has not been stopped settles. -/
theorem runs_settle_unstopped :
  (stopContract.judgement (Unstopped world history)).runs (settle : Engine S C K M ε Unit)
  := by
  apply runs_settle
  · exact runs_ask_unstopped (Or.inr trivial) fun _ _ h => h.not_stopped
  · apply runs_flush
    · intro world' history' entered hunstopped
      exact hunstopped.of_acting rfl
    · intro state
      exact runs_ask_unstopped (Or.inr trivial) fun _ _ h => h.not_stopped
  · exact runs_ask_unstopped (Or.inr trivial) fun _ _ h hstopped => (h.not_stopped hstopped).elim

/-- A machine that has been stopped settles at once, for nothing is queued. -/
theorem carriesOut_settle (hhushed : history.Stopped → Hushed world)
    (hmay : MayCall .settle world history) :
  stopContract.CarriesOut Final .settle (settle : Engine S C K M ε Unit)
    (stopContract.post .settle world history) world history
  := by
  by_cases hstopped : History.Stopped history
  · have hqueue : world.queue = [] := hmay hstopped
    apply carriesOut_of_muted (by rintro ⟨⟩) hmay
    have hcalled : History.Stopped (.called .settle world :: history) → Hushed world := by
      intro _
      apply hhushed hstopped
    simp only [settle, Contract.ensures_bind, Contract.ensures_world, hqueue,
      List.isEmpty_nil, if_true, Contract.ensures_pure]
    exact ⟨Muted.refl hcalled, fun _ _ => hstopped⟩
  · apply carriesOut_of_unstopped (by rintro ⟨⟩) hstopped hmay
    apply runs_settle_unstopped

variable [StateValue S] [Context C] {machine : Machine S C K} {client : Client S C K M ε}

/-- An action is applied while the machine is busy. -/
theorem runs_apply_unstopped (hbusy : history.busy = true) (action : Action K) :
  (stopContract.judgement (Unstopped world history)).runs
    (apply machine action : Engine S C K M ε Unit)
  := by
  apply Judgement.runs_bind Contract.runs_world
  intro current
  apply Judgement.runs_bind
  · apply StepHost.runs_step
    · intro token event context
      exact runs_ask_unstopped (Or.inl hbusy) fun _ _ h => h.not_stopped
    · intro token context
      exact runs_ask_unstopped (Or.inl hbusy) fun _ _ h => h.not_stopped
    · intro report
      exact runs_ask_unstopped (Or.inl hbusy) fun _ _ _ => trivial
  · intro outcome
    split
    · apply Judgement.runs_pure
    · exact runs_update_unstopped fun _ => rfl
    · exact runs_update_unstopped fun _ => rfl

/-- The effects of a state begin while the machine is busy. -/
theorem runs_enter_unstopped (hbusy : history.busy = true) (state : MachineState S C) :
  (stopContract.judgement (Unstopped world history)).runs
    (effectHost.enter machine.definition machine.config state true :
      Engine S C K M ε (Option (EffectCleanup K)))
  := by
  have hlocks : ∀ world' history' locks, Unstopped world history world' history' →
      Unstopped world history { world' with locks } history' := by
    intro world' history' locks hunstopped
    exact hunstopped.of_acting rfl
  apply EffectHost.runs_enter
  · apply runs_newLock hlocks
  · apply runs_setLocked hlocks
  · intro token params
    exact runs_ask_unstopped (Or.inl hbusy) fun _ _ h => h.not_stopped
  · intro _ _ _ _ _ _
    exact runs_ask_unstopped (Or.inl hbusy) fun _ _ _ => trivial

/-- A call that takes the machine further. -/
def Call.Advances : Call S C K → Prop
  | .drain => True
  | .push _ => True
  | .apply _ => True
  | .renew _ => True
  | .enter _ => True
  | _ => False

/-- A machine that is not stopped stays so while such a call is carried out. -/
theorem runs_body_unstopped {call : Call S C K} (hadvances : call.Advances)
    (hmay : MayCall call world history) :
  (stopContract.judgement (Unstopped world (.called call world :: history))).runs
    (body machine client call)
  := by
  cases call with
  | drain => apply runs_drain_unstopped
  | push action => exact runs_update_unstopped fun _ => rfl
  | apply action => apply runs_apply_unstopped rfl
  | renew state => apply runs_renew_unstopped rfl
  | enter state => apply runs_enter_unstopped (busy_called _ _ hmay.1)
  | _ => cases hadvances

theorem carriesOut_advances {call : Call S C K} (hadvances : call.Advances)
    (hmay : MayCall call world history) :
  stopContract.CarriesOut Final call (body machine client call)
    (stopContract.post call world history) world history
  := by
  have hbody : (stopContract.judgement (Unstopped world (.called call world :: history))).runs
      (body machine client call) := runs_body_unstopped hadvances hmay
  cases call with
  | drain | push | apply | renew =>
    apply carriesOut_of_unstopped (by rintro ⟨⟩) hmay hmay hbody
  | enter => apply carriesOut_of_unstopped (by rintro ⟨⟩) hmay.2 hmay hbody
  | _ => cases hadvances

section Orderly

variable (hclient : client.Asks Request.Orderly)

include hclient

/-- The body of a call that runs cleanups, a program of the client or nothing is a part of it. -/
theorem runs_body_hush {call : Call S C K} (hnot : ¬call.Advances) (hsettle : call ≠ .settle)
    (hrequest : ∀ asked, call ≠ .request asked) :
  (stopContract.judgement (Hush world history)).runs (body machine client call)
  := by
  cases call with
  | request asked => cases hrequest asked rfl
  | settle => cases hsettle rfl
  | drain | push | apply | renew | enter => cases hnot trivial
  | leave cleanup event context => apply runs_leave_hush
  | guard token event context => apply runs_ofCode_hush (hclient.guard token event context)
  | reduce token context => apply runs_ofCode_hush (hclient.reduce token context)
  | effect token params => apply runs_ofCode_hush (hclient.effect token params)
  | cleanup token params => apply runs_ofCode_hush (hclient.cleanup token params)
  | callback token => apply runs_ofCode_hush (hclient.callback token)
  | report report => apply Judgement.runs_pure

/-- Every body keeps a machine that has been stopped hushed. -/
theorem fulfils_stopContract :
  stopContract.Fulfils Final (body machine client)
  := by
  rintro call world history ⟨hhushed, hmay⟩
  cases call with
  | request request =>
    by_cases hstop : request = .stop
    · subst hstop
      apply carriesOut_stop hhushed
    · have hcall : (.request request : Call S C K) ≠ .request .stop := by
        rintro ⟨⟩
        cases hstop rfl
      apply carriesOut_of_hush hcall id hhushed hmay
      apply runs_serveRequest_hush hmay hstop
      rwa [stopped_called hcall]
  | settle => apply carriesOut_settle hhushed hmay
  | drain | push | apply | renew | enter => exact carriesOut_advances (by trivial) hmay
  | _ =>
    apply carriesOut_of_hush (by rintro ⟨⟩) id hhushed hmay
    apply runs_body_hush hclient id
    · rintro ⟨⟩
    · rintro asked ⟨⟩

end Orderly

/-! ### Stopped machines -/

theorem Request.Orderly.inTurn {request : Request K} (h : request.Orderly) :
  request.InTurn
  := by
  cases request with
  | drain | flush => cases h
  | _ => trivial

/-- What holds of a machine for good once it has been stopped while it was quiet. -/
structure StaysStopped (world : World S C K M) (history : History S C K M) : Prop where
  /-- No effect begins. -/
  begins : ∀ token params begun earlier, history = .called (.effect token params) begun :: earlier →
    ¬History.Stopped earlier
  /-- Every cleanup that an effect returned has been run once. -/
  complete : Moment.openCalls history = [] → History.Stopped history →
    (History.returned history).Perm (History.ran history)

omit [DecidableEq S] [StateValue S] [Context C] in
/-- Cleanups that are neither stored nor owed have been run. -/
theorem Final.stays (h : Final world history) (hkept : KeepsCleanups world history) :
  StaysStopped world history
  where
  begins := h.begins
  complete hopen hstopped := by
    have hperm := hkept hopen
    rw [h.exit_eq hopen hstopped, stored, List.append_nil] at hperm
    apply hperm

/-- In every run in which nobody drains, flushes or mounts the machine out of turn, once it has been
stopped while it was quiet no effect begins, and whenever no call is open every cleanup that an
effect ever returned has been run once. -/
theorem stopped_for_good [DecidableEq K] (machine : Machine S C K) (client : Client S C K M ε)
    (hclient : client.Asks Request.Orderly) (code : Code S C K M ε α)
    (hcode : code.Asks Request.Orderly) (memory : M) (depth : Nat) :
  (Synced.run machine client depth code (World.initial machine.initialState memory)).Reaches
    StaysStopped fun _ => StaysStopped
  := by
  have hkept := cleanups_kept machine (hclient.mono fun _ h => h.inTurn)
    (hcode.mono fun _ h => h.inTurn) memory depth
  have hstart : Hush (World.initial machine.initialState memory : World S C K M) []
      (World.initial machine.initialState memory) [] := hush_refl False.elim
  have hbody : stopContract.Fulfils Final (body machine client) := fulfils_stopContract hclient
  have hfinal := Contract.reaches_run hbody (runs_ofCode_hush hcode) hstart depth
  apply (hkept.and hfinal).mono
  · rintro world history ⟨hkept, hfinal⟩
    apply hfinal.stays hkept
  · rintro result world history ⟨hkept, -, hopen, hhush⟩
    have hfinal : Final world history := by
      constructor
      · rintro token params begun earlier rfl
        cases hopen
      · intro _ hstopped
        apply (hhush.muted.hushed hstopped).exit_eq
    apply hfinal.stays hkept

/-- A lamp whose light is held while it is on. -/
def lamp : Machine String Int64 String where
  definition := Definition.build "on" 0
    [.state "on" [.on "PRESS" (.to "off"), .effects ["hold"]],
      .state "off" [.on "PRESS" (.to "on")]]
  config :=
    { (Config.default : Config String) with effects := Table.ofList [("hold", "hold")] }
  resolved := by decide +kernel

/-- Its cleanup presses the button, and its effect does something before it returns. -/
def lampClient (holding : Code String Int64 String Unit Empty Unit) :
    Client String Int64 String Unit Empty where
  guard _ _ _ := return true
  reduce _ context := return context
  effect _ _ := do
    holding
    return some "release"
  cleanup _ _ := Code.ask (.send (Event.ofKind "PRESS"))
  callback _ := return ()

/-- A run of the lamp. -/
def lampRun (holding owner : Code String Int64 String Unit Empty Unit) :
    Run (Call String Int64 String) Call.Answer (World String Int64 String Unit) Empty Unit :=
  Synced.run lamp (lampClient holding) 16 owner (World.initial lamp.initialState ())

/-- The owner presses the button, stops the lamp and presses again. -/
def lampOwner : Code String Int64 String Unit Empty Unit := do
  Code.ask .start
  Code.ask (.send (Event.ofKind "PRESS"))
  Code.ask .stop
  Code.ask .start
  Code.ask (.send (Event.ofKind "PRESS"))

theorem lampClient_asks :
  (lampClient (return ())).Asks Request.Orderly
  where
  guard _ _ _ := trivial
  reduce _ _ := trivial
  effect _ _ := trivial
  cleanup _ _ := ⟨trivial, fun _ => trivial⟩
  callback _ := trivial

theorem lampOwner_asks :
  lampOwner.Asks Request.Orderly
  := by simp [lampOwner, Code.ask, Program.ask, bind, Program.bind, Program.Asks, Request.Orderly]

/-- The lamp is held twice and released twice, the second time because it is stopped. -/
theorem lamp_stopped_for_good :
  ((lampClient (return ())).Asks Request.Orderly ∧ lampOwner.Asks Request.Orderly)
    ∧ ((lampRun (return ()) lampOwner).ending = .returned ()
      ∧ History.Stopped (lampRun (return ()) lampOwner).history
      ∧ History.returned (lampRun (return ()) lampOwner).history = ["release", "release"])
    ∧ (lampRun (return ()) lampOwner).Reaches StaysStopped fun _ => StaysStopped
  := by
  use ⟨lampClient_asks, lampOwner_asks⟩
  refine ⟨⟨rfl, ?_, by decide +kernel⟩, ?_⟩
  · decide +kernel
  · apply stopped_for_good lamp (lampClient (return ())) lampClient_asks lampOwner lampOwner_asks

/-- The lamp is stopped while it is being held: the light is never released. -/
theorem stopped_by_effect :
  (lampRun (Code.ask .stop) (Code.ask .start)).ending = .returned ()
    ∧ (lampRun (Code.ask .stop) (Code.ask .start)).world.mounted = false
    ∧ Moment.openCalls (lampRun (Code.ask .stop) (Code.ask .start)).history = []
    ∧ History.returned (lampRun (Code.ask .stop) (Code.ask .start)).history = ["release"]
    ∧ History.ran (lampRun (Code.ask .stop) (Code.ask .start)).history = []
  := ⟨rfl, by decide +kernel, rfl, by decide +kernel, by decide +kernel⟩

end GuardedMachine.Synced
