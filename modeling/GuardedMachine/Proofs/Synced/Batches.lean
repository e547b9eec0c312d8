import GuardedMachine.Proofs.Synced.Batching

/-!
# Outermost calls settle once

When callbacks are quiet, an outermost call that finds nothing due runs effects at most once, those
of the state in which it leaves the machine, and cleanups only if they were stored before
(`throughout_settles_once`).
-/

namespace GuardedMachine.Synced

variable {S C K M ε α : Type} {quiet : K → Prop} {world world' world'' : World S C K M}
  {history history' history'' : History S C K M}

/-- What is known of calls, besides what is promised of them when callbacks are quiet. -/
abbrev quietContract (quiet : K → Prop) : Contract (Call S C K) Call.Answer (World S C K M) :=
  renewContract.nested.given (quietPromise quiet)

/-! ### Quiet parts of an outermost call -/

/-- A part of an outermost call in which only quiet callbacks were called. -/
structure Calm (world : World S C K M) (history : History S C K M) (world' : World S C K M)
    (history' : History S C K M) : Prop where
  acting_eq : world'.acting = true
  quietly : Quietly world history.tally world' history'.tally

theorem calm_refl (hacting : world.acting = true) :
  Calm world history world history
  := ⟨hacting, Quietly.refl world history.tally⟩

theorem Calm.of_world_eq (h : Calm world history world' history')
    (hremembered : world''.entered = world'.entered) (hexit : world''.exit = world'.exit)
    (hqueue : world'.queue = [] → world''.queue = []) (hacting : world''.acting = world'.acting) :
  Calm world history world'' history'
  := ⟨hacting.trans h.acting_eq, h.quietly.of_world_eq hremembered hexit hqueue⟩

/-- A call that is quiet in every world may be made. -/
theorem runs_ask_calm {call : Call S C K}
    (hquiet : ∀ world history world' history', Quieted quiet world history world' history' call →
      Quietly (M := M) world (History.tally history) world' (History.tally history')) :
  ((quietContract quiet).judgement (Calm world history)).runs
    (ask call : Engine S C K M ε call.Answer)
  := by
  intro world' history' hcalm
  use trivial
  rintro answer world'' history'' - ⟨⟨⟨-, hacting, -⟩, -⟩, hpromise⟩
  have hquieted := hquiet _ _ _ _ (hpromise.1 hcalm.acting_eq)
  exact ⟨trivial, hacting.trans hcalm.acting_eq, hcalm.quietly.trans hquieted⟩

/-- Guards, reducers, effects, cleanups and reports are quiet. -/
theorem runs_idle_calm {call : Call S C K} (hidle : call.Idle)
    (hquieted : ∀ (world : World S C K M) history world' history',
      Quieted quiet world history world' history' call →
        Quietly world (History.tally (.called call world :: history)) world'
          (History.tally history')) :
  ((quietContract quiet).judgement (Calm world history)).runs
    (ask call : Engine S C K M ε call.Answer)
  := by
  apply runs_ask_calm
  intro world history world' history' hcall
  have hcalled : History.tally (.called call world :: history) = History.tally history :=
    tally_called hidle
  rw [← hcalled]
  apply hquieted _ _ _ _ hcall

/-- The programs of quiet callbacks are quiet. -/
theorem runs_ofCode_calm {code : Code S C K M ε α} (hasks : code.Asks (Request.Quiet quiet)) :
  ((quietContract quiet).judgement (Calm world history)).runs (ofCode code)
  := by
  apply runs_ofCode _ _ hasks
  · intro world' history' memory hcalm
    exact hcalm.of_world_eq rfl rfl id rfl
  · intro request hquiet
    apply runs_ask_calm
    intro world history world' history' hquieted
    apply hquieted.1 hquiet

/-- The cleanups that are stored are run. -/
theorem runs_runExit_calm :
  ((quietContract quiet).judgement (Calm world history)).runs (runExit : Engine S C K M ε Unit)
  := by
  intro world' history' hcalm
  simp only [runExit, Contract.ensures_bind, Contract.ensures_world]
  cases hexit : world'.exit with
  | none => exact ⟨trivial, hcalm⟩
  | some cleanup =>
    simp only [Contract.ensures_bind, Contract.ensures_update]
    use trivial
    rintro _ world'' history'' - ⟨⟨⟨-, hacting, -⟩, -⟩, hpromise⟩
    have hleft := hpromise.1 hcalm.acting_eq
    refine ⟨trivial, hacting.trans hcalm.acting_eq, hcalm.quietly.trans ⟨⟨?_, ?_, ?_⟩, ?_⟩⟩
    · exact hleft.undisturbed.remembered_eq
    · rw [hleft.undisturbed.left_eq, hexit]
      simp [History.tally, Moment.collect, leftAt]
    · rw [hleft.undisturbed.entered_eq]
      simp [History.tally, Moment.collect, enteredAt]
    · exact hleft.queue_eq

/-! ### Parts of an outermost call that found nothing due -/

/-- A part of an outermost call in which effects were not due, and are not yet: actions may be
queued meanwhile, but none is applied. -/
structure Composed (world : World S C K M) (history : History S C K M) (world' : World S C K M)
    (history' : History S C K M) : Prop where
  acting_eq : world'.acting = true
  entered_eq : world'.entered = some world'.key
  epoch_eq : world'.epoch = history'.accepted
  undisturbed : Undisturbed world history.tally world' history'.tally

theorem composed_refl (hacting : world.acting = true) (hentered : world.entered = some world.key)
    (hepoch : world.epoch = history.accepted) :
  Composed world history world history
  := ⟨hacting, hentered, hepoch, Undisturbed.refl world history.tally⟩

theorem Composed.of_world_eq (h : Composed world history world' history')
    (hstate : world''.state = world'.state) (hepoch : world''.epoch = world'.epoch)
    (hremembered : world''.entered = world'.entered) (hexit : world''.exit = world'.exit)
    (hacting : world''.acting = world'.acting) :
  Composed world history world'' history'
  where
  acting_eq := hacting.trans h.acting_eq
  entered_eq := by
    rw [hremembered, h.entered_eq, World.key, World.key, hstate, hepoch]
  epoch_eq := hepoch.trans h.epoch_eq
  undisturbed := h.undisturbed.of_world_eq hremembered hexit

/-- A call that disturbs nothing as long as effects are not due may be made. -/
theorem runs_ask_composed {call : Call S C K} (hsparing : call.Sparing)
    (hundisturbed : ∀ world history world' history',
      Quieted quiet world history world' history' call → world.entered = some world.key →
        Undisturbed (M := M) world (History.tally history) world' (History.tally history')) :
  ((quietContract quiet).judgement (Composed world history)).runs
    (ask call : Engine S C K M ε call.Answer)
  := by
  intro world' history' hcomposed
  use trivial
  rintro answer world'' history'' - ⟨⟨⟨hfresh, hacting, -, hspared⟩, -⟩, hpromise⟩
  have hspared := hspared hcomposed.acting_eq hsparing
  have hquieted := hundisturbed _ _ _ _ (hpromise.1 hcomposed.acting_eq) hcomposed.entered_eq
  have hepoch : world''.epoch = world'.epoch := by
    rw [hfresh.epoch_eq, hspared.accepted_eq, hcomposed.epoch_eq]
  refine ⟨trivial, hacting.trans hcomposed.acting_eq, ?_, hfresh.epoch_eq,
    hcomposed.undisturbed.trans hquieted⟩
  rw [hquieted.remembered_eq, hcomposed.entered_eq, World.key, World.key, hspared.state_eq, hepoch]

theorem queues_composed :
  Queues (quietContract quiet : Contract (Call S C K) Call.Answer (World S C K M))
    (Composed world history) ε
  where
  mounted _ _ _ h := h.of_world_eq rfl rfl rfl rfl rfl
  push action := by
    apply runs_ask_composed
    · trivial
    · intro world history world' history' hquieted _
      exact hquieted
  report report _ := by
    apply runs_ask_composed
    · trivial
    · intro world history world' history' hquieted _
      have hcalled : History.tally (.called (.report report) world :: history)
          = History.tally history := tally_called trivial
      rw [← hcalled]
      exact hquieted.undisturbed

/-! ### Requests -/

/-- A quiet request is a quiet part of an outermost call. -/
theorem runs_request_calm [DecidableEq S] {request : Request K} (hquiet : request.Quiet quiet) :
  ((quietContract quiet).judgement (Calm world history)).runs
    (serveRequest request : Engine S C K M ε (request.Answer S C))
  := by
  cases request with
  | start | send | setContext | dispatch | enqueue | drain | flush | handleSend
  | handleSetContext => cases hquiet
  | act token =>
    apply runs_act_of_acting
    · intro world' history' hcalm
      exact hcalm.acting_eq
    · apply runs_ask_calm
      intro world history world' history' hquieted
      exact hquieted.1 hquiet
  | stop =>
    apply Judgement.runs_bind
    · apply Contract.runs_update
      intro world' history' hcalm
      exact hcalm.of_world_eq rfl rfl id rfl
    · intro _
      apply Judgement.runs_bind runs_runExit_calm
      intro _
      apply Contract.runs_update
      intro world' history' hcalm
      exact hcalm.of_world_eq rfl rfl (fun _ => rfl) rfl
  | setMounted mounted =>
    apply Contract.runs_update
    intro world' history' hcalm
    exact hcalm.of_world_eq rfl rfl id rfl
  | isMounted | pending | state | isLocked =>
    apply Judgement.runs_bind Contract.runs_world
    intro world
    apply Judgement.runs_pure

/-- A flush finds nothing due. -/
theorem runs_flush_composed [DecidableEq S] :
  ((quietContract quiet).judgement (Composed world history)).runs
    (flush : Engine S C K M ε Unit)
  := by
  intro world' history' hcomposed
  simp only [flush, Contract.ensures_bind, Contract.ensures_world, hcomposed.entered_eq, if_true]
  exact ⟨trivial, hcomposed⟩

theorem runs_callback_composed (token : K) :
  ((quietContract quiet).judgement (Composed world history)).runs
    (ask (.callback token) : Engine S C K M ε Unit)
  := by
  apply runs_ask_composed
  · trivial
  · intro world history world' history' hquieted hentered
    apply hquieted.2 hentered

/-- A request that is not quiet queues actions, or finds nothing due. -/
theorem runs_request_composed [DecidableEq S] {request : Request K} (hinturn : request.InTurn)
    (hquiet : ¬request.Quiet quiet) :
  ((quietContract quiet).judgement (Composed world history)).runs
    (serveRequest request : Engine S C K M ε (request.Answer S C))
  := by
  have hqueues : Queues (quietContract quiet : Contract (Call S C K) Call.Answer (World S C K M))
      (Composed world history) ε := queues_composed
  have hact : ∀ program : Engine S C K M ε Unit,
      ((quietContract quiet).judgement (Composed world history)).runs program →
        ((quietContract quiet).judgement (Composed world history)).runs (act program) := by
    intro program
    apply runs_act_of_acting
    intro world' history' hcomposed
    exact hcomposed.acting_eq
  cases request with
  | start => apply hact _ runs_flush_composed
  | send event => apply hact _ (hqueues.dispatch _)
  | setContext reducer => apply hact _ (hqueues.dispatch _)
  | act token => apply hact _ (runs_callback_composed token)
  | drain | flush => cases hinturn
  | stop | setMounted | isMounted | pending | state | isLocked => cases hquiet trivial
  | _ =>
    exact runs_serveRequest_aside trivial rfl hqueues.dispatch (fun _ _ => hqueues.push _)
      hqueues.report fun mounted _ world' history' => hqueues.mounted world' history' mounted

/-- As a part of an outermost call a request is quiet, or disturbs nothing if nothing is due. -/
theorem ensures_request_quieted [DecidableEq S] {request : Request K} (hinturn : request.InTurn)
    (hacting : world.acting = true) (hepoch : world.epoch = history.accepted) :
  (quietContract quiet).Ensures (serveRequest request : Engine S C K M ε (request.Answer S C))
    (fun _ world' history' => Quieted quiet world history world' history' (.request request))
    world history
  := by
  by_cases hquiet : request.Quiet quiet
  · apply (runs_request_calm hquiet _ _ (calm_refl hacting)).mono
    rintro answer world' history' - ⟨-, hcalm⟩
    exact ⟨fun _ => hcalm.quietly, fun _ => hcalm.quietly.undisturbed⟩
  by_cases hentered : world.entered = some world.key
  · apply (runs_request_composed hinturn hquiet _ _ (composed_refl hacting hentered hepoch)).mono
    rintro answer world' history' - ⟨-, hcomposed⟩
    exact ⟨fun h => (hquiet h).elim, fun _ => hcomposed.undisturbed⟩
  · apply Contract.ensures_given
    intro answer world' history'
    exact ⟨fun h => (hquiet h).elim, fun h => (hentered h).elim⟩

/-! ### Settling -/

/-- An outermost call that finds nothing due settles. -/
theorem ensures_outermost {program : Engine S C K M ε Unit} (hacting : world.acting = false)
    (hentered : world.entered = some world.key) (hepoch : world.epoch = history.accepted)
    (hprogram : ∀ world (history : History S C K M),
      ((quietContract quiet).judgement (Composed world history)).runs program) :
  (quietContract quiet).Ensures (act program : Engine S C K M ε Unit)
    (fun _ world' history' => Settles world history.tally world' (History.tally history'))
    world history
  := by
  simp only [act, Contract.ensures_bind, Contract.ensures_world, hacting, Bool.false_eq_true,
    if_false, Contract.ensures_update]
  have hopened : Composed { world with acting := true } history { world with acting := true }
      history := composed_refl rfl hentered hepoch
  apply (hprogram _ _ _ _ hopened).mono
  rintro _ world' history' - ⟨-, hcomposed⟩
  use trivial
  rintro _ world'' history'' - ⟨-, hpromise⟩
  have hsettles := hcomposed.undisturbed.trans_settles (hpromise.1 hcomposed.acting_eq).1
  exact ⟨hsettles.left_eq, hsettles.entered_eq⟩

theorem ensures_request_settles [DecidableEq S] {request : Request K}
    (hsettles : request.settles = true) (hacting : world.acting = false)
    (hentered : world.entered = some world.key) (hepoch : world.epoch = history.accepted) :
  (quietContract quiet).Ensures (serveRequest request : Engine S C K M ε (request.Answer S C))
    (fun _ world' history' => Settles world history.tally world' (History.tally history'))
    world history
  := by
  cases request with
  | start => apply ensures_outermost hacting hentered hepoch fun _ _ => runs_flush_composed
  | send event =>
    apply ensures_outermost hacting hentered hepoch fun _ _ => queues_composed.dispatch _
  | setContext reducer =>
    apply ensures_outermost hacting hentered hepoch fun _ _ => queues_composed.dispatch _
  | act token => apply ensures_outermost hacting hentered hepoch fun _ _ => runs_callback_composed token
  | _ => cases hsettles

/-- When the queue is drained nothing is disturbed, and nothing is queued afterwards. -/
theorem ensures_drain_quieted (hacting : world.acting = true) :
  (quietContract quiet).Ensures (drain : Engine S C K M ε Nat)
    (fun _ world' history' =>
      Undisturbed world history.tally world' (History.tally history') ∧ world'.queue = [])
    world history
  := by
  simp only [drain, Contract.ensures_bind, Contract.ensures_world]
  cases hqueue : world.queue with
  | nil => exact ⟨Undisturbed.refl world history.tally, hqueue⟩
  | cons action queue =>
    simp only [Contract.ensures_bind, Contract.ensures_update]
    use trivial
    rintro _ world' history' - ⟨⟨⟨-, hacting', -⟩, -⟩, hpromise⟩
    have happlied := hpromise.1 hacting
    use trivial
    rintro applied world'' history'' - ⟨-, hpromise'⟩
    obtain ⟨hdrained, hempty⟩ := hpromise'.1 (hacting'.trans hacting)
    refine ⟨Undisturbed.trans ?_ hdrained, hempty⟩
    have hcalled : History.tally (.called (.apply action) { world with queue } :: history)
        = History.tally history := tally_called trivial
    have hundisturbed := happlied.undisturbed
    rw [hcalled] at hundisturbed
    exact ⟨hundisturbed.remembered_eq, hundisturbed.left_eq, hundisturbed.entered_eq⟩

/-- The machine settles: it drains the queue, and if effects are run nothing is queued any more. -/
theorem ensures_settle_quieted [DecidableEq S] (hacting : world.acting = true) :
  (quietContract quiet).Ensures (settle : Engine S C K M ε Unit)
    (fun _ world' history' => Quieted quiet world history world' history' .settle) world history
  := by
  simp only [settle, Contract.ensures_bind, Contract.ensures_world]
  split
  · exact ⟨(Undisturbed.refl world history.tally).settles, fun _ => ⟨rfl, rfl⟩⟩
  · next hnonempty =>
    have hqueue : world.queue ≠ [] := fun hempty => hnonempty (List.isEmpty_iff.mpr hempty)
    simp only [Contract.ensures_bind]
    use trivial
    rintro applied world₁ history₁ - ⟨⟨⟨-, hacting₁, -⟩, -⟩, hpromise⟩
    obtain ⟨hdrained, hempty⟩ := hpromise.1 hacting
    have hacting₁ := hacting₁.trans hacting
    simp only [Contract.Ensures, flush, Contract.ensures_bind, Contract.ensures_world]
    split
    · use trivial
      rintro _ world₂ history₂ - ⟨-, hpromise⟩
      obtain ⟨hsettled, -⟩ := hpromise.1 hacting₁
      exact ⟨hdrained.trans_settles hsettled, fun h => (hqueue h).elim⟩
    · simp only [Contract.ensures_bind, Contract.ensures_update]
      use trivial
      rintro _ world₂ history₂ - ⟨⟨⟨-, hacting₂, -, hspared⟩, -⟩, hpromise⟩
      have honce := hpromise.1 hacting₁
      have hstate := (hspared hacting₁ trivial).state_eq
      use trivial
      rintro _ world₃ history₃ - ⟨-, hpromise⟩
      obtain ⟨rfl, htally⟩ := (hpromise.1 (hacting₂.trans hacting₁)).2 (honce.queue_eq hempty)
      refine ⟨?_, fun h => (hqueue h).elim⟩
      rw [htally]
      have hsettled := honce.settles hstate
      exact hdrained.trans_settles ⟨hsettled.left_eq, hsettled.entered_eq⟩

/-- When effects are run anew the cleanups that are stored are run, and then the effects of the
state. -/
theorem ensures_renew_quieted {state : MachineState S C} (hacting : world.acting = true) :
  (quietContract quiet).Ensures (renew state : Engine S C K M ε Unit)
    (fun _ world' history' =>
      RunsOnce state world history.tally world' (History.tally history'))
    world history
  := by
  simp only [renew, Contract.ensures_bind]
  apply (runs_runExit_calm _ _ (calm_refl hacting)).mono
  rintro _ world₁ history₁ - ⟨-, hcalm⟩
  use trivial
  rintro exit world₂ history₂ - ⟨-, hpromise⟩
  have hentered := hpromise.1 hcalm.acting_eq
  refine ⟨⟨world₂.exit.toList, ?_⟩, ?_, fun hempty => ?_⟩
  · rw [hentered.undisturbed.left_eq, ← hcalm.quietly.undisturbed.left_eq]
    simp [History.tally, Moment.collect, leftAt]
  · rw [hentered.undisturbed.entered_eq, ← hcalm.quietly.undisturbed.entered_eq]
    simp [History.tally, Moment.collect, enteredAt]
  · exact hentered.queue_eq (hcalm.quietly.queue_eq hempty)

/-! ### What is to be shown -/

/-- An outermost call that found nothing due ran effects at most once, and if so those of the state
to which it led, and cleanups only if they were stored before. -/
def SettlesOnce (world : World S C K M) (history : History S C K M) : Prop :=
  ∀ asked answer later, history = .answered (.request asked) answer world :: later →
    asked.settles = true →
      ∃ begun before own, Moment.Nested (.called (.request asked) begun :: before) own later
        ∧ (begun.acting = false → begun.entered = some begun.key →
            Settles begun (History.tally before) world (History.tally later))

/-- A call that is quiet if all callbacks are. -/
def Call.Hushed : Call S C K → Prop
  | .guard _ _ _ | .reduce _ _ | .effect _ _ | .cleanup _ _ | .report _ | .leave _ _ _
  | .enter _ | .apply _ => True
  | _ => False

/-- What is to be shown of a call that is answered: it settled once, if it should, and did what is
promised when callbacks are quiet.  What is promised anyway is known. -/
def Promised (quiet : K → Prop) (call : Call S C K) (world : World S C K M)
    (history : History S C K M) (answer : call.Answer) (world' : World S C K M)
    (history' : History S C K M) : Prop :=
  renewContract.nested.post call world history answer world'
      (.answered call answer world' :: history') →
    SettlesOnce world' (.answered call answer world' :: history')
      ∧ quietPromise quiet call world history answer world'
          (.answered call answer world' :: history')

variable {call : Call S C K}

/-- Nothing is run when a call is made that runs nothing itself. -/
theorem Quieted.called
    (h : Quieted quiet world (.called call world :: history) world' history' call)
    (hidle : call.Idle) :
  Quieted quiet world history world' history' call
  := by
  have hcalled : ∀ history : History S C K M,
      History.tally (.called call world :: history) = History.tally history :=
    fun _ => tally_called hidle
  cases call with
  | leave | enter => cases hidle
  | _ =>
    simp only [Quieted, hcalled] at h ⊢
    exact h

/-- Nothing is run when a call is answered. -/
theorem Quieted.answered (h : Quieted quiet world history world' history' call)
    (answer : call.Answer) :
  Quieted quiet world history world' (.answered call answer world' :: history') call
  := by
  cases call with
  | _ =>
    simp only [Quieted, tally_answered] at h ⊢
    exact h

theorem quieted_of_hushed (hhushed : call.Hushed)
    (h : Quietly world (History.tally (.called call world :: history)) world'
      (History.tally history')) :
  Quieted quiet world history world' history' call
  := by
  cases call with
  | request | settle | drain | push | renew | callback => cases hhushed
  | _ => exact h

/-- A call that is not a request keeps its promise if its body does as little as it should. -/
theorem ensures_quietPromise (hrequest : ∀ asked, call ≠ .request asked)
    {body : Engine S C K M ε call.Answer}
    (hbody : world.acting = true → (quietContract quiet).Ensures body
      (fun _ world' history' => Quieted quiet world history world' history' call)
      world (.called call world :: history)) :
  (quietContract quiet).Ensures body (Promised quiet call world history) world
    (.called call world :: history)
  := by
  have hgoal : ∀ answer world' history',
      (world.acting = true → Quieted quiet world history world' history' call) →
        Promised quiet call world history answer world' history' := by
    intro answer world' history' hquieted _
    refine ⟨?_, fun hacting => (hquieted hacting).answered answer, ?_⟩
    · rintro asked _ _ ⟨⟩
      cases hrequest asked rfl
    · intro asked hcall
      cases hrequest asked hcall
  cases hacting : world.acting with
  | true =>
    apply (hbody hacting).mono
    intro answer world' history' _ hquieted
    apply hgoal _ _ _ fun _ => hquieted
  | false =>
    apply Contract.ensures_given
    intro answer world' history'
    apply hgoal
    intro hactive
    cases hacting.symm.trans hactive

/-- A request keeps its promise as a part of an outermost call, and as one. -/
theorem ensures_request_promise [DecidableEq S] {request : Request K} (hinturn : request.InTurn)
    (hepoch : world.epoch = history.accepted) :
  (quietContract quiet).Ensures (serveRequest request : Engine S C K M ε (request.Answer S C))
    (Promised quiet (.request request) world history) world
    (.called (.request request) world :: history)
  := by
  have hcalled : History.tally (.called (.request request) world :: history)
      = History.tally history := tally_called trivial
  have hepoch : world.epoch = History.accepted (.called (.request request) world :: history) :=
    hepoch
  have hgoal : ∀ answer world' history',
      (world.acting = true → Quieted quiet world history world' history' (.request request)) →
        (request.settles = true → world.acting = false → world.entered = some world.key →
          Settles world (History.tally history) world' (History.tally history')) →
          Promised quiet (.request request) world history answer world' history' := by
    rintro answer world' history' hquieted hsettles ⟨-, own, later, hnested, heq⟩
    refine ⟨?_, fun hacting => (hquieted hacting).answered answer, ?_⟩
    · rintro asked _ _ ⟨⟩ hsettling
      cases heq
      exact ⟨world, history, own, hnested, hsettles hsettling⟩
    · rintro asked ⟨⟩ hsettling hidle hentered
      rw [tally_answered]
      apply hsettles hsettling hidle hentered
  cases hacting : world.acting with
  | true =>
    apply (ensures_request_quieted hinturn hacting hepoch).mono
    intro answer world' history' _ hquieted
    apply hgoal
    · intro _
      apply hquieted.called trivial
    · intro _ hidle
      cases hacting.symm.trans hidle
  | false =>
    have hactive : ∀ world' history', world.acting = true →
        Quieted quiet world history world' history' (.request request) := by
      intro world' history' hactive
      cases hacting.symm.trans hactive
    by_cases hdue : request.settles = true ∧ world.entered = some world.key
    · apply (ensures_request_settles hdue.1 hacting hdue.2 hepoch).mono
      intro answer world' history' _ hsettles
      rw [hcalled] at hsettles
      exact hgoal answer world' history' (hactive _ _) fun _ _ _ => hsettles
    · apply Contract.ensures_given
      intro answer world' history'
      exact hgoal answer world' history' (hactive _ _) fun hsettling _ hentered =>
        (hdue ⟨hsettling, hentered⟩).elim

/-- The callback of an outermost call disturbs nothing, and is quiet if it is said to be. -/
theorem ensures_callback_quieted {client : Client S C K M ε} (hasks : client.Asks Request.InTurn)
    (hclient : client.Quiet quiet) {token : K} (hacting : world.acting = true)
    (hepoch : world.epoch = history.accepted) :
  (quietContract quiet).Ensures (ofCode (client.callback token) : Engine S C K M ε Unit)
    (fun _ world' history' => Quieted quiet world history world' history' (.callback token))
    world history
  := by
  by_cases hquiet : quiet token
  · have hruns : ((quietContract quiet).judgement (Calm world history)).runs
        (ofCode (client.callback token)) := runs_ofCode_calm (hclient.callback token hquiet)
    apply (hruns _ _ (calm_refl hacting)).mono
    rintro answer world' history' - ⟨-, hcalm⟩
    exact ⟨fun _ => hcalm.quietly, fun _ => hcalm.quietly.undisturbed⟩
  by_cases hentered : world.entered = some world.key
  · have hruns : ((quietContract quiet).judgement (Composed world history)).runs
        (ofCode (client.callback token)) := by
      apply runs_ofCode _ _ (hasks.callback token)
      · intro world' history' memory hcomposed
        exact hcomposed.of_world_eq rfl rfl rfl rfl rfl
      · intro request _
        apply runs_ask_composed
        · trivial
        · intro world history world' history' hquieted hentered
          apply hquieted.2 hentered
    apply (hruns _ _ (composed_refl hacting hentered hepoch)).mono
    rintro answer world' history' - ⟨-, hcomposed⟩
    exact ⟨fun h => (hquiet h).elim, fun _ => hcomposed.undisturbed⟩
  · apply Contract.ensures_given
    intro answer world' history'
    exact ⟨fun h => (hquiet h).elim, fun h => (hentered h).elim⟩

/-! ### Bodies -/

variable [DecidableEq S] [StateValue S] [Context C] {machine : Machine S C K}
  {client : Client S C K M ε}

omit [DecidableEq S] [StateValue S] [Context C] in
/-- A call that is quiet and runs nothing itself may be made. -/
theorem runs_ask_hushed {call : Call S C K} (hidle : call.Idle) (hhushed : call.Hushed) :
  ((quietContract quiet).judgement (Calm world history)).runs
    (ask call : Engine S C K M ε call.Answer)
  := by
  apply runs_idle_calm hidle
  intro world history world' history' hquieted
  cases call with
  | guard | reduce | effect | cleanup | report | apply => exact hquieted
  | leave | enter => cases hidle
  | _ => cases hhushed

/-- To apply an action is quiet: it runs no effects and no cleanups. -/
theorem runs_apply_calm (action : Action K) :
  ((quietContract quiet).judgement (Calm world history)).runs
    (apply machine action : Engine S C K M ε Unit)
  := by
  have hchange : ∀ (change : World S C K M → World S C K M),
      (∀ world, (change world).entered = world.entered ∧ (change world).exit = world.exit
        ∧ (change world).queue = world.queue ∧ (change world).acting = world.acting) →
          ((quietContract quiet).judgement (Calm world history)).runs
            (Program.update change : Engine S C K M ε Unit) := by
    intro change hsame
    apply Contract.runs_update
    intro world' history' hcalm
    obtain ⟨hremembered, hexit, hqueue, hacting⟩ := hsame world'
    exact hcalm.of_world_eq hremembered hexit (fun hempty => hqueue.trans hempty) hacting
  apply Judgement.runs_bind Contract.runs_world
  intro current
  apply Judgement.runs_bind
  · apply StepHost.runs_step
    · intro token event context
      exact runs_ask_hushed trivial trivial
    · intro token context
      exact runs_ask_hushed trivial trivial
    · intro report
      exact runs_ask_hushed trivial trivial
  · intro outcome
    split
    · apply Judgement.runs_pure
    · exact hchange _ fun _ => ⟨rfl, rfl, rfl, rfl⟩
    · exact hchange _ fun _ => ⟨rfl, rfl, rfl, rfl⟩

/-- The body of such a call is quiet. -/
theorem runs_body_calm (hclient : client.Quiet quiet) {call : Call S C K} (hhushed : call.Hushed) :
  ((quietContract quiet).judgement (Calm world history)).runs (body machine client call)
  := by
  have hlocks : ∀ world' history' locks, Calm world history world' history' →
      Calm world history { world' with locks } history' := by
    intro world' history' locks hcalm
    exact hcalm.of_world_eq rfl rfl id rfl
  cases call with
  | guard token event context => apply runs_ofCode_calm (hclient.guard token event context)
  | reduce token context => apply runs_ofCode_calm (hclient.reduce token context)
  | effect token params => apply runs_ofCode_calm (hclient.effect token params)
  | cleanup token params => apply runs_ofCode_calm (hclient.cleanup token params)
  | report report => apply Judgement.runs_pure
  | leave cleanup event context =>
    apply EffectHost.runs_leave
    · apply runs_setLocked hlocks
    · intro token params
      exact runs_ask_hushed trivial trivial
  | enter state =>
    apply EffectHost.runs_enter
    · apply runs_newLock hlocks
    · apply runs_setLocked hlocks
    · intro token params
      exact runs_ask_hushed trivial trivial
    · intro entered _ name _ _ details
      exact runs_ask_hushed trivial trivial
  | apply action => apply runs_apply_calm
  | _ => cases hhushed

/-- The body of a call that is not a request does as little as it should. -/
theorem ensures_body_quieted (hasks : client.Asks Request.InTurn) (hclient : client.Quiet quiet)
    {call : Call S C K} (hrequest : ∀ asked, call ≠ .request asked) (hacting : world.acting = true)
    (hepoch : ∀ token, call = .callback token → world.epoch = history.accepted) :
  (quietContract quiet).Ensures (body machine client call)
    (fun _ world' history' => Quieted quiet world history world' history' call)
    world (.called call world :: history)
  := by
  have hhushed : call.Hushed → (quietContract quiet).Ensures (body machine client call)
      (fun _ world' history' => Quieted quiet world history world' history' call)
      world (.called call world :: history) := by
    intro hhushed
    apply (runs_body_calm hclient hhushed _ _ (calm_refl hacting)).mono
    rintro answer world' history' - ⟨-, hcalm⟩
    exact quieted_of_hushed hhushed hcalm.quietly
  cases call with
  | request asked => cases hrequest asked rfl
  | settle =>
    apply (ensures_settle_quieted hacting).mono
    intro answer world' history' _ hquieted
    apply hquieted.called trivial
  | drain =>
    have hidle : (Call.drain : Call S C K).Idle := trivial
    apply (ensures_drain_quieted hacting).mono
    intro answer world' history' _ hdrained
    exact Quieted.called hdrained hidle
  | push action =>
    have hpushed : Quieted quiet world (.called (.push action) world :: history)
        { world with queue := world.queue ++ [action] }
        (.called (.push action) world :: history) (.push action) := ⟨rfl, rfl, rfl⟩
    exact hpushed.called trivial
  | renew state =>
    have hidle : (Call.renew state : Call S C K).Idle := trivial
    apply (ensures_renew_quieted hacting).mono
    intro answer world' history' _ honce
    exact Quieted.called honce hidle
  | callback token =>
    have hepoch : world.epoch = History.accepted (.called (.callback token) world :: history) :=
      hepoch token rfl
    apply (ensures_callback_quieted hasks hclient hacting hepoch).mono
    intro answer world' history' _ hquieted
    apply hquieted.called trivial
  | _ => apply hhushed trivial

/-- Every body keeps the promises that are made when callbacks are quiet. -/
theorem fulfils_quietPromise (hasks : client.Asks Request.InTurn) (hclient : client.Quiet quiet) :
  (renewContract.nested.promising (quietPromise quiet)).Fulfils
    (fun world history => Renews machine.definition world history ∧ SettlesOnce world history)
    (body machine client)
  := by
  apply (fulfils_renewContract hasks).and_given
  intro call world history hpre
  constructor
  · rintro asked answer later ⟨⟩
  by_cases hrequest : ∃ asked, call = .request asked
  · obtain ⟨asked, rfl⟩ := hrequest
    apply ensures_request_promise hpre.1 hpre.2.fresh.epoch_eq
  · have hrequest : ∀ asked, call ≠ .request asked := fun asked heq => hrequest ⟨asked, heq⟩
    apply ensures_quietPromise hrequest
    intro hacting
    apply ensures_body_quieted hasks hclient hrequest hacting
    rintro token rfl
    exact hpre.fresh.epoch_eq

/-- In every run in which callbacks are quiet, and nobody drains or flushes out of turn, outermost
calls that find nothing due settle once. -/
theorem throughout_settles_once (machine : Machine S C K) (hasks : client.Asks Request.InTurn)
    (hclient : client.Quiet quiet) {code : Code S C K M ε α} (hcode : code.Asks Request.InTurn)
    (memory : M) (depth : Nat) :
  Moment.Throughout SettlesOnce
    (Synced.run machine client depth code
      (World.initial machine.initialState memory)).history
  := by
  have hstart : Rested (World.initial machine.initialState memory : World S C K M) [] :=
    rested_initial machine.initialState memory
  have hruns : ((renewContract.nested.promising (quietPromise quiet)).judgement
      (Stretch false (World.initial machine.initialState memory) [])).runs (ofCode code) := by
    intro world history hstretch
    apply (runs_ofCode_stretch hcode world history hstretch).promising
  have hbody : (renewContract.nested.promising (quietPromise quiet)).Fulfils
      (fun world history => Renews machine.definition world history ∧ SettlesOnce world history)
      (body machine client) := fulfils_quietPromise hasks hclient
  intro moment earlier hmoment
  exact ((Contract.reaches_run hbody hruns hstart.stretch depth).1 moment earlier hmoment).2

end GuardedMachine.Synced
