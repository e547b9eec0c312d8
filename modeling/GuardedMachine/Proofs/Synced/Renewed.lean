import GuardedMachine.Proofs.Synced.Renewing

/-!
# Effects are run anew when an event was accepted

Every body keeps it that flushes are remembered rightly, and so effects are run anew when a flush
comes exactly if none has come before or an event was accepted since the last one
(`throughout_renews`).  A step reports a rejection exactly when it does not accept its event, and an
event that is accepted gets an epoch of its own, even if it leads back to the same state.
-/

namespace GuardedMachine.Synced

variable {S C K M ε α : Type} {world world' : World S C K M} {history history' : History S C K M}
  {rejects : Bool}

/-! ### Steps -/

section Steps

variable [StateValue S] [Context C] {config : Config K} {state : MachineState S C}
  {event : Event}

/-- What is reported of a decision says whether it is a rejection. -/
theorem ensures_explained {guard : Guard} {target : S} {allow : Bool} {traced : Option Trace}
    (h : Stretch false world history world' history') :
  renewContract.nested.Ensures
    (stepHost.explained guard state target event allow traced : Engine S C K M ε Bool)
    (fun allow' world'' history'' =>
      allow' = allow ∧ Stretch (!allow) world history world'' history'')
    world' history'
  := by
  have hdenial : ∀ details world' history', Stretch false world history world' history' →
      renewContract.nested.Ensures
        (if (!allow) = true then
          stepHost.report
            { diagnostic := .guardDenied (StateValue.name state.value) (StateValue.name target)
              details } >>= fun _ => pure allow
        else (pure allow : Engine S C K M ε Bool))
        (fun allow' world'' history'' =>
          allow' = allow ∧ Stretch (!allow) world history world'' history'')
        world' history' := by
    intro details world' history' hstretch
    cases allow with
    | true => exact ⟨rfl, hstretch⟩
    | false =>
      apply Contract.ensures_bind _ _ |>.mpr
      apply (ensures_ask_stretch _ hstretch).mono
      · intro _ world'' history'' _ hstretch'
        exact ⟨rfl, hstretch'⟩
      · trivial
  rw [StepHost.explained.eq_def]
  cases traced with
  | none => exact hdenial _ _ _ h
  | some trace =>
    dsimp only
    split
    · apply Contract.ensures_bind _ _ |>.mpr
      apply (ensures_ask_stretch _ h).mono
      · intro _ world'' history'' _ hstretch
        exact hdenial _ _ _ hstretch
      · trivial
    · exact hdenial _ _ _ h

/-- A guard is decided with the report of a rejection exactly when it does not hold. -/
theorem ensures_allows {guard : Guard} {target : S}
    (h : Stretch false world history world' history') :
  renewContract.nested.Ensures
    (stepHost.allows config guard state target event : Engine S C K M ε Bool)
    (fun allow world'' history'' => Stretch (!allow) world history world'' history'')
    world' history'
  := by
  have hguard : ∀ token, (renewContract.nested.judgement (Stretch false world history)).runs
      (stepHost.guard token event state.context : Engine S C K M ε Bool) := by
    intro token
    apply runs_ask_stretch
    · trivial
    · rfl
  have hevaluate : ((renewContract.nested.judgement (Stretch false world history)).orError
      fun _ => True).runs
        (guard.evaluate (stepHost.check config event state.context :
          String → ExceptT GuardError (Engine S C K M ε) Bool)) := by
    apply Guard.runs_evaluate
    intro name _
    apply StepHost.runs_check name hguard
    intro _
    trivial
  rw [StepHost.allows_eq]
  apply Contract.ensures_bind _ _ |>.mpr
  apply (hevaluate _ _ h).mono
  rintro (⟨⟨name⟩⟩ | allow) world'' history'' - ⟨-, hstretch⟩
  · apply Contract.ensures_bind _ _ |>.mpr
    apply (ensures_ask_stretch _ hstretch).mono
    · intro _ ending last _ hreported
      exact hreported
    · trivial
  · apply Contract.ensures_bind _ _ |>.mpr
    apply (StepHost.runs_traced hguard _ _ hstretch).mono
    rintro traced ending last - ⟨-, htraced⟩
    apply (ensures_explained htraced).mono
    rintro _ _ _ - ⟨rfl, hexplained⟩
    exact hexplained

end Steps

/-! ### Calls that are carried out -/

variable [DecidableEq S] {definition : Definition S C}

/-- What is said of every moment of a run: flushes are remembered, effects are run anew when they
are due, and actions lead where they do when they are accepted or not. -/
structure Renews (definition : Definition S C) (world : World S C K M) (history : History S C K M) :
    Prop where
  fresh : Fresh world history
  rerun : Rerun world history
  ledTo : LedTo definition world history

theorem Rested.called {call : Call S C K} (h : Rested world history)
    (hrenew : ∀ state, call ≠ .renew state) :
  Renews definition world (.called call world :: history)
  where
  fresh := h.moment rfl
  rerun := by
    apply h.rerun
    rintro state ⟨⟩
    cases hrenew state rfl
  ledTo := by
    rintro action later ⟨⟩

theorem Rested.answered {call : Call S C K} (h : Rested world history)
    (happly : ∀ action, call ≠ .apply action) (answer : call.Answer) :
  Renews definition world (.answered call answer world :: history)
  where
  fresh := by
    apply h.moment
    cases call with
    | apply action => cases happly action rfl
    | _ => rfl
  rerun := by
    apply h.rerun
    rintro state ⟨⟩
  ledTo := by
    rintro action later ⟨⟩
    cases happly action rfl

/-- A sparing call is carried out when its body is a part of a call. -/
theorem carriesOut_of_stretch {call : Call S C K} (hsparing : call.Sparing)
    (hcalled : Renews definition world (.called call world :: history))
    {body : Engine S C K M ε call.Answer}
    (hbody : renewContract.nested.Ensures body
      (fun _ world' history' =>
        Stretch false world (.called call world :: history) world' history')
      world (.called call world :: history)) :
  renewContract.nested.CarriesOut (Renews definition) call body
    (renewContract.post call world history) world history
  := by
  use hcalled
  apply hbody.mono
  intro answer world' history' _ hstretch _
  have hanswered : Renews definition world' (.answered call answer world' :: history') := by
    apply hstretch.rested.answered
    rintro action rfl
    cases hsparing
  refine ⟨hanswered, hanswered.fresh, hstretch.acting_eq, ⟨history', rfl⟩, ?_⟩
  intro hactive _
  have hspared := hstretch.spared hactive
  refine ⟨hspared.state_eq, ?_, ?_⟩
  · rw [History.accepted, accepts_answered hsparing, hspared.accepted_eq, accepted_called]
    rfl
  · rw [rejected_answered, hspared.rejected_eq, Bool.false_or, rejected_called hsparing]

/-- A call that settles or drains is carried out when its body keeps the outermost call running. -/
theorem carriesOut_of_rested {call : Call S C K} (hsettles : ¬call.Sparing)
    (happly : ∀ action, call ≠ .apply action) (hrested : Rested world history)
    (hacting : world.acting = true) {body : Engine S C K M ε call.Answer}
    (hbody : renewContract.nested.Ensures body
      (fun _ world' history' => Rested world' history' ∧ world'.acting = true)
      world (.called call world :: history)) :
  renewContract.nested.CarriesOut (Renews definition) call body
    (renewContract.post call world history) world history
  := by
  constructor
  · apply hrested.called
    rintro state rfl
    cases hsettles trivial
  apply hbody.mono
  rintro answer world' history' - ⟨hrested', hacting'⟩ -
  have hanswered : Renews definition world' (.answered call answer world' :: history') :=
    hrested'.answered happly answer
  exact ⟨hanswered, hanswered.fresh, hacting'.trans hacting.symm, ⟨history', rfl⟩,
    fun _ hsparing => (hsettles hsparing).elim⟩

/-- A flush that comes runs effects anew. -/
theorem carriesOut_renew_renews {state : MachineState S C} (h : Renewable state world history) :
  renewContract.nested.CarriesOut (Renews definition) (.renew state)
    (renew state : Engine S C K M ε Unit)
    (renewContract.post (.renew state) world history) world history
  := by
  have hfresh : Fresh world (.called (.renew state) world :: history) :=
    fresh_renew h.flushes h.epoch_eq h.entered_eq
  have hrested : Rested world (.called (.renew state) world :: history) := by
    use hfresh
    rintro ⟨⟩
  apply carriesOut_of_stretch
  · trivial
  · refine ⟨hfresh, ⟨⟨fun _ => ⟨h.flushes, h.due⟩, fun _ => ⟨state, rfl⟩⟩, ?_⟩, ?_⟩
    · rintro _ ⟨⟩
      exact h.state_eq
    · rintro action later ⟨⟩
  · apply (runs_renew _ _ _ _ _ _ hrested.stretch).mono
    · rintro _ world' history' - ⟨-, hstretch⟩
      exact hstretch
    · intro world' history' exit hstretch
      exact hstretch.of_world_eq rfl rfl rfl rfl
    · intro cleanup event context
      apply runs_ask_stretch
      · trivial
      · rfl
    · apply runs_ask_stretch
      · trivial
      · rfl

variable [StateValue S] [Context C]

/-! ### Actions -/

section Actions

variable {config : Config K} {state : MachineState S C} {event : Event}

/-- What a step has done, and which part of a call it has been. -/
inductive Stepped (definition : Definition S C) (state : MachineState S C) (world : World S C K M)
    (history : History S C K M) :
    Action K → Outcome S C → World S C K M → History S C K M → Prop where
  | accepted {event : Event} {row : Target S} {world' : World S C K M}
      {history' : History S C K M} :
    definition.transition? state.value event.kind = some row →
      Stretch false world history world' history' →
        Stepped definition state world history (.send event)
          (.transitioned
            { value := row.target
              context := state.context
              event
              nextEvents := definition.nextEvents row.target })
          world' history'
  | rejected {event : Event} {world' : World S C K M} {history' : History S C K M} :
    Stretch true world history world' history' →
      Stepped definition state world history (.send event) .unchanged world' history'
  | updated {reducer : K} {context : C} {world' : World S C K M} {history' : History S C K M} :
    Stretch false world history world' history' →
      Stepped definition state world history (.setContext reducer)
        (.contextUpdated { state with context }) world' history'

/-- An event is accepted without the report of a rejection, or rejected with one. -/
theorem ensures_send (hrested : Rested world history) :
  renewContract.nested.Ensures
    (stepHost.send definition config state event : Engine S C K M ε (Outcome S C))
    (fun outcome world' history' =>
      Stepped definition state world history (.send event) outcome world' history')
    world history
  := by
  have hreject : ∀ report : Report, report.diagnostic.isRejection = true →
      renewContract.nested.Ensures
        (stepHost.report report >>= fun _ => pure .unchanged : Engine S C K M ε (Outcome S C))
        (fun outcome world' history' =>
          Stepped definition state world history (.send event) outcome world' history')
        world history := by
    intro report hrejection
    apply Contract.ensures_bind _ _ |>.mpr
    apply (ensures_ask_stretch _ hrested.stretch).mono
    · intro _ world' history' _ hstretch
      rw [Call.rejects, hrejection] at hstretch
      exact .rejected hstretch
    · trivial
  rw [StepHost.send]
  dsimp only
  split
  · exact hreject _ rfl
  · split
    · exact hreject _ rfl
    · next row hrow =>
      split
      · apply Contract.ensures_bind _ _ |>.mpr
        apply (ensures_allows hrested.stretch).mono
        rintro (_ | _) world' history' - hstretch
        · exact .rejected hstretch
        · exact .accepted hrow hstretch
      · exact .accepted hrow hrested.stretch

/-- A step accepts an event, rejects it or updates the context. -/
theorem ensures_step (hrested : Rested world history) (action : Action K) :
  renewContract.nested.Ensures
    (stepHost.step definition config state action : Engine S C K M ε (Outcome S C))
    (fun outcome world' history' =>
      Stepped definition state world history action outcome world' history')
    world history
  := by
  cases action with
  | send event => apply ensures_send hrested
  | setContext reducer =>
    apply Contract.ensures_bind _ _ |>.mpr
    apply (ensures_ask_stretch _ hrested.stretch).mono
    · intro context world' history' _ hmade
      apply Contract.ensures_bind _ _ |>.mpr
      apply (ensures_ask_stretch _ hmade).mono
      · intro _ world'' history'' _ hreported
        exact .updated hreported
      · trivial
    · trivial

end Actions

variable {machine : Machine S C K}

/-- What has been done when an action has been applied that was taken up in a world. -/
structure Completed (definition : Definition S C) (taken : World S C K M) (action : Action K)
    (world : World S C K M) (history : History S C K M) : Prop where
  fresh : Fresh world (.answered (.apply action) () world :: history)
  idle : history.flushes = true → history.due = false
  acting_eq : world.acting = true
  applied : Applied definition taken world action
    (History.accepts (.answered (.apply action) () world) history)

/-- An action is applied to the state at which it is taken up, which stays the same meanwhile. -/
theorem ensures_apply {action : Action K} (hacting : world.acting = true)
    (hrested : Rested world (.called (.apply action) world :: history)) :
  renewContract.nested.Ensures (apply machine action : Engine S C K M ε Unit)
    (fun _ world' history' => Completed machine.definition world action world' history')
    world (.called (.apply action) world :: history)
  := by
  simp only [apply, Contract.ensures_bind, Contract.ensures_world]
  apply (ensures_step hrested action).mono
  intro outcome world' history' _ hstepped
  cases hstepped with
  | @accepted event row _ _ hrow hstretch =>
    have haccepts (state : MachineState S C) (epoch : Nat) : History.accepts
        (.answered (.apply (.send event)) () { world' with state, epoch }) history' = true := by
      rw [History.accepts, (hstretch.spared hacting).rejected_eq]
      rfl
    refine ⟨hstretch.rested.accepted (haccepts _ _) _, hstretch.rested.idle,
      hstretch.acting_eq.trans hacting, ?_⟩
    rw [haccepts]
    exact .accepted hrow rfl
  | @rejected event _ _ hstretch =>
    have hspared := hstretch.spared hacting
    have haccepts : History.accepts (.answered (.apply (.send event)) () world') history'
        = false := by
      rw [History.accepts, hspared.rejected_eq]
      rfl
    refine ⟨hstretch.rested.moment haccepts, hstretch.rested.idle,
      hstretch.acting_eq.trans hacting, ?_⟩
    rw [haccepts]
    exact .rejected hspared.state_eq
  | @updated reducer context _ _ hstretch =>
    have hstate := (hstretch.spared hacting).state_eq
    have hfresh : Fresh world'
        (.answered (.apply (.setContext reducer)) ()
          { world' with state := { world.state with context } } :: history') :=
      hstretch.rested.moment rfl
    refine ⟨hfresh.of_world_eq ?_ rfl rfl, hstretch.rested.idle,
      hstretch.acting_eq.trans hacting, .updated rfl⟩
    exact (congrArg MachineState.value hstate).symm

theorem carriesOut_apply_renews {action : Action K} (hrested : Rested world history)
    (hacting : world.acting = true) :
  renewContract.nested.CarriesOut (Renews machine.definition) (.apply action)
    (apply machine action : Engine S C K M ε Unit)
    (renewContract.post (.apply action) world history) world history
  := by
  have hcalled : Renews machine.definition world (.called (.apply action) world :: history) := by
    apply hrested.called
    rintro state ⟨⟩
  have hrested' : Rested world (.called (.apply action) world :: history) := by
    use hcalled.fresh
    rintro ⟨⟩
  use hcalled
  apply (ensures_apply hacting hrested').nested.mono
  rintro ⟨⟩ world' history' - ⟨hcompleted, moments, hnested⟩ -
  have hanswered : Renews machine.definition world'
      (.answered (.apply action) () world' :: history') := by
    refine ⟨hcompleted.fresh, ?_, ?_⟩
    · constructor
      · constructor
        · rintro ⟨state, ⟨⟩⟩
        · rintro ⟨hflushes, hdue⟩
          cases (hcompleted.idle hflushes).symm.trans hdue
      · rintro state ⟨⟩
    · rintro _ _ ⟨⟩
      exact ⟨world, history, moments, hnested, hcompleted.applied⟩
  exact ⟨hanswered, hanswered.fresh, hcompleted.acting_eq.trans hacting.symm, ⟨history', rfl⟩,
    fun _ hsparing => hsparing.elim⟩

/-! ### Bodies -/

/-- The body of a call that applies nothing and settles nothing is a part of a call. -/
theorem runs_body_stretch {client : Client S C K M ε} (hasks : client.Asks Request.InTurn)
    {call : Call S C K} (hmodest : call.Modest) (hrequest : ∀ asked, call ≠ .request asked) :
  (renewContract.nested.judgement (Stretch rejects world history)).runs (body machine client call)
  := by
  have hchange : ∀ (change : World S C K M → World S C K M),
      (∀ world, (change world).state = world.state ∧ (change world).epoch = world.epoch
        ∧ (change world).entered = world.entered ∧ (change world).acting = world.acting) →
          ∀ world' history', Stretch rejects world history world' history' →
            Stretch rejects world history (change world') history' := by
    intro change hsame world' history' hstretch
    obtain ⟨hstate, hepoch, hentered, hacting⟩ := hsame world'
    exact hstretch.of_world_eq hstate hepoch hentered hacting
  cases call with
  | request asked => cases hrequest asked rfl
  | settle | drain | apply | renew => cases hmodest
  | push action =>
    apply Contract.runs_update
    exact hchange _ fun _ => ⟨rfl, rfl, rfl, rfl⟩
  | leave cleanup event context =>
    apply EffectHost.runs_leave
    · apply runs_setLocked
      intro world' history' locks
      exact hchange (fun world => { world with locks }) (fun _ => ⟨rfl, rfl, rfl, rfl⟩) _ _
    · intro token params
      apply runs_ask_stretch
      · trivial
      · rfl
  | enter state =>
    apply EffectHost.runs_enter
    · apply runs_newLock
      intro world' history' locks
      exact hchange (fun world => { world with locks }) (fun _ => ⟨rfl, rfl, rfl, rfl⟩) _ _
    · apply runs_setLocked
      intro world' history' locks
      exact hchange (fun world => { world with locks }) (fun _ => ⟨rfl, rfl, rfl, rfl⟩) _ _
    · intro token params
      apply runs_ask_stretch
      · trivial
      · rfl
    · intro entered _ name _ _ details
      apply runs_ask_stretch
      · trivial
      · rfl
  | guard token event context => apply runs_ofCode_stretch (hasks.guard token event context)
  | reduce token context => apply runs_ofCode_stretch (hasks.reduce token context)
  | effect token params => apply runs_ofCode_stretch (hasks.effect token params)
  | cleanup token params => apply runs_ofCode_stretch (hasks.cleanup token params)
  | callback token => apply runs_ofCode_stretch (hasks.callback token)
  | report report => apply Judgement.runs_pure

/-- So it is carried out, unless it is a request. -/
theorem carriesOut_modest {client : Client S C K M ε} (hasks : client.Asks Request.InTurn)
    {call : Call S C K} (hmodest : call.Modest) (hrequest : ∀ asked, call ≠ .request asked)
    (hrested : Rested world history) :
  renewContract.nested.CarriesOut (Renews machine.definition) call (body machine client call)
    (renewContract.post call world history) world history
  := by
  have hcalled : Renews machine.definition world (.called call world :: history) := by
    apply hrested.called
    rintro state rfl
    cases hmodest
  have hrested' : Rested world (.called call world :: history) := by
    use hcalled.fresh
    intro hflushes
    cases call with
    | request asked => cases hrequest asked rfl
    | _ => cases hflushes
  apply carriesOut_of_stretch hmodest.sparing hcalled
  apply (runs_body_stretch hasks hmodest hrequest _ _ hrested'.stretch).mono
  rintro answer world' history' - ⟨-, hstretch⟩
  exact hstretch

omit [Context C] in
/-- A request in turn is carried out: one to start finds that effects may be due. -/
theorem carriesOut_request_renews {request : Request K} (hinturn : request.InTurn)
    (hrested : Rested world history) :
  renewContract.nested.CarriesOut (Renews machine.definition) (.request request)
    (serveRequest request : Engine S C K M ε (request.Answer S C))
    (renewContract.post (.request request) world history) world history
  := by
  have hcalled : Renews machine.definition world (.called (.request request) world :: history) := by
    apply hrested.called
    rintro state ⟨⟩
  refine carriesOut_of_stretch (by trivial) hcalled ?_
  cases request with
  | start => apply ensures_start hcalled.fresh rfl
  | drain | flush => cases hinturn
  | _ =>
    apply ensures_request_stretch hinturn
    · rintro ⟨⟩
    · use hcalled.fresh
      rintro ⟨⟩

omit [Context C] in
theorem carriesOut_settle_renews (hrested : Rested world history) (hacting : world.acting = true) :
  renewContract.nested.CarriesOut (Renews machine.definition) .settle
    (settle : Engine S C K M ε Unit) (renewContract.post .settle world history) world history
  := by
  have hsettles : ¬(Call.settle : Call S C K).Sparing := id
  apply carriesOut_of_rested hsettles _ hrested hacting
  · apply ensures_settle_rested ⟨_, rfl⟩ _ hacting
    use hrested.moment rfl
    rintro ⟨⟩
  · rintro action ⟨⟩

omit [Context C] in
theorem carriesOut_drain_renews (hrested : Rested world history) (hacting : world.acting = true) :
  renewContract.nested.CarriesOut (Renews machine.definition) .drain
    (drain : Engine S C K M ε Nat) (renewContract.post .drain world history) world history
  := by
  have hdrains : ¬(Call.drain : Call S C K).Sparing := id
  apply carriesOut_of_rested hdrains _ hrested hacting
  · apply (runs_drain_draining _ _ ⟨_, hacting, _, rfl⟩).mono
    · rintro applied world' history' - ⟨-, hdraining⟩
      exact ⟨hdraining.rested, hdraining.acting_eq⟩
    · use hrested.moment rfl
      rintro ⟨⟩
  · rintro action ⟨⟩

/-- Every body remembers flushes rightly. -/
theorem fulfils_renewContract {client : Client S C K M ε} (hasks : client.Asks Request.InTurn) :
  renewContract.nested.Fulfils (Renews machine.definition) (body machine client)
  := by
  apply Contract.fulfils_nested
  intro call world history hpre
  cases call with
  | request request => apply carriesOut_request_renews hpre.1 hpre.2
  | settle => apply carriesOut_settle_renews hpre.1 hpre.2
  | drain => apply carriesOut_drain_renews hpre.1 hpre.2
  | apply action => apply carriesOut_apply_renews hpre.1 hpre.2
  | renew state => apply carriesOut_renew_renews hpre
  | _ =>
    apply carriesOut_modest hasks (by trivial) _ hpre
    rintro asked ⟨⟩

/-- In every run in which nobody drains or flushes out of turn, effects are run anew when a flush
comes exactly if none has come before or an event was accepted since the last one. -/
theorem throughout_renews (machine : Machine S C K) {client : Client S C K M ε}
    (hclient : client.Asks Request.InTurn) {code : Code S C K M ε α}
    (hcode : code.Asks Request.InTurn) (memory : M) (depth : Nat) :
  Moment.Throughout (Renews machine.definition)
    (Synced.run machine client depth code
      (World.initial machine.initialState memory)).history
  := by
  have hstart : Rested (World.initial machine.initialState memory : World S C K M) [] :=
    rested_initial machine.initialState memory
  apply (Contract.reaches_run (fulfils_renewContract hclient) (runs_ofCode_stretch hcode)
    hstart.stretch depth).1

end GuardedMachine.Synced
