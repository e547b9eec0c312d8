import GuardedMachine.Proofs.Synced.Accepting

/-!
# When effects are run anew

Whatever the callbacks of a synchronous machine ask of it, starting and stopping it included, the
machine remembers its flushes rightly, as long as nobody drains or flushes out of turn.  What
carries the induction is that a part of an outermost call spares the state and accepts no event
(`Spared`): the action that is being applied when it is made is the only one, so the reports of
rejections since that action was taken up are its own.
-/

namespace GuardedMachine.Synced

variable {S C K M ε α : Type} {world world' world'' : World S C K M}
  {history history' history'' : History S C K M} {rejects rejects' : Bool}

/-! ### The contract -/

/-- Between two moments no event was accepted and the state is the same.  A rejection was reported
if `rejects` says so. -/
structure Spared (rejects : Bool) (world : World S C K M) (history : History S C K M)
    (world' : World S C K M) (history' : History S C K M) : Prop where
  state_eq : world'.state = world.state
  accepted_eq : history'.accepted = history.accepted
  rejected_eq : history'.rejected = (rejects || history.rejected)

theorem Spared.refl (world : World S C K M) (history : History S C K M) :
  Spared false world history world history
  := ⟨rfl, rfl, rfl⟩

theorem Spared.trans (h : Spared rejects world history world' history')
    (h' : Spared rejects' world' history' world'' history'') :
  Spared (rejects' || rejects) world history world'' history''
  where
  state_eq := h'.state_eq.trans h.state_eq
  accepted_eq := h'.accepted_eq.trans h.accepted_eq
  rejected_eq := by rw [h'.rejected_eq, h.rejected_eq, Bool.or_assoc]

/-- At a flush that comes effects are due, and the key of the current state has just been stored. -/
structure Renewable (state : MachineState S C) (world : World S C K M) (history : History S C K M) :
    Prop where
  state_eq : state = world.state
  flushes : history.flushes = true
  due : history.due = true
  entered_eq : world.entered = some world.key
  epoch_eq : world.epoch = history.accepted

/-- When calls may be made so that flushes are remembered rightly, and that they are. -/
def renewContract : Contract (Call S C K) Call.Answer (World S C K M) where
  pre
    | .request asked, world, history => asked.InTurn ∧ Rested world history
    | .settle, world, history => Rested world history ∧ world.acting = true
    | .drain, world, history => Rested world history ∧ world.acting = true
    | .apply _, world, history => Rested world history ∧ world.acting = true
    | .renew state, world, history => Renewable state world history
    | _, world, history => Rested world history
  post call world history answer world' history' :=
    Fresh world' history' ∧ world'.acting = world.acting
      ∧ (∃ later, history' = .answered call answer world' :: later)
      ∧ (world.acting = true → call.Sparing →
          Spared call.rejects world history world' history')

/-- What a part of a call keeps, from its beginning. -/
structure Stretch (rejects : Bool) (world : World S C K M) (history : History S C K M)
    (world' : World S C K M) (history' : History S C K M) : Prop where
  continues : Moment.Continues history history'
  rested : Rested world' history'
  acting_eq : world'.acting = world.acting
  spared : world.acting = true → Spared rejects world history world' history'

theorem Rested.stretch (h : Rested world history) :
  Stretch false world history world history
  := ⟨Moment.Continues.refl history, h, rfl, fun _ => Spared.refl world history⟩

/-- It may change what is not remembered. -/
theorem Stretch.of_world_eq (h : Stretch rejects world history world' history')
    (hstate : world''.state = world'.state) (hepoch : world''.epoch = world'.epoch)
    (hentered : world''.entered = world'.entered) (hacting : world''.acting = world'.acting) :
  Stretch rejects world history world'' history'
  where
  continues := h.continues
  rested := h.rested.of_world_eq (congrArg MachineState.value hstate) hepoch hentered
  acting_eq := hacting.trans h.acting_eq
  spared hactive := by
    have hspared := h.spared hactive
    exact ⟨hstate.trans hspared.state_eq, hspared.accepted_eq, hspared.rejected_eq⟩

/-- A call that may be made whenever nothing is due that comes. -/
def Call.Modest : Call S C K → Prop
  | .request asked => asked.InTurn
  | .settle | .drain | .apply _ | .renew _ => False
  | _ => True

section Modest

variable {call : Call S C K} (hmodest : call.Modest)

include hmodest

theorem Call.Modest.sparing :
  call.Sparing
  := by
  cases call with
  | settle | drain | apply => cases hmodest
  | _ => trivial

theorem pre_of_modest (h : Rested world history) :
  renewContract.pre call world history
  := by
  cases call with
  | request asked => exact ⟨hmodest, h⟩
  | settle | drain | apply | renew => cases hmodest
  | _ => exact h

/-- A call that is answered is a part of the call that made it. -/
theorem Stretch.next (h : Stretch rejects world history world' history') {answer : call.Answer}
    (hcontinues : Moment.Continues history' history'')
    (hpost : renewContract.post call world' history' answer world'' history'') :
  Stretch (call.rejects || rejects) world history world'' history''
  := by
  obtain ⟨hfresh, hacting, ⟨later, rfl⟩, hspared⟩ := hpost
  have hdrain : call ≠ .drain := by
    rintro rfl
    cases hmodest
  refine ⟨h.continues.trans hcontinues, ⟨hfresh, ?_⟩, hacting.trans h.acting_eq, ?_⟩
  · intro hflushes
    cases (flushes_answered hdrain).symm.trans hflushes
  · intro hactive
    apply (h.spared hactive).trans
    apply hspared _ hmodest.sparing
    rw [h.acting_eq, hactive]

end Modest

/-! ### Parts of a call -/

/-- A modest call is a part of a call. -/
theorem ensures_ask_stretch {call : Call S C K} (hmodest : call.Modest)
    (h : Stretch rejects world history world' history') :
  renewContract.nested.Ensures (ask call : Engine S C K M ε call.Answer)
    (fun _ world'' history'' => Stretch (call.rejects || rejects) world history world'' history'')
    world' history'
  := by
  use pre_of_modest hmodest h.rested
  rintro answer world'' history'' hcontinues ⟨hpost, -⟩
  exact h.next hmodest hcontinues hpost

theorem runs_ask_stretch {call : Call S C K} (hmodest : call.Modest)
    (hrejects : call.rejects = false) :
  (renewContract.nested.judgement (Stretch rejects world history)).runs
    (ask call : Engine S C K M ε call.Answer)
  := by
  intro world' history' hstretch
  apply (ensures_ask_stretch hmodest hstretch).mono
  intro _ world'' history'' _ hstretch'
  rw [hrejects, Bool.false_or] at hstretch'
  exact ⟨trivial, hstretch'⟩

theorem queues_stretch :
  Queues (renewContract.nested : Contract (Call S C K) Call.Answer (World S C K M))
    (Stretch rejects world history) ε
  where
  mounted _ _ _ h := h.of_world_eq rfl rfl rfl rfl
  push action := by
    apply runs_ask_stretch
    · trivial
    · rfl
  report report hmisuse := by
    apply runs_ask_stretch
    · trivial
    rw [Call.rejects]
    cases hdiagnostic : report.diagnostic with
    | undefinedState | unknownEvent | guardDenied | undefinedGuard =>
      rw [hdiagnostic] at hmisuse
      cases hmisuse
    | _ => rfl

/-- The programs of a client are parts of a call. -/
theorem runs_ofCode_stretch {code : Code S C K M ε α} (hasks : code.Asks Request.InTurn) :
  (renewContract.nested.judgement (Stretch rejects world history)).runs (ofCode code)
  := by
  apply runs_ofCode _ _ hasks
  · intro world' history' memory hstretch
    exact hstretch.of_world_eq rfl rfl rfl rfl
  · intro request hinturn
    exact runs_ask_stretch hinturn rfl

/-- Once a call is answered, nothing is due at a flush that comes, unless the queue was drained. -/
theorem rested_of_post {call : Call S C K} {answer : call.Answer} (hdrain : call ≠ .drain)
    (h : renewContract.post call world history answer world' history') :
  Rested world' history'
  := by
  obtain ⟨hfresh, -, ⟨later, rfl⟩, -⟩ := h
  use hfresh
  intro hflushes
  cases (flushes_answered hdrain).symm.trans hflushes

/-- The stored cleanups run as a part of a call. -/
theorem runs_runExit_stretch :
  (renewContract.nested.judgement (Stretch rejects world history)).runs
    (runExit : Engine S C K M ε Unit)
  := by
  apply runs_runExit
  · intro world' history' exit hstretch
    exact hstretch.of_world_eq rfl rfl rfl rfl
  · intro cleanup event context
    apply runs_ask_stretch
    · trivial
    · rfl

/-! ### Settling -/

/-- An outermost call is running that drains the queue, and nothing is due at a flush that comes. -/
structure Draining (world : World S C K M) (history : History S C K M) : Prop where
  rested : Rested world history
  acting_eq : world.acting = true
  draining : ∃ rest, Moment.openCalls history = .drain :: rest

/-- The queue is drained by applying one action after another, and no flush comes in between. -/
theorem runs_drain_draining :
  (renewContract.nested.judgement (Draining : Invariant S C K M)).runs
    (drain : Engine S C K M ε Nat)
  := by
  apply runs_drain
  · intro world history queue h
    exact ⟨h.rested.of_world_eq rfl rfl rfl, h.acting_eq, h.draining⟩
  · intro action world history h
    use ⟨h.rested, h.acting_eq⟩
    rintro _ world' history' hcontinues ⟨hpost, -⟩
    refine ⟨trivial, rested_of_post ?_ hpost, hpost.2.1.trans h.acting_eq, ?_⟩
    · rintro ⟨⟩
    · rw [hcontinues.openCalls_eq]
      exact h.draining
  · intro world history h
    use ⟨h.rested, h.acting_eq⟩
    rintro applied world' history' hcontinues ⟨⟨hfresh, hacting, ⟨later, rfl⟩, -⟩, -⟩
    have hopen := h.draining
    rw [← hcontinues.openCalls_eq] at hopen
    refine ⟨trivial, ⟨hfresh, ?_⟩, hacting.trans h.acting_eq, hopen⟩
    obtain ⟨rest, hopen⟩ := hopen
    rw [Moment.openCalls] at hopen
    intro hflushes
    rw [History.flushes, hopen] at hflushes
    cases hflushes

/-! ### Outermost calls -/

/-- An outermost call runs a program and then settles. -/
theorem ensures_act_idle {program : Engine S C K M ε Unit} (hacting : world.acting = false)
    (hprogram : renewContract.nested.Ensures program
      (fun _ world' history' =>
        Stretch false { world with acting := true } history world' history')
      { world with acting := true } history) :
  renewContract.nested.Ensures (act program : Engine S C K M ε Unit)
    (fun _ world' history' => Stretch false world history world' history') world history
  := by
  simp only [act, Contract.ensures_bind, Contract.ensures_world, hacting, Bool.false_eq_true,
    if_false, Contract.ensures_update]
  apply hprogram.mono
  rintro _ world' history' - hstretch
  use ⟨hstretch.rested, hstretch.acting_eq⟩
  rintro _ world'' history'' hcontinues ⟨hpost, -⟩
  have hrested : Rested world'' history'' := by
    apply rested_of_post _ hpost
    rintro ⟨⟩
  refine ⟨hstretch.continues.trans hcontinues, ?_, hacting.symm, ?_⟩
  · exact hrested.of_world_eq rfl rfl rfl
  · intro hactive
    cases hacting.symm.trans hactive

/-- A program may run as an outermost call or as a part of the one that is running. -/
theorem ensures_act {program : Engine S C K M ε Unit} (hrested : Rested world history)
    (hprogram : ∀ world : World S C K M, (renewContract.nested.judgement
      (Stretch false world history)).runs program) :
  renewContract.nested.Ensures (act program : Engine S C K M ε Unit)
    (fun _ world' history' => Stretch false world history world' history') world history
  := by
  cases hacting : world.acting with
  | true =>
    apply (runs_act_of_acting _ (hprogram world) _ _ hrested.stretch).mono
    · rintro _ world' history' - ⟨-, hstretch⟩
      exact hstretch
    · intro world' history' hstretch
      rw [hstretch.acting_eq, hacting]
  | false =>
    apply ensures_act_idle hacting
    have hopened : Rested { world with acting := true } history :=
      hrested.of_world_eq rfl rfl rfl
    apply (hprogram _ _ _ hopened.stretch).mono
    rintro _ world' history' - ⟨-, hstretch⟩
    exact hstretch

variable [DecidableEq S]

/-- At a flush that comes effects are run anew if they are due, and then nothing is due. -/
theorem ensures_flush_stretch (hfresh : Fresh world history) (hflushes : history.flushes = true) :
  renewContract.nested.Ensures (flush : Engine S C K M ε Unit)
    (fun _ world' history' => Stretch false world history world' history') world history
  := by
  simp only [flush, Contract.ensures_bind, Contract.ensures_world]
  split
  · next hentered =>
    have hrested : Rested world history := ⟨hfresh, fun _ => hfresh.due_iff.mpr hentered⟩
    exact hrested.stretch
  · next hnot =>
    simp only [Contract.ensures_bind, Contract.ensures_update]
    constructor
    · refine ⟨rfl, hflushes, ?_, rfl, hfresh.epoch_eq⟩
      apply eq_true_of_ne_false
      intro hdue
      apply hnot (hfresh.due_iff.mp hdue)
    · rintro _ world' history' hcontinues ⟨⟨hfresh', hacting, ⟨later, rfl⟩, hspared⟩, -⟩
      refine ⟨hcontinues, ⟨hfresh', ?_⟩, hacting, ?_⟩
      · rintro ⟨⟩
      · intro hactive
        have hspared := hspared hactive trivial
        exact ⟨hspared.state_eq, hspared.accepted_eq, hspared.rejected_eq⟩

/-- The machine settles: when the queue has been drained a flush comes. -/
theorem ensures_settle_rested (hopen : ∃ rest, Moment.openCalls history = .settle :: rest)
    (hrested : Rested world history) (hacting : world.acting = true) :
  renewContract.nested.Ensures (settle : Engine S C K M ε Unit)
    (fun _ world' history' => Rested world' history' ∧ world'.acting = true) world history
  := by
  simp only [settle, Contract.ensures_bind, Contract.ensures_world]
  split
  · exact ⟨hrested, hacting⟩
  · simp only [Contract.ensures_bind]
    use ⟨hrested, hacting⟩
    rintro applied world' history' hcontinues ⟨⟨hfresh, hacting', ⟨later, rfl⟩, -⟩, -⟩
    have hflushes : History.flushes (.answered .drain applied world' :: later) = true := by
      obtain ⟨rest, hopen⟩ := hopen
      have hopen' := hcontinues.openCalls_eq
      rw [Moment.openCalls, hopen] at hopen'
      rw [History.flushes, hopen']
    simp only [Contract.Ensures, Contract.ensures_bind]
    apply (ensures_flush_stretch hfresh hflushes).mono
    rintro _ world'' history'' - hstretch
    have hacting'' : world''.acting = true := by
      rw [hstretch.acting_eq, hacting', hacting]
    use ⟨hstretch.rested, hacting''⟩
    rintro _ ending last - ⟨hpost, -⟩
    refine ⟨rested_of_post ?_ hpost, hpost.2.1.trans hacting''⟩
    rintro ⟨⟩

/-- The machine is started as an outermost call, or as a part of one: a flush comes first. -/
theorem ensures_start (hfresh : Fresh world history) (hflushes : history.flushes = true) :
  renewContract.nested.Ensures (act flush : Engine S C K M ε Unit)
    (fun _ world' history' => Stretch false world history world' history') world history
  := by
  cases hacting : world.acting with
  | true =>
    simp only [act, Contract.ensures_bind, Contract.ensures_world, hacting, if_true]
    apply ensures_flush_stretch hfresh hflushes
  | false =>
    have hopened : Fresh { world with acting := true } history :=
      hfresh.of_world_eq rfl rfl rfl
    apply ensures_act_idle hacting
    apply ensures_flush_stretch hopened hflushes

/-- Any other request in turn is a part of a call as well. -/
theorem ensures_request_stretch {request : Request K} (hinturn : request.InTurn)
    (hstart : request ≠ .start) (hrested : Rested world history) :
  renewContract.nested.Ensures (serveRequest request : Engine S C K M ε (request.Answer S C))
    (fun _ world' history' => Stretch false world history world' history') world history
  := by
  have hqueues : ∀ world : World S C K M, Queues
      (renewContract.nested : Contract (Call S C K) Call.Answer (World S C K M))
      (Stretch false world history) ε := fun _ => queues_stretch
  have hruns : ∀ {α : Type} {program : Engine S C K M ε α},
      (renewContract.nested.judgement (Stretch false world history)).runs program →
        renewContract.nested.Ensures program
          (fun _ world' history' => Stretch false world history world' history') world history := by
    intro α program hprogram
    apply (hprogram _ _ hrested.stretch).mono
    rintro _ world' history' - ⟨-, hstretch⟩
    exact hstretch
  cases request with
  | start => cases hstart rfl
  | drain | flush => cases hinturn
  | send event => apply ensures_act hrested fun world => (hqueues world).dispatch _
  | setContext reducer => apply ensures_act hrested fun world => (hqueues world).dispatch _
  | act token =>
    apply ensures_act hrested
    intro world
    apply runs_ask_stretch
    · trivial
    · rfl
  | stop =>
    apply hruns
    apply Judgement.runs_bind
    · apply Contract.runs_update
      intro world' history' hstretch
      exact hstretch.of_world_eq rfl rfl rfl rfl
    · intro _
      apply Judgement.runs_bind runs_runExit_stretch
      intro _
      apply Contract.runs_update
      intro world' history' hstretch
      exact hstretch.of_world_eq rfl rfl rfl rfl
  | _ =>
    apply hruns
    have hqueues := hqueues world
    exact runs_serveRequest_aside trivial rfl hqueues.dispatch (fun _ _ => hqueues.push _)
      hqueues.report fun mounted _ world' history' => hqueues.mounted world' history' mounted

end GuardedMachine.Synced
