import GuardedMachine.Proofs.Synced.Owed

/-!
# No cleanup is forgotten

Whatever the callbacks of a synchronous machine ask of it, stopping it included, every cleanup that
an effect returned has been run or is stored, and none is run twice (`cleanups_kept`), as long as
nobody drains or flushes out of turn.  Every body is shown to do to what is owed what its call is
credited with.
-/

namespace GuardedMachine.Synced

variable {S C K M ε α : Type} [DecidableEq S] [DecidableEq K]
  {world world' : World S C K M} {history history' : History S C K M}

/-! ### Parts of a call -/

/-- A call without credit that may be made whenever a flush is covered. -/
def Call.Minor : Call S C K → Prop
  | .request asked => asked.InTurn
  | .push _ => True
  | .guard _ _ _ => True
  | .reduce _ _ => True
  | .callback _ => True
  | .report _ => True
  | _ => False

theorem runs_ask_part {call : Call S C K} (hminor : call.Minor) :
  (cleanupContract.judgement (Part world history)).runs (ask call : Engine S C K M ε call.Answer)
  := by
  intro world' history' hpart
  constructor
  · use hpart.level
    have hcovered := hpart.carried.covered
    cases call with
    | request request => exact ⟨hminor, hcovered⟩
    | push | guard | reduce | callback | report => apply hcovered
    | _ => cases hminor
  · intro answer world'' history'' hcontinues hcarried
    have hcredit : ∀ token, call.credit token answer = 0 := by
      intro token
      cases call with
      | request | push | guard | reduce | callback | report => rfl
      | _ => cases hminor
    have hcarried : Carried (fun token => call.credit token answer) world' history' world''
        history'' := hcarried
    simp only [hcredit] at hcarried
    exact ⟨trivial, hpart.next hcontinues hcarried⟩

theorem queues_part :
  Queues (cleanupContract : Contract (Call S C K) Call.Answer (World S C K M))
    (Part world history) ε
  where
  mounted _ _ _ h := h.of_held ⟨rfl, rfl, rfl, rfl, rfl⟩
  push _ := runs_ask_part trivial
  report _ _ := runs_ask_part trivial

/-- The programs of a client are parts of a call. -/
theorem runs_ofCode_part {code : Code S C K M ε α} (hasks : code.Asks Request.InTurn) :
  (cleanupContract.judgement (Part world history)).runs (ofCode code)
  := by
  apply runs_ofCode _ _ hasks
  · intro world' history' memory hpart
    exact hpart.of_held ⟨rfl, rfl, rfl, rfl, rfl⟩
  · intro request hinturn
    apply runs_ask_part
    apply hinturn

/-- Calls of an outermost call between two flushes are parts of it. -/
theorem runs_ask_between {call : Call S C K} (hacting : world.acting = true)
    (hflushing : history.flushing = [])
    (hallowed : ∀ world' history', world'.acting = true → History.flushing history' = [] →
      Allowed call world' (history' : History S C K M))
    (hcredit : ∀ token answer, call.credit token answer = 0) :
  (cleanupContract.judgement (Part world history)).runs (ask call : Engine S C K M ε call.Answer)
  := by
  intro world' history' hpart
  constructor
  · use hpart.level
    apply hallowed
    · rw [hpart.carried.acting_eq, hacting]
    · rw [flushing_continued hpart.continues, hflushing]
  · intro answer world'' history'' hcontinues hcarried
    have hcarried : Carried (fun token => call.credit token answer) world' history' world''
        history'' := hcarried
    simp only [hcredit] at hcarried
    exact ⟨trivial, hpart.next hcontinues hcarried⟩

/-- A part of an outermost call may flush: if a state is being flushed, that does nothing. -/
theorem runs_flush_part (hacting : world.acting = true) :
  (cleanupContract.judgement (Part world history)).runs (flush : Engine S C K M ε Unit)
  := by
  intro world' history' hpart
  simp only [flush, Contract.ensures_bind, Contract.ensures_world]
  split
  · exact ⟨trivial, hpart⟩
  · next hnot =>
    have hflushing : History.flushing history' = [] := by
      by_contra hne
      apply hnot (hpart.carried.covered hne).2.1
    have hentered : Part world history { world' with entered := some world'.key } history' := by
      apply hpart.next (Moment.Continues.refl history')
      exact (Carried.refl hpart.carried.covered).of_exit hflushing (Moment.Continues.refl history')
        rfl rfl
    simp only [Contract.ensures_bind, Contract.ensures_update]
    refine ⟨⟨hentered.level, ?_, hflushing, rfl⟩, ?_⟩
    · rw [hentered.carried.acting_eq, hacting]
    · intro _ world'' history'' hcontinues hcarried
      exact ⟨trivial, hentered.next hcontinues hcarried⟩

/-- Between two flushes an outermost call may settle. -/
theorem runs_settle_between (hacting : world.acting = true) (hflushing : history.flushing = []) :
  (cleanupContract.judgement (Part world history)).runs (settle : Engine S C K M ε Unit)
  := by
  apply runs_settle _ (runs_flush_part hacting)
  · exact runs_ask_between hacting hflushing (fun _ _ h h' => ⟨h, h'⟩) fun _ _ => rfl
  · exact runs_ask_between hacting hflushing (fun _ _ h h' => ⟨h, h'⟩) fun _ _ => rfl

/-- It may also drain the queue. -/
theorem runs_drain_between (hacting : world.acting = true) (hflushing : history.flushing = []) :
  (cleanupContract.judgement (Part world history)).runs (drain : Engine S C K M ε Nat)
  := by
  apply runs_drain
  · intro world' history' queue hpart
    exact hpart.of_held ⟨rfl, rfl, rfl, rfl, rfl⟩
  · intro action
    exact runs_ask_between hacting hflushing (fun _ _ h h' => ⟨h, h'⟩) fun _ _ => rfl
  · exact runs_ask_between hacting hflushing (fun _ _ h h' => ⟨h, h'⟩) fun _ _ => rfl

/-! ### Requests -/

/-- When an outermost call begins no state is being flushed. -/
theorem Part.opened (h : Part world history world' history') (hflushing : history.flushing = []) :
  Part { world with acting := true } history { world' with acting := true } history'
  := by
  refine ⟨h.continues, ⟨?_, rfl, fun hne => (hne hflushing).elim, h.carried.owed_eq⟩, h.level⟩
  intro hne
  rw [flushing_continued h.continues] at hne
  cases hne hflushing

/-- An outermost call that ends has been a part of a call. -/
theorem Part.closed (h : Part { world with acting := true } history world' history')
    (hacting : world.acting = false) (hflushing : history.flushing = []) :
  Part world history { world' with acting := false } history'
  := by
  refine ⟨h.continues, ⟨?_, hacting.symm, fun hne => (hne hflushing).elim, h.carried.owed_eq⟩,
    h.level⟩
  intro hne
  rw [flushing_continued h.continues] at hne
  cases hne hflushing

/-- An ordinary request is a part of a call. -/
theorem runs_ordinary_part {request : Request K} (hordinary : request.Ordinary)
    (hcovered : Covered world history) :
  (cleanupContract.judgement (Part world history)).runs
    (serveRequest request : Engine S C K M ε (request.Answer S C))
  := by
  have hqueues : Queues (cleanupContract : Contract (Call S C K) Call.Answer (World S C K M))
      (Part world history) ε := queues_part
  cases hacting : world.acting with
  | true =>
    apply hqueues.serveRequest hqueues _ (runs_flush_part hacting) _ hordinary
    · intro program
      apply runs_act_of_acting
      intro world' history' hpart
      rw [hpart.carried.acting_eq, hacting]
    · intro token
      exact runs_ask_part trivial
  | false =>
    have hflushing := hcovered.flushing_eq hacting
    have hinner : Queues (cleanupContract : Contract (Call S C K) Call.Answer (World S C K M))
        (Part { world with acting := true } history) ε := queues_part
    apply hqueues.serveRequest hinner _ (runs_flush_part rfl) _ hordinary
    · intro program
      apply runs_act_of_idle
      · intro world' history' hpart
        rw [hpart.carried.acting_eq, hacting]
      · intro world' history' hpart
        apply hpart.opened hflushing
      · intro world' history' world'' history'' _ _ hinner
        apply hinner.closed hacting hflushing
      · apply runs_ask_between rfl hflushing
        · intro world' history' hacting' hflushing'
          exact ⟨hacting', hflushing'⟩
        · intro token answer
          rfl
    · intro token
      exact runs_ask_part trivial

/-- The stored cleanups run, and are no longer stored. -/
theorem ensures_runExit_carried
    (hopen : Moment.openCalls history ≠ []) (hcovered : Covered { world with exit := none } history) :
  cleanupContract.Ensures (runExit : Engine S C K M ε Unit)
    (fun _ world' history' =>
      Carried (fun token => -(stored world.exit).count token) { world with exit := none } history
        world' history')
    world history
  := by
  simp only [runExit, Contract.ensures_bind, Contract.ensures_world]
  cases hexit : world.exit with
  | none =>
    have hsame : { world with exit := none } = world := by rw [← hexit]
    rw [hsame] at hcovered ⊢
    exact Carried.refl hcovered
  | some cleanup =>
    simp only [Contract.ensures_bind, Contract.ensures_update]
    refine ⟨⟨fun hnone => (hopen hnone).elim, hcovered, hopen⟩, ?_⟩
    intro _ world' history' _ hcarried
    exact hcarried

/-- A part of a call may run the stored cleanups. -/
theorem runs_runExit_part (hopen : Moment.openCalls history ≠ []) :
  (cleanupContract.judgement (Part world history)).runs (runExit : Engine S C K M ε Unit)
  := by
  intro world' history' hpart
  have hopen' : Moment.openCalls history' ≠ [] := by rwa [hpart.continues.openCalls_eq]
  have hcovered : Covered { world' with exit := none } history' := by
    intro hne
    obtain ⟨hacting, hentered, -⟩ := hpart.carried.covered hne
    exact ⟨hacting, hentered, rfl⟩
  apply (ensures_runExit_carried hopen' hcovered).mono
  intro _ world'' history'' hcontinues hcarried
  refine ⟨trivial, hpart.next hcontinues ⟨hcarried.covered, hcarried.acting_eq, ?_, ?_⟩⟩
  · intro hne
    have hheld := hcarried.held hne
    have hnone := (hpart.carried.covered hne).2.2
    exact ⟨hheld.acting_eq, hheld.state_eq, hheld.epoch_eq, hheld.entered_eq,
      hheld.exit_eq.trans hnone.symm⟩
  · intro token
    rw [hcarried.owed_eq, owed_exit_none]
    omega

/-- A request in turn is a part of a call. -/
theorem runs_serveRequest_part {request : Request K} (hinturn : request.InTurn)
    (hopen : Moment.openCalls history ≠ []) (hcovered : Covered world history) :
  (cleanupContract.judgement (Part world history)).runs
    (serveRequest request : Engine S C K M ε (request.Answer S C))
  := by
  cases request with
  | stop =>
    apply Judgement.runs_bind
    · apply Contract.runs_update
      intro world' history' hpart
      exact hpart.of_held ⟨rfl, rfl, rfl, rfl, rfl⟩
    · intro _
      apply Judgement.runs_bind (runs_runExit_part hopen)
      intro _
      apply Contract.runs_update
      intro world' history' hpart
      exact hpart.of_held ⟨rfl, rfl, rfl, rfl, rfl⟩
  | drain | flush => cases hinturn
  | _ => exact runs_ordinary_part trivial hcovered

/-! ### Bodies -/

/-- A call is carried out when its body and the moments at which it is made and answered add up to
its credit. -/
theorem carriesOut_of_carried {call : Call S C K} (inside : call.Answer → K → Int)
    (hflushes : call.flushes? = none) {body : Engine S C K M ε call.Answer}
    (hbody : Covered world (.called call world :: history) →
      cleanupContract.Ensures body
        (fun answer world' history' =>
          Carried (inside answer) world (.called call world :: history) world' history')
        world (.called call world :: history))
    (hcredit : ∀ token answer (world' : World S C K M), call.credit token answer
      = owedAt token (.called call world) + inside answer token
        + owedAt token (.answered call answer world'))
    (hlevel : Level world history) (hcovered : Covered world history)
    (hopen : Moment.openCalls history = [] → ∀ token answer, call.credit token answer = 0) :
  cleanupContract.CarriesOut Level call body
    (cleanupContract.post call world history) world history
  := by
  have hflushing : History.flushing (.called call world :: history) = history.flushing :=
    flushing_called hflushes world
  have hcalled : Covered world (.called call world :: history) := by
    rw [Covered, hflushing]
    apply hcovered
  constructor
  · rintro ⟨⟩
  apply (hbody hcalled).mono
  intro answer world' history' _ hinside hcontinues
  have hanswered : History.flushing (.answered call answer world' :: history') = history.flushing :=
    flushing_continued (hcontinues.answered answer world')
  have hcarried : Carried (fun token => call.credit token answer) world history world'
      (.answered call answer world' :: history') := by
    constructor
    · have hbefore := hinside.covered
      rw [Covered, flushing_continued hcontinues, hflushing] at hbefore
      rw [Covered, hanswered]
      apply hbefore
    · apply hinside.acting_eq
    · rw [← hflushing]
      apply hinside.held
    · intro token
      rw [owed_cons, hinside.owed_eq, owed_cons, hcredit token answer world']
      omega
  refine ⟨?_, hcarried⟩
  apply hlevel.carried (hcontinues.answered answer world') hcarried
  intro hnone token
  apply hopen hnone

/-- So is a call whose body is a part of it. -/
theorem carriesOut_of_part {call : Call S C K} (hflushes : call.flushes? = none)
    {body : Engine S C K M ε call.Answer}
    (hbody : Covered world (.called call world :: history) →
      (cleanupContract.judgement (Part world (.called call world :: history))).runs body)
    (hcredit : ∀ token answer (world' : World S C K M), call.credit token answer
      = owedAt token (.called call world) + owedAt token (.answered call answer world'))
    (hlevel : Level world history) (hcovered : Covered world history)
    (hopen : Moment.openCalls history = [] → ∀ token answer, call.credit token answer = 0) :
  cleanupContract.CarriesOut Level call body
    (cleanupContract.post call world history) world history
  := by
  apply carriesOut_of_carried (fun _ _ => 0) hflushes _ _ hlevel hcovered hopen
  · intro hcalled
    have hstart : Part world (.called call world :: history) world
        (.called call world :: history) := part_refl (by rintro ⟨⟩) hcalled
    apply (hbody hcalled _ _ hstart).mono
    rintro answer world' history' - ⟨-, hpart⟩
    exact hpart.carried
  · intro token answer world'
    rw [hcredit token answer world']
    omega

/-- A call that an outermost call makes between two flushes, and that begins none. -/
def Call.Between : Call S C K → Prop
  | .settle => True
  | .drain => True
  | .apply _ => True
  | _ => False

/-- Such a call is carried out when its body is a part of it. -/
theorem carriesOut_between {call : Call S C K} (hbetween : call.Between)
    {body : Engine S C K M ε call.Answer}
    (hbody : ∀ history : History S C K M, history.flushing = [] →
      (cleanupContract.judgement (Part world history)).runs body)
    (hlevel : Level world history) (hflushing : history.flushing = []) :
  cleanupContract.CarriesOut Level call body
    (cleanupContract.post call world history) world history
  := by
  have hcovered : Covered world history := fun hne => (hne hflushing).elim
  cases call with
  | settle | drain | apply =>
    apply carriesOut_of_part rfl _ (fun _ _ _ => rfl) hlevel hcovered fun _ _ _ => rfl
    intro _
    apply hbody
    apply hflushing
  | _ => cases hbetween

/-- Cleanups run in order. -/
theorem ensures_runExits_carried {params : EffectParams C} (exits : List K)
    (hcovered : Covered world history) (hopen : Moment.openCalls history ≠ []) :
  cleanupContract.Ensures (effectHost.runExits params exits : Engine S C K M ε Unit)
    (fun _ world' history' =>
      Carried (fun token => -exits.count token) world history world' history')
    world history
  := by
  induction exits generalizing world history with
  | nil => exact Carried.refl hcovered
  | cons exit rest ih =>
    simp only [EffectHost.runExits, Contract.ensures_bind]
    refine ⟨⟨fun hnone => (hopen hnone).elim, hcovered, hopen⟩, ?_⟩
    intro _ world' history' hcontinues hcarried
    have hcarried : Carried (fun token => -[exit].count token) world history world' history' :=
      hcarried
    have hopen' : Moment.openCalls history' ≠ [] := by rwa [hcontinues.openCalls_eq]
    apply (ih hcarried.covered hopen').mono
    intro _ world'' history'' _ hcarried'
    have hboth := hcarried.trans hcontinues hcarried'
    refine ⟨hboth.covered, hboth.acting_eq, hboth.held, ?_⟩
    intro token
    have hcount : (exit :: rest).count token = [exit].count token + rest.count token := by
      rw [← List.singleton_append, List.count_append]
    rw [hboth.owed_eq, hcount]
    omega

/-- The cleanups of a state are run when it is left. -/
theorem ensures_leave_carried {cleanup : EffectCleanup K} {event : Event} {context : C}
    (hcovered : Covered world history) (hopen : Moment.openCalls history ≠ []) :
  cleanupContract.Ensures (effectHost.leave cleanup event context : Engine S C K M ε Unit)
    (fun _ world' history' =>
      Carried (fun token => -cleanup.exits.count token) world history world' history')
    world history
  := by
  have hunlocked : Covered
      { world with locks := world.locks.setLocked cleanup.handle.lock false } history := hcovered
  simp only [EffectHost.leave, effectHost, Contract.ensures_bind, Contract.ensures_update]
  apply (ensures_runExits_carried cleanup.exits hunlocked hopen).mono
  intro _ world' history' _ hcarried
  refine ⟨hcarried.covered, hcarried.acting_eq, ?_, hcarried.owed_eq⟩
  intro hne
  have hheld := hcarried.held hne
  exact ⟨hheld.acting_eq, hheld.state_eq, hheld.epoch_eq, hheld.entered_eq, hheld.exit_eq⟩

/-- A flush runs the stored cleanups, and stores those that its effects return. -/
theorem carriesOut_renew_carried {state : MachineState S C} (hlevel : Level world history)
    (hacting : world.acting = true) (hflushing : history.flushing = [])
    (hentered : world.entered = some world.key) :
  cleanupContract.CarriesOut Level (.renew state) (renew state : Engine S C K M ε Unit)
    (cleanupContract.post (.renew state) world history) world history
  := by
  have hopen : Moment.openCalls (.called (.renew state) world :: history) ≠ [] := by rintro ⟨⟩
  have hsome : History.flushing (.called (.renew state) world :: history) ≠ [] := by rintro ⟨⟩
  constructor
  · intro hnone
    cases hopen hnone
  simp only [renew, Contract.ensures_bind]
  apply (ensures_runExit_carried hopen fun _ => ⟨hacting, hentered, rfl⟩).mono
  intro _ world₁ history₁ hcontinues₁ hleft
  have hsome₁ : History.flushing history₁ ≠ [] := by rwa [flushing_continued hcontinues₁]
  refine ⟨⟨?_, hleft.covered, hsome₁⟩, ?_⟩
  · intro hnone
    rw [hcontinues₁.openCalls_eq] at hnone
    cases hopen hnone
  intro exit world₂ history₂ hcontinues₂ hentering hcontinues
  have hentering : Carried (fun token => (stored exit).count token) world₁ history₁ world₂
      history₂ := hentering
  have hexit : world₂.exit = none := by
    rw [(hentering.held hsome₁).exit_eq]
    apply (hleft.covered hsome₁).2.2
  have hanswered : History.flushing
      (.answered (.renew state) () { world₂ with exit } :: history₂) = [] := by
    rw [flushing_continued (hcontinues.answered _ _), hflushing]
  have hcarried : Carried (fun _ => 0) world history { world₂ with exit }
      (.answered (.renew state) () { world₂ with exit } :: history₂) := by
    constructor
    · intro hne
      cases hne hanswered
    · exact hentering.acting_eq.trans hleft.acting_eq
    · intro hne
      cases hne hflushing
    · intro token
      have hleft := hleft.owed_eq token
      have hentering := hentering.owed_eq token
      have hstored : owed token { world₂ with exit } history₂
          = owed token world₂ history₂ - (stored exit).count token := by
        simp only [owed, hexit, stored, List.count_nil]
        omega
      have hbegin : owedAt token (.called (.renew state) world) = 0 := rfl
      have hend : owedAt token (.answered (.renew state) () { world₂ with exit }) = 0 := rfl
      rw [owed_exit_none, owed_cons, hbegin] at hleft
      rw [owed_cons, hend, hstored]
      omega
  exact ⟨hlevel.carried (hcontinues.answered _ _) hcarried fun _ _ => rfl, hcarried⟩

variable [StateValue S] [Context C] {machine : Machine S C K} {client : Client S C K M ε}

/-- The effects run in order, and the cleanups that they return are owed. -/
theorem ensures_runEffects_carried {config : Config K} {state : MachineState S C} {handle : Handle}
    (names : List String) (hcovered : Covered world history)
    (hopen : Moment.openCalls history ≠ []) :
  cleanupContract.Ensures
    (effectHost.runEffects config state handle names : Engine S C K M ε (List K))
    (fun exits world' history' =>
      Carried (fun token => exits.count token) world history world' history')
    world history
  := by
  induction names generalizing world history with
  | nil => exact Carried.refl hcovered
  | cons name rest ih =>
    rw [EffectHost.runEffects]
    cases config.effect? name with
    | none =>
      simp only [Contract.ensures_bind]
      refine ⟨⟨fun hnone => (hopen hnone).elim, hcovered⟩, ?_⟩
      intro _ world' history' hcontinues hcarried
      have hcarried : Carried (fun _ => 0) world history world' history' := hcarried
      have hopen' : Moment.openCalls history' ≠ [] := by rwa [hcontinues.openCalls_eq]
      apply (ih hcarried.covered hopen').mono
      intro exits world'' history'' _ hcarried'
      simpa using hcarried.trans hcontinues hcarried'
    | some token =>
      simp only [Contract.ensures_bind]
      refine ⟨⟨fun hnone => (hopen hnone).elim, hcovered, hopen⟩, ?_⟩
      intro exit world' history' hcontinues hcarried
      have hcarried : Carried (fun token => exit.toList.count token) world history world'
          history' := hcarried
      have hopen' : Moment.openCalls history' ≠ [] := by rwa [hcontinues.openCalls_eq]
      apply Contract.ensures_bind _ _ |>.mpr
      apply (ih hcarried.covered hopen').mono
      intro exits world'' history'' _ hcarried'
      have hboth := hcarried.trans hcontinues hcarried'
      refine ⟨hboth.covered, hboth.acting_eq, hboth.held, ?_⟩
      intro token
      rw [hboth.owed_eq, List.count_append]
      omega

/-- The effects of a state are run when it is entered. -/
theorem ensures_enter_carried {state : MachineState S C} (hcovered : Covered world history)
    (hopen : Moment.openCalls history ≠ []) :
  cleanupContract.Ensures
    (effectHost.enter machine.definition machine.config state true :
      Engine S C K M ε (Option (EffectCleanup K)))
    (fun exit world' history' =>
      Carried (fun token => (stored exit).count token) world history world' history')
    world history
  := by
  rw [EffectHost.enter]
  split
  · exact Carried.refl hcovered
  · exact Carried.refl hcovered
  · next names _ _ =>
    have hunlocked : Covered { world with locks := world.locks.add } history := hcovered
    simp only [effectHost, Contract.ensures_bind, Contract.ensures_world, Contract.ensures_update,
      Contract.ensures_pure]
    apply (ensures_runEffects_carried names hunlocked hopen).mono
    intro exits world' history' _ hcarried
    refine ⟨hcarried.covered, hcarried.acting_eq, ?_, hcarried.owed_eq⟩
    intro hne
    have hheld := hcarried.held hne
    exact ⟨hheld.acting_eq, hheld.state_eq, hheld.epoch_eq, hheld.entered_eq, hheld.exit_eq⟩

/-- An action is applied between two flushes. -/
theorem runs_apply_between (hflushing : history.flushing = []) (action : Action K) :
  (cleanupContract.judgement (Part world history)).runs
    (apply machine action : Engine S C K M ε Unit)
  := by
  have hchange : ∀ (change : World S C K M → World S C K M),
      (∀ world, (change world).acting = world.acting ∧ (change world).exit = world.exit) →
        (cleanupContract.judgement (Part world history)).runs
          (Program.update change : Engine S C K M ε Unit) := by
    intro change hsame
    apply Contract.runs_update
    intro world' history' hpart
    apply hpart.next (Moment.Continues.refl history')
    apply (Carried.refl hpart.carried.covered).of_exit _ (Moment.Continues.refl history')
      (hsame world').1 (hsame world').2
    rw [flushing_continued hpart.continues, hflushing]
  apply Judgement.runs_bind Contract.runs_world
  intro current
  apply Judgement.runs_bind
  · apply StepHost.runs_step
    · intro token event context
      exact runs_ask_part trivial
    · intro token context
      exact runs_ask_part trivial
    · intro report
      exact runs_ask_part trivial
  · intro outcome
    split
    · apply Judgement.runs_pure
    · exact hchange _ fun _ => ⟨rfl, rfl⟩
    · exact hchange _ fun _ => ⟨rfl, rfl⟩

omit [StateValue S] [Context C] in
/-- The cleanups of the state that is left are no longer owed. -/
theorem carriesOut_leave_carried {cleanup : EffectCleanup K} {event : Event} {context : C}
    (hlevel : Level world history) (hcovered : Covered world history)
    (hopen : Moment.openCalls history ≠ []) :
  cleanupContract.CarriesOut Level (.leave cleanup event context)
    (effectHost.leave cleanup event context : Engine S C K M ε Unit)
    (cleanupContract.post (.leave cleanup event context) world history) world history
  := by
  apply carriesOut_of_carried (fun _ token => -cleanup.exits.count token) rfl _ _ hlevel hcovered
  · intro hnone
    cases hopen hnone
  · intro hcalled
    apply ensures_leave_carried hcalled
    rintro ⟨⟩
  · intro token _ world'
    exact (Int.zero_add _).symm.trans (Int.add_zero _).symm

/-- The cleanups that the effects of a state return are owed. -/
theorem carriesOut_enter_carried {state : MachineState S C} (hlevel : Level world history)
    (hcovered : Covered world history) (hflushing : history.flushing ≠ []) :
  cleanupContract.CarriesOut Level (.enter state)
    (effectHost.enter machine.definition machine.config state true :
      Engine S C K M ε (Option (EffectCleanup K)))
    (cleanupContract.post (.enter state) world history) world history
  := by
  apply carriesOut_of_carried (fun exit token => (stored exit).count token) rfl _ _ hlevel hcovered
  · intro hnone
    exact (hflushing (by rw [History.flushing, hnone]; rfl)).elim
  · intro hcalled
    apply ensures_enter_carried hcalled
    rintro ⟨⟩
  · intro token _ world'
    exact (Int.zero_add _).symm.trans (Int.add_zero _).symm

section Client

variable (hclient : client.Asks Request.InTurn)

include hclient

/-- The cleanup that an effect returns is owed. -/
theorem carriesOut_effect_carried {token : K} {params : EffectParams C}
    (hlevel : Level world history) (hcovered : Covered world history)
    (hopen : Moment.openCalls history ≠ []) :
  cleanupContract.CarriesOut Level (.effect token params)
    (body machine client (.effect token params))
    (cleanupContract.post (.effect token params) world history) world history
  := by
  apply carriesOut_of_part rfl _ _ hlevel hcovered
  · intro hnone
    cases hopen hnone
  · intro _
    apply runs_ofCode_part (hclient.effect token params)
  · intro token' exit world'
    simp [Call.credit, owedAt, returnedAt, ranAt]

/-- A cleanup that has been run is no longer owed. -/
theorem carriesOut_cleanup_carried {token : K} {params : EffectParams C}
    (hlevel : Level world history) (hcovered : Covered world history)
    (hopen : Moment.openCalls history ≠ []) :
  cleanupContract.CarriesOut Level (.cleanup token params)
    (body machine client (.cleanup token params))
    (cleanupContract.post (.cleanup token params) world history) world history
  := by
  apply carriesOut_of_part rfl _ _ hlevel hcovered
  · intro hnone
    cases hopen hnone
  · intro _
    apply runs_ofCode_part (hclient.cleanup token params)
  · intro token' _ world'
    simp [Call.credit, owedAt, returnedAt, ranAt]

/-- The body of a minor call is a part of it. -/
theorem runs_body_part {call : Call S C K} (hminor : call.Minor)
    (hopen : Moment.openCalls history ≠ []) (hcovered : Covered world history) :
  (cleanupContract.judgement (Part world history)).runs (body machine client call)
  := by
  cases call with
  | request request => apply runs_serveRequest_part hminor hopen hcovered
  | push action =>
    apply Contract.runs_update
    intro world' history' hpart
    exact hpart.of_held ⟨rfl, rfl, rfl, rfl, rfl⟩
  | guard token event context => apply runs_ofCode_part (hclient.guard token event context)
  | reduce token context => apply runs_ofCode_part (hclient.reduce token context)
  | callback token => apply runs_ofCode_part (hclient.callback token)
  | report report => apply Judgement.runs_pure
  | _ => cases hminor

/-- A minor call changes nothing of what is owed. -/
theorem carriesOut_minor {call : Call S C K} (hminor : call.Minor) (hlevel : Level world history)
    (hcovered : Covered world history) :
  cleanupContract.CarriesOut Level call (body machine client call)
    (cleanupContract.post call world history) world history
  := by
  have hbody (hcalled : Covered world (.called call world :: history)) :
      (cleanupContract.judgement (Part world (.called call world :: history))).runs
        (body machine client call) := by
    apply runs_body_part hclient hminor _ hcalled
    rintro ⟨⟩
  cases call with
  | request | push | guard | reduce | callback | report =>
    exact carriesOut_of_part rfl hbody (fun _ _ _ => rfl) hlevel hcovered fun _ _ _ => rfl
  | _ => cases hminor

/-- Every body adds its credit to what is owed. -/
theorem fulfils_cleanupContract :
  cleanupContract.Fulfils Level (body machine client)
  := by
  rintro call world history ⟨hlevel, hallowed⟩
  cases call with
  | settle =>
    apply carriesOut_between (by trivial) _ hlevel hallowed.2
    intro history hflushing
    apply runs_settle_between hallowed.1 hflushing
  | drain =>
    apply carriesOut_between (by trivial) _ hlevel hallowed.2
    intro history hflushing
    apply runs_drain_between hallowed.1 hflushing
  | apply action =>
    apply carriesOut_between (by trivial) _ hlevel hallowed.2
    intro history hflushing
    apply runs_apply_between hflushing
  | renew state =>
    obtain ⟨hacting, hflushing, hentered⟩ := hallowed
    apply carriesOut_renew_carried hlevel hacting hflushing hentered
  | leave cleanup event context =>
    apply carriesOut_leave_carried hlevel hallowed.1 hallowed.2
  | enter state => apply carriesOut_enter_carried hlevel hallowed.1 hallowed.2
  | effect token params => apply carriesOut_effect_carried hclient hlevel hallowed.1 hallowed.2
  | cleanup token params => apply carriesOut_cleanup_carried hclient hlevel hallowed.1 hallowed.2
  | request request =>
    have hminor : (Call.request request : Call S C K).Minor := hallowed.1
    apply carriesOut_minor hclient hminor hlevel hallowed.2
  | push | guard | reduce | callback | report =>
    apply carriesOut_minor hclient _ hlevel hallowed
    trivial

end Client

/-- In every run in which nobody drains or flushes out of turn, whenever no call is open, every
cleanup that an effect returned was run once or is stored. -/
theorem cleanups_kept (machine : Machine S C K) (hclient : client.Asks Request.InTurn)
    {code : Code S C K M ε α} (hcode : code.Asks Request.InTurn) (memory : M) (depth : Nat) :
  (Synced.run machine client depth code (World.initial machine.initialState memory)).Reaches
    KeepsCleanups fun _ => KeepsCleanups
  := by
  have hstart : Part (World.initial machine.initialState memory : World S C K M) []
      (World.initial machine.initialState memory) [] := by
    apply part_refl
    · intro _ token
      rfl
    · intro hne
      cases hne rfl
  have hbody : cleanupContract.Fulfils Level (body machine client) :=
    fulfils_cleanupContract hclient
  apply (Contract.reaches_run hbody (runs_ofCode_part hcode) hstart depth).mono
  · intro world history hlevel
    apply hlevel.keeps
  · rintro result world history ⟨-, -, hpart⟩
    apply hpart.level.keeps

end GuardedMachine.Synced
