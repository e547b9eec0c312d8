import GuardedMachine.Proofs.Synced.Locking

/-!
# Locks are kept

Every body of a synchronous machine keeps its locks latched, so the lock of a handle is open exactly
while the effects or the cleanups of its entry are being run.  Nothing is asked of the callbacks.
-/

namespace GuardedMachine.Synced

variable {S C K M ε α : Type} {world world' world'' : World S C K M}
  {history history' history'' : History S C K M} {lock : Nat}
  {outer : List (Call S C K × World S C K M)}

/-! ### The contract -/

/-- The cleanups that a call is answered by may be stored. -/
def Returned : (call : Call S C K) → call.Answer → World S C K M → History S C K M → Prop
  | .enter _, some left, world, history => Storable left world history
  | _, _, _, _ => True

/-- Locks are latched whenever a call is made, and again when it is answered. -/
def lockContract : Contract (Call S C K) Call.Answer (World S C K M) where
  pre call world history := Latched world history ∧ Fitting call world history
  post call _ history answer world' history' :=
    Latched world' history' ∧ Moment.opened history' = Moment.opened history
      ∧ Returned call answer world' history'

/-- What a part of a call keeps, from its beginning. -/
structure Latching (history : History S C K M) (world' : World S C K M)
    (history' : History S C K M) : Prop where
  opened_eq : Moment.opened history' = Moment.opened history
  latched : Latched world' history'

/-- What the locks do not depend on may change. -/
theorem Latching.of_world (h : Latching history world' history')
    (hlocks : world''.locks = world'.locks) (hexit : world''.exit = world'.exit) :
  Latching history world'' history'
  where
  opened_eq := h.opened_eq
  latched := by
    apply h.latched.of_world hlocks
    rw [hexit]
    apply h.latched.exit

/-! ### Parts of a call -/

/-- A call that may be made is a part of a call. -/
theorem runs_ask_latching {call : Call S C K}
    (hfitting : ∀ world' history', Latching history world' history' →
      Fitting call world' history') :
  (lockContract.judgement (Latching history)).runs (ask call : Engine S C K M ε call.Answer)
  := by
  intro world' history' hlatching
  use ⟨hlatching.latched, hfitting _ _ hlatching⟩
  rintro answer world'' history'' hcontinues ⟨hlatched, hopened, -⟩
  exact ⟨trivial, hopened.trans hlatching.opened_eq, hlatched⟩

/-- The programs of a client are parts of a call. -/
theorem runs_ofCode_latching (code : Code S C K M ε α) :
  (lockContract.judgement (Latching history)).runs (ofCode code)
  := by
  apply runs_ofCode _ _ (Program.asks_true code)
  · intro world' history' memory hlatching
    exact hlatching.of_world rfl rfl
  · intro request _
    exact runs_ask_latching fun _ _ _ => trivial

theorem queues_latching :
  Queues (lockContract : Contract (Call S C K) Call.Answer (World S C K M)) (Latching history) ε
  where
  mounted _ _ _ h := h.of_world rfl rfl
  push _ := runs_ask_latching fun _ _ _ => trivial
  report _ _ := runs_ask_latching fun _ _ _ => trivial

/-- Whether an outermost call is running does not matter. -/
theorem runs_act_latching {program : Engine S C K M ε Unit}
    (h : (lockContract.judgement (Latching history)).runs program) :
  (lockContract.judgement (Latching history)).runs (act program)
  := by
  have hacting (acting : Bool) : (lockContract.judgement (Latching history)).runs
      (Program.update fun world => { world with acting } : Engine S C K M ε Unit) := by
    apply Contract.runs_update
    intro world' history' hlatching
    exact hlatching.of_world rfl rfl
  have hsettle : (lockContract.judgement (Latching history)).runs
      (ask .settle : Engine S C K M ε Unit) := runs_ask_latching fun _ _ _ => trivial
  apply Judgement.runs_bind Contract.runs_world
  intro world
  split
  · apply h
  · apply Judgement.runs_bind (hacting true)
    intro _
    apply Judgement.runs_bind h
    intro _
    apply Judgement.runs_bind hsettle
    intro _
    apply hacting false

/-- The stored cleanups may be run, and are then no longer stored. -/
theorem runs_runExit_latching :
  (lockContract.judgement (Latching history)).runs (runExit : Engine S C K M ε Unit)
  := by
  intro world' history' hlatching
  simp only [runExit, Contract.ensures_bind, Contract.ensures_world]
  cases hexit : world'.exit with
  | none => exact ⟨trivial, hlatching⟩
  | some left =>
    simp only [Contract.ensures_bind, Contract.ensures_update]
    have hstorable := hlatching.latched.exit left hexit
    have hnone : Latched { world' with exit := none } history' :=
      hlatching.latched.of_world rfl (by rintro _ ⟨⟩)
    constructor
    · use hnone
      exact ⟨hstorable.of_locks rfl, rfl⟩
    · rintro _ world'' history'' - ⟨hlatched, hopened, -⟩
      exact ⟨trivial, hopened.trans hlatching.opened_eq, hlatched⟩

/-- The cleanups of the state that is left run, and those of the one that is entered are stored. -/
theorem runs_renew_latching (state : MachineState S C) :
  (lockContract.judgement (Latching history)).runs (renew state : Engine S C K M ε Unit)
  := by
  apply Judgement.runs_bind runs_runExit_latching
  intro _ world' history' hlatching
  simp only [Contract.ensures_bind]
  use ⟨hlatching.latched, trivial⟩
  rintro exit world'' history'' - ⟨hlatched, hopened, hreturned⟩
  refine ⟨trivial, hopened.trans hlatching.opened_eq, hlatched.of_world rfl ?_⟩
  rintro left rfl
  exact hreturned.of_locks rfl

/-- The queue may be drained. -/
theorem runs_drain_latching :
  (lockContract.judgement (Latching history)).runs (drain : Engine S C K M ε Nat)
  := by
  apply runs_drain
  · intro world' history' queue hlatching
    exact hlatching.of_world rfl rfl
  · intro action
    exact runs_ask_latching fun _ _ _ => trivial
  · exact runs_ask_latching fun _ _ _ => trivial

/-! ### Entering and leaving -/

/-- An entry that makes no lock returns no cleanups. -/
theorem Latched.entered_none (h : Latched world history) (state : MachineState S C)
    (answered : World S C K M) :
  Latched world
    (.answered (.enter state) none answered :: .called (.enter state) world :: history)
  := by
  apply h.later
  · apply (List.suffix_cons _ history).trans (List.suffix_cons _ _)
  · intro lock
    rfl
  · apply h.handles_lt

/-- The effects of an entry may be run with the lock that was made for it. -/
theorem runs_runEffects_latching [StateValue S] [Context C] {config : Config K}
    {state : MachineState S C} {handle : Handle} (hlock : handle.lock = world.locks.next)
    (names : List String) :
  (lockContract.judgement (Latching (.called (.enter state) world :: history))).runs
    (effectHost.runEffects config state handle names : Engine S C K M ε (List K))
  := by
  apply EffectHost.runs_runEffects_with
  · intro token params hhandle
    apply runs_ask_latching
    intro world' history' hlatching
    use state, world, Moment.opened history, hlatching.opened_eq
    rw [hhandle, hlock]
  · intro _ _ _ _
    exact runs_ask_latching fun _ _ _ => trivial

/-- The lock of an entry is made, its effects are run with it, and it is closed. -/
theorem ensures_enter_latching [DecidableEq S] [StateValue S] [Context C] (machine : Machine S C K)
    {state : MachineState S C} (h : Latched world history) :
  lockContract.Ensures
    (effectHost.enter machine.definition machine.config state true :
      Engine S C K M ε (Option (EffectCleanup K)))
    (fun exit world' history' => ∀ answered,
      Moment.opened history' = (.enter state, world) :: Moment.opened history
        ∧ Latched world' (.answered (.enter state) exit answered :: history')
        ∧ ∀ left, exit = some left → left.handle.lock = world.locks.next ∧ left.sync = true
          ∧ left.handle.lock < world'.locks.next)
    world (.called (.enter state) world :: history)
  := by
  rw [EffectHost.enter]
  split
  · intro answered
    refine ⟨rfl, h.entered_none state answered, ?_⟩
    rintro left ⟨⟩
  · intro answered
    refine ⟨rfl, h.entered_none state answered, ?_⟩
    rintro left ⟨⟩
  · next names _ _ =>
    simp only [effectHost, Contract.ensures_bind, Contract.ensures_world, Contract.ensures_update,
      Contract.ensures_pure]
    have hstart : Latching (.called (.enter state) world :: history)
        { world with locks := world.locks.add } (.called (.enter state) world :: history) :=
      ⟨rfl, h.made state⟩
    apply (runs_runEffects_latching rfl names _ _ hstart).mono
    rintro exits world' history' - ⟨-, hlatching⟩ answered
    have hlt : world.locks.next < world'.locks.next := by
      apply hlatching.latched.running_lt
      rw [hlatching.opened_eq, Moment.opened, running_cons]
      left
      rfl
    refine ⟨hlatching.opened_eq, ?_, ?_⟩
    · apply hlatching.latched.closed hlatching.opened_eq rfl
      intro hrunning
      cases Nat.lt_irrefl _ (h.running_lt _ hrunning)
    · rintro _ ⟨⟩
      refine ⟨rfl, rfl, ?_⟩
      rw [Locks.next_setLocked]
      apply hlt

/-- The lock of cleanups is opened, they are run with it, and it is closed. -/
theorem ensures_leave_latching {left : EffectCleanup K} {event : Event} {context : C}
    (h : Latched world history) (hstorable : Storable left world history)
    (hexit : world.exit = none) :
  lockContract.Ensures (effectHost.leave left event context : Engine S C K M ε Unit)
    (fun _ world' history' => ∀ answered,
      Moment.opened history' = (.leave left event context, world) :: Moment.opened history
        ∧ Latched world' (.answered (.leave left event context) () answered :: history'))
    world (.called (.leave left event context) world :: history)
  := by
  have hstart : Latching (.called (.leave left event context) world :: history)
      { world with locks := world.locks.setLocked left.handle.lock false }
      (.called (.leave left event context) world :: history) :=
    ⟨rfl, h.unlocked hstorable hexit event context⟩
  have hexits : (lockContract.judgement
      (Latching (.called (.leave left event context) world :: history))).runs
        (effectHost.runExits { event, context, handle := left.handle } left.exits :
          Engine S C K M ε Unit) := by
    apply EffectHost.runs_runExits
    intro token
    apply runs_ask_latching
    intro world' history' hlatching
    use left, event, context, world, Moment.opened history, hlatching.opened_eq
  simp only [EffectHost.leave, effectHost, Contract.ensures_bind, Contract.ensures_update]
  apply (hexits _ _ hstart).mono
  rintro _ world' history' - ⟨-, hlatching⟩ answered
  rw [hstorable.sync_eq]
  use hlatching.opened_eq
  exact hlatching.latched.closed hlatching.opened_eq rfl hstorable.not_running () answered

/-! ### Bodies -/

/-- A call that runs neither effects nor cleanups is carried out by a part of a call. -/
theorem carriesOut_of_latching {call : Call S C K} (hcall : call.lock? world = none)
    {body : Engine S C K M ε call.Answer}
    (hbody : ∀ history : History S C K M, (lockContract.judgement (Latching history)).runs body)
    (h : Latched world history) (hfitting : Fitting call world history) :
  lockContract.CarriesOut LockSafe call body (lockContract.post call world history) world history
  := by
  have henter : ∀ state, call ≠ .enter state := by
    rintro state rfl
    cases hcall
  have hcalled := h.called hcall (h.handles_lt_called hfitting)
  use h.safe_called hfitting
  apply (hbody _ _ _ ⟨rfl, hcalled⟩).mono
  rintro answer world' history' - ⟨-, hlatching⟩ -
  have hlatched : Latched world' (.answered call answer world' :: history') :=
    hlatching.latched.answered hlatching.opened_eq hcall answer world'
  constructor
  · apply hlatched.safe_answered
    intro state left later heq
    cases (List.cons.inj heq).1
    cases henter state rfl
  · use hlatched
    constructor
    · rw [Moment.opened, hlatching.opened_eq]
      rfl
    · cases call with
      | enter state => cases henter state rfl
      | _ => trivial

/-- The cleanups of an entry run with its lock. -/
theorem carriesOut_leave_latching {left : EffectCleanup K} {event : Event} {context : C}
    (h : Latched world history) (hfitting : Fitting (.leave left event context) world history) :
  lockContract.CarriesOut LockSafe (.leave left event context)
    (effectHost.leave left event context : Engine S C K M ε Unit)
    (lockContract.post (.leave left event context) world history) world history
  := by
  obtain ⟨hstorable, hexit⟩ := hfitting
  use h.safe_called ⟨hstorable, hexit⟩
  apply (ensures_leave_latching h hstorable hexit).mono
  rintro answer world' history' - hleft -
  obtain ⟨hopened, hlatched⟩ := hleft world'
  constructor
  · apply hlatched.safe_answered
    rintro state left later ⟨⟩
  · use hlatched
    constructor
    · rw [Moment.opened, hopened]
      rfl
    · trivial

variable [DecidableEq S]

/-- Effects may be run. -/
theorem runs_flush_latching :
  (lockContract.judgement (Latching history)).runs (flush : Engine S C K M ε Unit)
  := by
  apply runs_flush
  · intro world' history' entered hlatching
    exact hlatching.of_world rfl rfl
  · intro state
    exact runs_ask_latching fun _ _ _ => trivial

/-- The machine may settle. -/
theorem runs_settle_latching :
  (lockContract.judgement (Latching history)).runs (settle : Engine S C K M ε Unit)
  := by
  apply runs_settle _ runs_flush_latching
  · exact runs_ask_latching fun _ _ _ => trivial
  · exact runs_ask_latching fun _ _ _ => trivial

/-- All requests are parts of a call. -/
theorem runs_serveRequest_latching (request : Request K) :
  (lockContract.judgement (Latching history)).runs
    (serveRequest request : Engine S C K M ε (request.Answer S C))
  := by
  have hqueues : Queues (lockContract : Contract (Call S C K) Call.Answer (World S C K M))
      (Latching history) ε := queues_latching
  cases request with
  | drain => exact runs_ask_latching fun _ _ _ => trivial
  | flush => apply runs_flush_latching
  | stop =>
    apply Judgement.runs_bind
    · apply Contract.runs_update
      intro world' history' hlatching
      exact hlatching.of_world rfl rfl
    · intro _
      apply Judgement.runs_bind runs_runExit_latching
      intro _
      apply Contract.runs_update
      intro world' history' hlatching
      exact hlatching.of_world rfl rfl
  | _ =>
    apply hqueues.serveRequest hqueues _ runs_flush_latching
    · intro token
      apply runs_ask_latching
      intro _ _ _
      trivial
    · trivial
    · intro program
      apply runs_act_latching

variable [StateValue S] [Context C]

/-- Applying an action is a part of a call. -/
theorem runs_apply_latching (machine : Machine S C K) (action : Action K) :
  (lockContract.judgement (Latching history)).runs (apply machine action : Engine S C K M ε Unit)
  := by
  have hchange {change : World S C K M → World S C K M}
      (hlocks : ∀ world, (change world).locks = world.locks)
      (hexit : ∀ world, (change world).exit = world.exit) :
      (lockContract.judgement (Latching history)).runs
        (Program.update change : Engine S C K M ε Unit) := by
    apply Contract.runs_update
    intro world' history' hlatching
    exact hlatching.of_world (hlocks world') (hexit world')
  apply Judgement.runs_bind Contract.runs_world
  intro current
  apply Judgement.runs_bind
  · apply StepHost.runs_step
    · intro token event context
      exact runs_ask_latching fun _ _ _ => trivial
    · intro token context
      exact runs_ask_latching fun _ _ _ => trivial
    · intro report
      exact runs_ask_latching fun _ _ _ => trivial
  · intro outcome
    cases outcome with
    | unchanged => apply Judgement.runs_pure
    | contextUpdated state | transitioned state =>
      exact hchange (fun _ => rfl) fun _ => rfl

/-- The body of a call that runs neither effects nor cleanups is a part of it. -/
theorem runs_body_latching (machine : Machine S C K) (client : Client S C K M ε) {call : Call S C K}
    (hcall : call.lock? world = none) :
  (lockContract.judgement (Latching history)).runs (body machine client call)
  := by
  cases call with
  | leave | enter => cases hcall
  | request request => apply runs_serveRequest_latching
  | settle => apply runs_settle_latching
  | drain => apply runs_drain_latching
  | push action =>
    apply Contract.runs_update
    intro world' history' hlatching
    exact hlatching.of_world rfl rfl
  | apply action => apply runs_apply_latching
  | renew state => apply runs_renew_latching
  | guard token event context => apply runs_ofCode_latching
  | reduce token context => apply runs_ofCode_latching
  | effect token params => apply runs_ofCode_latching
  | cleanup token params => apply runs_ofCode_latching
  | callback token => apply runs_ofCode_latching
  | report report => apply Judgement.runs_pure

/-- The effects of a state run with a new lock, which the cleanups that they return have. -/
theorem carriesOut_enter_latching (machine : Machine S C K) {state : MachineState S C}
    (h : Latched world history) (hfitting : Fitting (.enter state) world history) :
  lockContract.CarriesOut LockSafe (.enter state)
    (effectHost.enter machine.definition machine.config state true :
      Engine S C K M ε (Option (EffectCleanup K)))
    (lockContract.post (.enter state) world history) world history
  := by
  use h.safe_called hfitting
  apply (ensures_enter_latching machine h).mono
  rintro exit world' history' - hentered -
  obtain ⟨hopened, hlatched, hexit⟩ := hentered world'
  have houter : Moment.opened (.answered (.enter state) exit world' :: history')
      = Moment.opened history := by
    rw [Moment.opened, hopened]
    rfl
  constructor
  · apply hlatched.safe_answered
    rintro _ left later ⟨⟩
    exact ⟨world, _, hopened, (hexit left rfl).1⟩
  · use hlatched, houter
    cases exit with
    | none => trivial
    | some left =>
      obtain ⟨hlock, hsync, hlt⟩ := hexit left rfl
      refine ⟨hsync, hlt, ?_, state, world', List.mem_cons_self⟩
      rw [houter, hlock]
      intro hrunning
      cases Nat.lt_irrefl _ (h.running_lt _ hrunning)

/-- Every body keeps the locks latched. -/
theorem fulfils_lockContract (machine : Machine S C K) (client : Client S C K M ε) :
  lockContract.Fulfils LockSafe (body machine client)
  := by
  rintro call world history ⟨hlatched, hfitting⟩
  cases hcall : call.lock? world with
  | none =>
    apply carriesOut_of_latching hcall _ hlatched hfitting
    intro history
    apply runs_body_latching machine client hcall
  | some lock =>
    cases call with
    | leave left event context => apply carriesOut_leave_latching hlatched hfitting
    | enter state => apply carriesOut_enter_latching machine hlatched hfitting
    | _ => cases hcall

/-- In every run the lock of a handle is open exactly while the effects or the cleanups of its entry
are being run. -/
theorem locks_safe (machine : Machine S C K) (client : Client S C K M ε) (code : Code S C K M ε α)
    (memory : M) (depth : Nat) :
  (Synced.run machine client depth code (World.initial machine.initialState memory)).Reaches
    LockSafe fun _ world history =>
      Moment.openCalls history = [] ∧ ∀ handle ∈ History.handles history,
        world.locks.isLocked handle.lock = true
  := by
  have hstart : Latching [] (World.initial machine.initialState memory : World S C K M) [] := by
    use rfl
    constructor
    · rintro lock ⟨⟩
    · rintro lock ⟨opened, ⟨⟩, -⟩
    · rintro handle ⟨⟩
    · rintro left ⟨⟩
  have hrun := Contract.reaches_run (fulfils_lockContract machine client)
    (runs_ofCode_latching code) hstart depth
  use hrun.1
  intro result hresult
  obtain ⟨-, hopen, hlatching⟩ := hrun.2 result hresult
  use hopen
  intro handle hhandle
  have hlt := hlatching.latched.handles_lt handle hhandle
  apply eq_true_of_ne_false
  intro hunlocked
  obtain ⟨opened, hmem, -⟩ := (hlatching.latched.open_iff _ hlt).mp hunlocked
  rw [hlatching.opened_eq] at hmem
  cases hmem

end GuardedMachine.Synced
