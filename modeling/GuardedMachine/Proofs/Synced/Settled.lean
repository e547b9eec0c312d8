import GuardedMachine.Proofs.Synced.Order
import GuardedMachine.Proofs.Synced.Owed

/-!
# Outermost calls settle

Whatever the callbacks of a synchronous machine ask of it, when an outermost call returns nothing is
queued and the effects that were run last are those of the current state, if effects were run at
all (`outermost_settled`), as long as nobody drains or flushes out of turn.

Two facts about effects that were run are kept apart.  That they are on record (`Recorded`) is kept
by everything but the beginning of a flush.  That they are those of the current state
(`World.Current`) is kept by everything but the application of actions, and a flush restores it.
While an outermost call is running, whoever finds the effects current leaves the key alone, so a
flush that is asked for during a flush does nothing.
-/

namespace GuardedMachine.Synced

variable {S C K M ε α : Type}

/-! ### Settled machines -/

/-- Whether a call is a request that settles when it is an outermost one. -/
def Call.settles : Call S C K → Bool
  | .request asked => asked.settles
  | _ => false

namespace History

/-- Whether a request that settles is being carried out. -/
def settling (history : History S C K M) : Bool :=
  (Moment.openCalls history).any Call.settles

/-- The key of the state whose effects begin to run at a moment. -/
def enteredAt : Moment (Call S C K) Call.Answer (World S C K M) → Option (EntryKey S)
  | .called (.enter state) world => some { value := state.value, epoch := world.epoch }
  | _ => none

/-- The key of the state whose effects were run last. -/
def lastEntered? : History S C K M → Option (EntryKey S)
  | [] => none
  | moment :: earlier => (enteredAt moment).or (lastEntered? earlier)

end History

/-- The effects that were run last are those that the world says. -/
def Recorded (world : World S C K M) (history : History S C K M) : Prop :=
  world.entered = history.lastEntered?

/-- No effects were run, or the last ones are those of the current state. -/
def World.Current (world : World S C K M) : Prop :=
  world.entered = none ∨ world.entered = some world.key

theorem Request.Ordinary.inTurn {request : Request K} (h : request.Ordinary) :
  request.InTurn
  := by
  cases request with
  | drain | flush | stop => cases h
  | _ => trivial

/-- Nothing is queued or running, and the effects that were run last are those of the current
state. -/
structure Settled (world : World S C K M) (history : History S C K M) : Prop where
  queue_eq : world.queue = []
  acting_eq : world.acting = false
  recorded : Recorded world history
  current : world.Current

/-- A request that has been answered has settled, if it was an outermost one. -/
def OutermostSettled (world : World S C K M) (history : History S C K M) : Prop :=
  ∀ request answer earlier, history = .answered (.request request) answer world :: earlier →
    request.settles = true → history.settling = false → Settled world history

variable {world world' world'' : World S C K M} {history history' history'' : History S C K M}

theorem settling_continued (h : Moment.Continues history history') :
  history'.settling = history.settling
  := by rw [History.settling, History.settling, h.openCalls_eq]

/-- A request that is being carried out goes on when a call is made. -/
theorem settling_called (call : Call S C K) (world : World S C K M)
    (h : history.settling = true) :
  History.settling (.called call world :: history) = true
  := by
  rw [History.settling, Moment.openCalls, List.any_cons, Bool.or_eq_true]
  right
  apply h

/-! ### What is kept by calls -/

/-- When no outermost call is running the last effects are on record and current; when one is, it is
a request that settles. -/
structure Poised (world : World S C K M) (history : History S C K M) : Prop where
  recorded : world.acting = false → Recorded world history
  current : world.acting = false → world.Current
  settling : world.acting = true → history.settling = true

/-- What is kept by every call. -/
structure Acted (world : World S C K M) (history : History S C K M) (world' : World S C K M)
    (history' : History S C K M) : Prop where
  acting_eq : world'.acting = world.acting
  recorded : Recorded world history → Recorded world' history'

/-- The last effects are the same, and so is the key of the state. -/
structure Pinned (world : World S C K M) (history : History S C K M) (world' : World S C K M)
    (history' : History S C K M) : Prop where
  key_eq : world'.key = world.key
  entered_eq : world'.entered = world.entered
  lastEntered_eq : history'.lastEntered? = history.lastEntered?

/-- What is kept by calls that neither apply actions nor run effects themselves: while an outermost
call is running they leave effects that are current alone. -/
structure Unmoved (world : World S C K M) (history : History S C K M) (world' : World S C K M)
    (history' : History S C K M) : Prop extends Acted world history world' history' where
  current : world.Current → world'.Current
  pinned : world.acting = true → world.entered = some world.key →
    Pinned world history world' history'

/-- What is kept by calls that run the effects of the current state. -/
structure Renewed (world : World S C K M) (world' : World S C K M) (history' : History S C K M) :
    Prop where
  acting_eq : world'.acting = world.acting
  key_eq : world'.key = world.key
  entered_eq : world'.entered = world.entered
  recorded : Recorded world' history'

theorem Acted.trans (h : Acted world history world' history')
    (h' : Acted world' history' world'' history'') :
  Acted world history world'' history''
  := ⟨h'.acting_eq.trans h.acting_eq, h'.recorded ∘ h.recorded⟩

theorem Pinned.trans (h : Pinned world history world' history')
    (h' : Pinned world' history' world'' history'') :
  Pinned world history world'' history''
  where
  key_eq := h'.key_eq.trans h.key_eq
  entered_eq := h'.entered_eq.trans h.entered_eq
  lastEntered_eq := h'.lastEntered_eq.trans h.lastEntered_eq

theorem Unmoved.refl (world : World S C K M) (history : History S C K M) :
  Unmoved world history world history
  := ⟨⟨rfl, id⟩, id, fun _ _ => ⟨rfl, rfl, rfl⟩⟩

theorem Unmoved.trans (h : Unmoved world history world' history')
    (h' : Unmoved world' history' world'' history'') :
  Unmoved world history world'' history''
  where
  toActed := h.toActed.trans h'.toActed
  current := h'.current ∘ h.current
  pinned hacting hentered := by
    have hpinned := h.pinned hacting hentered
    apply hpinned.trans (h'.pinned (h.acting_eq.trans hacting) _)
    rw [hpinned.entered_eq, hpinned.key_eq, hentered]

/-- What the effects do not depend on may change. -/
theorem Unmoved.of_world (h : Unmoved world history world' history')
    (hacting : world''.acting = world'.acting) (hkey : world''.key = world'.key)
    (hentered : world''.entered = world'.entered) :
  Unmoved world history world'' history'
  := by
  apply h.trans
  use ⟨hacting, fun hrecorded => hentered.trans hrecorded⟩
  · intro hcurrent
    rwa [World.Current, hentered, hkey]
  · intro _ _
    exact ⟨hkey, hentered, rfl⟩

/-- Making a call other than that which runs effects does not count. -/
theorem lastEntered_called {call : Call S C K} (hcall : ∀ state, call ≠ .enter state)
    (world : World S C K M) (history : History S C K M) :
  History.lastEntered? (.called call world :: history) = history.lastEntered?
  := by
  cases call with
  | enter state => cases hcall state rfl
  | _ => rfl

theorem unmoved_called {call : Call S C K} (hcall : ∀ state, call ≠ .enter state)
    (world : World S C K M) (history : History S C K M) :
  Unmoved world history world (.called call world :: history)
  where
  acting_eq := rfl
  recorded hrecorded := hrecorded.trans (lastEntered_called hcall world history).symm
  current := id
  pinned _ _ := ⟨rfl, rfl, lastEntered_called hcall world history⟩

theorem unmoved_answered (call : Call S C K) (answer : call.Answer) (world : World S C K M)
    (history : History S C K M) :
  Unmoved world history world (.answered call answer world :: history)
  := ⟨⟨rfl, id⟩, id, fun _ _ => ⟨rfl, rfl, rfl⟩⟩

/-- What is kept inside a call is kept by the call. -/
theorem Acted.outer {call : Call S C K} (hcall : ∀ state, call ≠ .enter state)
    (h : Acted world (.called call world :: history) world' history') (answer : call.Answer) :
  Acted world history world' (.answered call answer world' :: history')
  := by
  apply (unmoved_called hcall world history).toActed.trans
  apply h.trans (unmoved_answered call answer world' history').toActed

theorem Unmoved.outer {call : Call S C K} (hcall : ∀ state, call ≠ .enter state)
    (h : Unmoved world (.called call world :: history) world' history') (answer : call.Answer) :
  Unmoved world history world' (.answered call answer world' :: history')
  := by
  apply (unmoved_called hcall world history).trans
  apply h.trans (unmoved_answered call answer world' history')

/-- In the beginning no effects are on record. -/
theorem poised_initial (state : MachineState S C) (memory : M) :
  Poised (World.initial state memory : World S C K M) []
  where
  recorded _ := rfl
  current _ := .inl rfl
  settling := by
    rintro ⟨⟩

/-- Whoever was poised is poised when nothing was forgotten. -/
theorem Poised.continued (h : Poised world history) (hcontinues : Moment.Continues history history')
    (hacted : Acted world history world' history')
    (hcurrent : world.acting = false → world.Current → world'.Current) :
  Poised world' history'
  where
  recorded hacting := by
    rw [hacted.acting_eq] at hacting
    apply hacted.recorded (h.recorded hacting)
  current hacting := by
    rw [hacted.acting_eq] at hacting
    apply hcurrent hacting (h.current hacting)
  settling hacting := by
    rw [hacted.acting_eq] at hacting
    rw [settling_continued hcontinues]
    apply h.settling hacting

theorem Poised.called {call : Call S C K}
    (hcall : ∀ state, call = .enter state → world.acting = true) (h : Poised world history) :
  Poised world (.called call world :: history)
  where
  recorded hacting := by
    apply (unmoved_called _ world history).recorded (h.recorded hacting)
    rintro state rfl
    cases hacting.symm.trans (hcall state rfl)
  current := h.current
  settling hacting := settling_called call world (h.settling hacting)

/-! ### The contract -/

/-- When calls may be made: actions are applied and effects run in turn. -/
def Timely [DecidableEq S] : Call S C K → World S C K M → Prop
  | .request asked, _ => asked.InTurn
  | .settle, world => world.acting = true
  | .drain, world => world.acting = true
  | .apply _, world => world.acting = true
  | .renew state, world =>
    world.acting = true ∧ world.entered = some world.key ∧ world.key.value = state.value
  | .enter state, world =>
    world.acting = true ∧ world.entered = some world.key ∧ world.key.value = state.value
  | _, _ => True

/-- Whoever makes a call is poised, and what it does is kept until it is answered. -/
def settleContract [DecidableEq S] : Contract (Call S C K) Call.Answer (World S C K M) where
  pre call world history := Poised world history ∧ Timely call world
  post
    | .settle, world, history, _, world', history' =>
      Acted world history world' history' ∧ (world.Current → world'.Current) ∧ world'.queue = []
    | .drain, world, history, _, world', history' => Acted world history world' history'
    | .apply _, world, history, _, world', history' => Acted world history world' history'
    | .renew _, world, _, _, world', history' => Renewed world world' history'
    | .enter _, world, _, _, world', history' => Renewed world world' history'
    | _, world, history, _, world', history' => Unmoved world history world' history'

/-- A call that neither applies actions nor runs effects itself. -/
def Call.Still : Call S C K → Prop
  | .settle => False
  | .drain => False
  | .apply _ => False
  | .renew _ => False
  | .enter _ => False
  | _ => True

/-- What a part of a call keeps, from its beginning. -/
structure Resting (world : World S C K M) (history : History S C K M) (world' : World S C K M)
    (history' : History S C K M) : Prop where
  continues : Moment.Continues history history'
  unmoved : Unmoved world history world' history'
  poised : Poised world' history'

/-- What a part of a call that applies actions keeps. -/
structure Acting (world : World S C K M) (history : History S C K M) (world' : World S C K M)
    (history' : History S C K M) : Prop where
  continues : Moment.Continues history history'
  acted : Acted world history world' history'
  poised : Poised world' history'
  acting : world'.acting = true

theorem resting_refl (h : Poised world history) :
  Resting world history world history
  := ⟨Moment.Continues.refl history, Unmoved.refl world history, h⟩

theorem acting_refl (h : Poised world history) (hacting : world.acting = true) :
  Acting world history world history
  := ⟨Moment.Continues.refl history, ⟨rfl, id⟩, h, hacting⟩

theorem Resting.next (h : Resting world history world' history')
    (hcontinues : Moment.Continues history' history'')
    (hunmoved : Unmoved world' history' world'' history'') :
  Resting world history world'' history''
  where
  continues := h.continues.trans hcontinues
  unmoved := h.unmoved.trans hunmoved
  poised := h.poised.continued hcontinues hunmoved.toActed fun _ => hunmoved.current

/-- What the effects do not depend on may change. -/
theorem Resting.of_world (h : Resting world history world' history')
    (hacting : world''.acting = world'.acting) (hkey : world''.key = world'.key)
    (hentered : world''.entered = world'.entered) :
  Resting world history world'' history'
  := by
  apply h.next (Moment.Continues.refl history')
  apply (Unmoved.refl world' history').of_world hacting hkey hentered

theorem Acting.next (h : Acting world history world' history')
    (hcontinues : Moment.Continues history' history'')
    (hacted : Acted world' history' world'' history'') :
  Acting world history world'' history''
  where
  continues := h.continues.trans hcontinues
  acted := h.acted.trans hacted
  poised := by
    apply h.poised.continued hcontinues hacted
    intro hacting
    cases hacting.symm.trans h.acting
  acting := hacted.acting_eq.trans h.acting

variable [DecidableEq S]

/-- What may be asked at any time. -/
theorem timely_of_still {call : Call S C K} (hstill : call.Still)
    (hrequest : ∀ request, call = .request request → request.InTurn) (world : World S C K M) :
  Timely call world
  := by
  cases call with
  | request request => apply hrequest request rfl
  | settle | drain | apply | renew | enter => cases hstill
  | _ => trivial

theorem unmoved_of_still {call : Call S C K} (hstill : call.Still) {answer : call.Answer} :
  settleContract.post call world history answer world' history'
    ↔ Unmoved world history world' history'
  := by
  cases call with
  | settle | drain | apply | renew | enter => cases hstill
  | _ => apply Iff.rfl

/-! ### Parts of a call -/

/-- A call that neither applies actions nor runs effects is a part of a call. -/
theorem runs_ask_resting {call : Call S C K} (hstill : call.Still)
    (hrequest : ∀ request, call = .request request → request.InTurn) :
  (settleContract.judgement (Resting world history)).runs (ask call : Engine S C K M ε call.Answer)
  := by
  intro world' history' hresting
  use ⟨hresting.poised, timely_of_still hstill hrequest world'⟩
  intro answer world'' history'' hcontinues hpost
  exact ⟨trivial, hresting.next hcontinues ((unmoved_of_still hstill).mp hpost)⟩

/-- It is also a part of one that applies actions. -/
theorem runs_ask_acting {call : Call S C K} (hstill : call.Still)
    (hrequest : ∀ request, call = .request request → request.InTurn) :
  (settleContract.judgement (Acting world history)).runs (ask call : Engine S C K M ε call.Answer)
  := by
  intro world' history' hacting
  use ⟨hacting.poised, timely_of_still hstill hrequest world'⟩
  intro answer world'' history'' hcontinues hpost
  exact ⟨trivial, hacting.next hcontinues ((unmoved_of_still hstill).mp hpost).toActed⟩

/-- The programs of a client are parts of a call. -/
theorem runs_ofCode_resting {code : Code S C K M ε α} (hasks : code.Asks Request.InTurn) :
  (settleContract.judgement (Resting world history)).runs (ofCode code)
  := by
  apply runs_ofCode _ _ hasks
  · intro world' history' memory hresting
    exact hresting.of_world rfl rfl rfl
  · intro request hinturn
    apply runs_ask_resting (by trivial)
    rintro _ ⟨⟩
    apply hinturn

theorem queues_resting :
  Queues (settleContract : Contract (Call S C K) Call.Answer (World S C K M))
    (Resting world history) ε
  where
  mounted _ _ _ h := h.of_world rfl rfl rfl
  push _ := runs_ask_resting trivial (by rintro _ ⟨⟩)
  report _ _ := runs_ask_resting trivial (by rintro _ ⟨⟩)

/-- The stored cleanups may be run. -/
theorem runs_runExit_resting :
  (settleContract.judgement (Resting world history)).runs (runExit : Engine S C K M ε Unit)
  := by
  apply runs_runExit
  · intro world' history' exit hresting
    exact hresting.of_world rfl rfl rfl
  · intro cleanup event context
    apply runs_ask_resting (by trivial) (by rintro _ ⟨⟩)

/-- During an outermost call the effects of the current state are run unless they were run last, and
then they are current. -/
theorem ensures_flush_resting (hacting : world.acting = true)
    (h : Resting world history world' history') :
  settleContract.Ensures (flush : Engine S C K M ε Unit)
    (fun _ world'' history'' =>
      Resting world history world'' history'' ∧ world''.entered = some world''.key)
    world' history'
  := by
  have hacting' := h.unmoved.acting_eq.trans hacting
  simp only [flush, Contract.ensures_bind, Contract.ensures_world]
  split
  · next hentered => exact ⟨h, hentered⟩
  · next hstale =>
    simp only [Contract.ensures_bind, Contract.ensures_update]
    constructor
    · constructor
      · constructor
        · intro hidle
          cases hidle.symm.trans hacting'
        · intro hidle
          cases hidle.symm.trans hacting'
        · apply h.poised.settling
      · exact ⟨hacting', rfl, rfl⟩
    · intro _ world'' history'' hcontinues hpost
      have hrenewed : Renewed { world' with entered := some world'.key } world'' history'' := hpost
      have hcurrent : world''.entered = some world''.key := by
        rw [hrenewed.entered_eq, hrenewed.key_eq]
        rfl
      refine ⟨?_, hcurrent⟩
      apply h.next hcontinues
      use ⟨hrenewed.acting_eq, fun _ => hrenewed.recorded⟩
      · intro _
        right
        apply hcurrent
      · intro _ hentered
        cases hstale hentered

/-! ### Requests -/

/-- A program that is run as an outermost call, or as a part of one, and settles in the first
case. -/
theorem ensures_act_resting (h : Poised world history) (hsettling : history.settling = true)
    {program : Engine S C K M ε Unit}
    (hprogram : ∀ world (history : History S C K M), world.acting = true →
      (settleContract.judgement (Resting world history)).runs program) :
  settleContract.Ensures (act program)
    (fun _ world' history' => Resting world history world' history'
      ∧ (world.acting = false → world'.queue = []))
    world history
  := by
  simp only [act, Contract.ensures_bind, Contract.ensures_world]
  cases hacting : world.acting with
  | true =>
    simp only [if_true]
    apply (hprogram world history hacting _ _ (resting_refl h)).mono
    rintro _ world' history' - ⟨-, hresting⟩
    use hresting
    rintro ⟨⟩
  | false =>
    simp only [Bool.false_eq_true, if_false, Contract.ensures_bind, Contract.ensures_update]
    have hpoised : Poised { world with acting := true } history := by
      constructor
      · rintro ⟨⟩
      · rintro ⟨⟩
      · intro _
        apply hsettling
    apply (hprogram { world with acting := true } history rfl _ _ (resting_refl hpoised)).mono
    rintro _ world' history' hcontinues ⟨-, hresting⟩
    use ⟨hresting.poised, hresting.unmoved.acting_eq⟩
    rintro _ world'' history'' hcontinues' ⟨hacted, hcurrent, hqueue⟩
    have hunmoved : Unmoved world history { world'' with acting := false } history'' := by
      constructor
      · use hacting.symm
        exact hacted.recorded ∘ hresting.unmoved.recorded
      · exact hcurrent ∘ hresting.unmoved.current
      · intro hacting'
        cases hacting.symm.trans hacting'
    use (resting_refl h).next (hcontinues.trans hcontinues') hunmoved
    intro _
    apply hqueue

/-- To stop is a part of a call: the stored cleanups are run, and the queue is emptied. -/
theorem runs_stop_resting :
  (settleContract.judgement (Resting world history)).runs (stop : Engine S C K M ε Unit)
  := by
  apply Judgement.runs_bind
  · apply Contract.runs_update
    intro world' history' hresting
    exact hresting.of_world rfl rfl rfl
  · intro _
    apply Judgement.runs_bind runs_runExit_resting
    intro _
    apply Contract.runs_update
    intro world' history' hresting
    exact hresting.of_world rfl rfl rfl

/-- A request is a part of a call, and has emptied the queue if it settles and is an outermost
call. -/
theorem ensures_serveRequest_resting {request : Request K} (hinturn : request.InTurn)
    (h : Poised world history) (hsettling : request.settles = true → history.settling = true) :
  settleContract.Ensures (serveRequest request : Engine S C K M ε (request.Answer S C))
    (fun _ world' history' => Resting world history world' history'
      ∧ (request.settles = true → world.acting = false → world'.queue = []))
    world history
  := by
  have hqueues : ∀ world (history : History S C K M),
      Queues (settleContract : Contract (Call S C K) Call.Answer (World S C K M))
        (Resting world history) ε := fun _ _ => queues_resting
  have hact {program : Engine S C K M ε Unit} (hsettling : history.settling = true)
      (hprogram : ∀ world (history : History S C K M), world.acting = true →
        (settleContract.judgement (Resting world history)).runs program) :
      settleContract.Ensures (act program)
        (fun _ world' history' => Resting world history world' history'
          ∧ (true = true → world.acting = false → world'.queue = []))
        world history := by
    apply (ensures_act_resting h hsettling hprogram).mono
    rintro _ world' history' - ⟨hresting, hqueue⟩
    exact ⟨hresting, fun _ => hqueue⟩
  have haside {program : Engine S C K M ε (request.Answer S C)} (hsettles : request.settles = false)
      (hprogram : (settleContract.judgement (Resting world history)).runs program) :
      settleContract.Ensures program
        (fun _ world' history' => Resting world history world' history'
          ∧ (request.settles = true → world.acting = false → world'.queue = []))
        world history := by
    apply (hprogram _ _ (resting_refl h)).mono
    rintro _ world' history' - ⟨-, hresting⟩
    use hresting
    intro hsettles'
    cases hsettles.symm.trans hsettles'
  cases request with
  | start =>
    apply hact (hsettling rfl)
    intro world history hacting world' history' hresting
    apply (ensures_flush_resting hacting hresting).mono
    rintro _ world'' history'' - ⟨hresting', -⟩
    exact ⟨trivial, hresting'⟩
  | send event =>
    apply hact (hsettling rfl)
    intro world history _
    apply (hqueues world history).dispatch
  | setContext reducer =>
    apply hact (hsettling rfl)
    intro world history _
    apply (hqueues world history).dispatch
  | act token =>
    apply hact (hsettling rfl)
    intro world history _
    apply runs_ask_resting (by trivial) (by rintro _ ⟨⟩)
  | drain | flush => cases hinturn
  | stop =>
    apply haside rfl
    apply runs_stop_resting
  | _ =>
    apply haside rfl
    have hqueues := hqueues world history
    exact runs_serveRequest_aside trivial rfl hqueues.dispatch (fun _ _ => hqueues.push _)
      hqueues.report fun mounted _ world' history' => hqueues.mounted world' history' mounted

/-! ### Settling -/

/-- The queue is drained and effects are run until nothing is queued. -/
theorem ensures_settle_resting (hacting : world.acting = true) (h : Poised world history) :
  settleContract.Ensures (settle : Engine S C K M ε Unit)
    (fun _ world' history' => Acted world history world' history'
      ∧ (world.Current → world'.Current) ∧ world'.queue = [])
    world history
  := by
  simp only [settle, Contract.ensures_bind, Contract.ensures_world]
  split
  · next hempty => exact ⟨⟨rfl, id⟩, id, List.isEmpty_iff.mp hempty⟩
  · simp only [Contract.ensures_bind]
    use ⟨h, hacting⟩
    intro _ world' history' hcontinues hpost
    have hacted : Acted world history world' history' := hpost
    have hacting' := hacted.acting_eq.trans hacting
    have hpoised : Poised world' history' := by
      apply h.continued hcontinues hacted
      intro hidle
      cases hidle.symm.trans hacting
    simp only [Contract.Ensures, Contract.ensures_bind]
    apply (ensures_flush_resting hacting' (resting_refl hpoised)).mono
    rintro _ world'' history'' - ⟨hresting, hentered⟩
    use ⟨hresting.poised, hresting.unmoved.acting_eq.trans hacting'⟩
    rintro _ ending last - ⟨hacted', hcurrent, hqueue⟩
    use hacted.trans (hresting.unmoved.toActed.trans hacted')
    exact ⟨fun _ => hcurrent (.inr hentered), hqueue⟩

/-- The queue is drained by applying one action after another. -/
theorem runs_drain_acting :
  (settleContract.judgement (Acting world history)).runs (drain : Engine S C K M ε Nat)
  := by
  have hnext {call : Call S C K} (htimely : ∀ world : World S C K M, world.acting = true →
        Timely call world)
      (hpost : ∀ world history answer world' history',
        settleContract.post call world history answer world' history' →
          Acted (M := M) world history world' history') :
      (settleContract.judgement (Acting world history)).runs
        (ask call : Engine S C K M ε call.Answer) := by
    intro world' history' hacting
    use ⟨hacting.poised, htimely world' hacting.acting⟩
    intro answer world'' history'' hcontinues hanswered
    exact ⟨trivial, hacting.next hcontinues (hpost _ _ _ _ _ hanswered)⟩
  apply runs_drain
  · intro world' history' queue hacting
    apply hacting.next (Moment.Continues.refl history')
    exact ⟨rfl, id⟩
  · intro action
    exact hnext (fun _ h => h) fun _ _ _ _ _ h => h
  · exact hnext (fun _ h => h) fun _ _ _ _ _ h => h

/-! ### Bodies -/

/-- A call other than a request is carried out by whatever keeps what it should. -/
theorem carriesOut_of_ensures {call : Call S C K} (hcall : ∀ request, call ≠ .request request)
    {body : Engine S C K M ε call.Answer}
    (hbody : settleContract.Ensures body
      (fun answer world' history' => settleContract.post call world history answer world'
        (.answered call answer world' :: history'))
      world (.called call world :: history)) :
  settleContract.CarriesOut OutermostSettled call body (settleContract.post call world history)
    world history
  := by
  constructor
  · rintro request answer earlier ⟨⟩
  · apply hbody.mono
    intro answer world' history' _ hpost _
    refine ⟨?_, hpost⟩
    rintro request answer earlier heq
    cases (List.cons.inj heq).1
    cases hcall request rfl

/-- One that neither applies actions nor runs effects is carried out by a part of a call. -/
theorem carriesOut_of_resting {call : Call S C K} (hcall : ∀ request, call ≠ .request request)
    (hstill : call.Still) {body : Engine S C K M ε call.Answer}
    (hbody : ∀ world (history : History S C K M),
      (settleContract.judgement (Resting world history)).runs body)
    (h : Poised world history) :
  settleContract.CarriesOut OutermostSettled call body (settleContract.post call world history)
    world history
  := by
  have henter : ∀ state, call ≠ .enter state := by
    rintro state rfl
    cases hstill
  apply carriesOut_of_ensures hcall
  have hcalled : Poised world (.called call world :: history) :=
    h.called fun state heq => (henter state heq).elim
  apply (hbody _ _ _ _ (resting_refl hcalled)).mono
  rintro answer world' history' - ⟨-, hresting⟩
  apply (unmoved_of_still hstill).mpr
  apply hresting.unmoved.outer henter

/-- A request is carried out, and has settled if it was an outermost call. -/
theorem carriesOut_request {request : Request K} (hinturn : request.InTurn)
    (h : Poised world history) :
  settleContract.CarriesOut OutermostSettled (.request request)
    (serveRequest request : Engine S C K M ε (request.Answer S C))
    (settleContract.post (.request request) world history) world history
  := by
  have henter : ∀ state, (.request request : Call S C K) ≠ .enter state := by
    rintro state ⟨⟩
  have hcalled : Poised world (.called (.request request) world :: history) :=
    h.called fun state heq => (henter state heq).elim
  have hsettling : request.settles = true →
      History.settling (.called (.request request) world :: history) = true := by
    intro hsettles
    simp [History.settling, Moment.openCalls, Call.settles, hsettles]
  constructor
  · rintro request answer earlier ⟨⟩
  · apply (ensures_serveRequest_resting hinturn hcalled hsettling).mono
    rintro answer world' history' - ⟨hresting, hqueue⟩ hcontinues
    have hunmoved := hresting.unmoved.outer henter answer
    refine ⟨?_, hunmoved⟩
    intro request answer earlier heq hsettles houtermost
    cases (List.cons.inj heq).1
    rw [settling_continued (hcontinues.answered _ _)] at houtermost
    have hacting : world.acting = false := by
      by_contra hacting
      have hsettling := h.settling (eq_true_of_ne_false hacting)
      cases hsettling.symm.trans houtermost
    constructor
    · apply hqueue hsettles hacting
    · apply hunmoved.acting_eq.trans hacting
    · apply hunmoved.recorded (h.recorded hacting)
    · apply hunmoved.current (h.current hacting)

/-- The cleanups of the state that is left run, and then the effects of the current one. -/
theorem ensures_renew_resting {state : MachineState S C} (h : Poised world history)
    (hacting : world.acting = true) (hentered : world.entered = some world.key)
    (hvalue : world.key.value = state.value) :
  settleContract.Ensures (renew state : Engine S C K M ε Unit)
    (fun _ world' history' => Renewed world world' history') world history
  := by
  simp only [renew, Contract.ensures_bind]
  apply (runs_runExit_resting _ _ (resting_refl h)).mono
  rintro _ world' history' - ⟨-, hresting⟩
  have hpinned := hresting.unmoved.pinned hacting hentered
  constructor
  · use hresting.poised, hresting.unmoved.acting_eq.trans hacting
    constructor
    · rw [hpinned.entered_eq, hentered, hpinned.key_eq]
    · rw [hpinned.key_eq, hvalue]
  · intro exit world'' history'' _ hpost
    have hrenewed : Renewed world' world'' history'' := hpost
    constructor
    · apply hrenewed.acting_eq.trans hresting.unmoved.acting_eq
    · apply hrenewed.key_eq.trans hpinned.key_eq
    · apply hrenewed.entered_eq.trans hpinned.entered_eq
    · apply hrenewed.recorded

variable [StateValue S] [Context C]

/-- Applying an action changes the state, which effects on record do not depend on. -/
theorem runs_apply_acting (machine : Machine S C K) (action : Action K) :
  (settleContract.judgement (Acting world history)).runs
    (apply machine action : Engine S C K M ε Unit)
  := by
  apply Judgement.runs_bind Contract.runs_world
  intro current
  apply Judgement.runs_bind
  · apply StepHost.runs_step
    · intro token event context
      apply runs_ask_acting (by trivial) (by rintro _ ⟨⟩)
    · intro token context
      apply runs_ask_acting (by trivial) (by rintro _ ⟨⟩)
    · intro report
      apply runs_ask_acting (by trivial) (by rintro _ ⟨⟩)
  · intro outcome
    cases outcome with
    | unchanged => apply Judgement.runs_pure
    | contextUpdated state | transitioned state =>
      apply Contract.runs_update
      intro world' history' hacting
      apply hacting.next (Moment.Continues.refl history')
      exact ⟨rfl, id⟩

/-- The effects that run are on record from when they begin to run. -/
theorem ensures_enter_resting (machine : Machine S C K) {state : MachineState S C}
    (h : Poised world history) (hacting : world.acting = true)
    (hentered : world.entered = some world.key) (hvalue : world.key.value = state.value) :
  settleContract.Ensures
    (effectHost.enter machine.definition machine.config state true :
      Engine S C K M ε (Option (EffectCleanup K)))
    (fun _ world' history' => Renewed world world' history')
    world (.called (.enter state) world :: history)
  := by
  have hruns : (settleContract.judgement
      (Resting world (.called (.enter state) world :: history))).runs
        (effectHost.enter machine.definition machine.config state true :
          Engine S C K M ε (Option (EffectCleanup K))) := by
    have hlocks : ∀ world' history' locks,
        Resting world (.called (.enter state) world :: history) world' history' →
          Resting world (.called (.enter state) world :: history) { world' with locks } history' :=
      fun _ _ _ hresting => hresting.of_world rfl rfl rfl
    apply EffectHost.runs_enter (runs_newLock hlocks) (runs_setLocked hlocks)
    · intro token params
      apply runs_ask_resting (by trivial) (by rintro _ ⟨⟩)
    · intro _ _ _ _ _ _
      apply runs_ask_resting (by trivial) (by rintro _ ⟨⟩)
  have hcalled : Poised world (.called (.enter state) world :: history) :=
    h.called fun _ _ => hacting
  apply (hruns _ _ (resting_refl hcalled)).mono
  rintro exit world' history' - ⟨-, hresting⟩
  have hpinned := hresting.unmoved.pinned hacting hentered
  use hresting.unmoved.acting_eq, hpinned.key_eq, hpinned.entered_eq
  rw [Recorded, hpinned.entered_eq, hpinned.lastEntered_eq, hentered, World.key]
  have hkey : world.state.value = state.value := hvalue
  rw [hkey]
  rfl

/-- The body of a call other than a request is a part of it if it neither applies actions nor runs
effects. -/
theorem runs_body_resting (machine : Machine S C K) {client : Client S C K M ε}
    (hclient : client.Asks Request.InTurn) {call : Call S C K}
    (hcall : ∀ request, call ≠ .request request) (hstill : call.Still) :
  (settleContract.judgement (Resting world history)).runs (body machine client call)
  := by
  cases call with
  | request request => cases hcall request rfl
  | push action =>
    apply Contract.runs_update
    intro world' history' hresting
    exact hresting.of_world rfl rfl rfl
  | leave cleanup event context =>
    apply EffectHost.runs_leave
    · intro closed
      apply runs_setLocked
      intro world' history' locks hresting
      exact hresting.of_world rfl rfl rfl
    · intro token params
      apply runs_ask_resting (by trivial) (by rintro _ ⟨⟩)
  | guard token event context => apply runs_ofCode_resting (hclient.guard token event context)
  | reduce token context => apply runs_ofCode_resting (hclient.reduce token context)
  | effect token params => apply runs_ofCode_resting (hclient.effect token params)
  | cleanup token params => apply runs_ofCode_resting (hclient.cleanup token params)
  | callback token => apply runs_ofCode_resting (hclient.callback token)
  | report report => apply Judgement.runs_pure
  | _ => cases hstill

/-- Every body keeps what its call should. -/
theorem fulfils_settleContract (machine : Machine S C K) {client : Client S C K M ε}
    (hclient : client.Asks Request.InTurn) :
  settleContract.Fulfils OutermostSettled (body machine client)
  := by
  rintro call world history ⟨hpoised, htimely⟩
  cases call with
  | request request => apply carriesOut_request htimely hpoised
  | settle =>
    apply carriesOut_of_ensures (by rintro _ ⟨⟩)
    apply (ensures_settle_resting htimely (hpoised.called (by rintro _ ⟨⟩))).mono
    rintro answer world' history' - ⟨hacted, hcurrent, hqueue⟩
    exact ⟨hacted.outer (by rintro _ ⟨⟩) answer, hcurrent, hqueue⟩
  | drain =>
    apply carriesOut_of_ensures (by rintro _ ⟨⟩)
    have hcalled : Poised world (.called .drain world :: history) :=
      hpoised.called (by rintro _ ⟨⟩)
    apply (runs_drain_acting _ _ (acting_refl hcalled htimely)).mono
    rintro answer world' history' - ⟨-, hacting⟩
    exact hacting.acted.outer (by rintro _ ⟨⟩) answer
  | apply action =>
    apply carriesOut_of_ensures (by rintro _ ⟨⟩)
    have hcalled : Poised world (.called (.apply action) world :: history) :=
      hpoised.called (by rintro _ ⟨⟩)
    apply (runs_apply_acting machine action _ _ (acting_refl hcalled htimely)).mono
    rintro answer world' history' - ⟨-, hacting⟩
    exact hacting.acted.outer (by rintro _ ⟨⟩) answer
  | renew state =>
    apply carriesOut_of_ensures (by rintro _ ⟨⟩)
    obtain ⟨hacting, hentered, hvalue⟩ := htimely
    apply (ensures_renew_resting (hpoised.called (by rintro _ ⟨⟩)) hacting hentered hvalue).mono
    rintro answer world' history' - hrenewed
    exact ⟨hrenewed.acting_eq, hrenewed.key_eq, hrenewed.entered_eq, hrenewed.recorded⟩
  | enter state =>
    apply carriesOut_of_ensures (by rintro _ ⟨⟩)
    obtain ⟨hacting, hentered, hvalue⟩ := htimely
    apply (ensures_enter_resting machine hpoised hacting hentered hvalue).mono
    rintro answer world' history' - hrenewed
    exact ⟨hrenewed.acting_eq, hrenewed.key_eq, hrenewed.entered_eq, hrenewed.recorded⟩
  | push | leave | guard | reduce | effect | cleanup | callback | report =>
    apply carriesOut_of_resting (by rintro _ ⟨⟩) (by trivial) _ hpoised
    intro world history
    apply runs_body_resting machine hclient
    · rintro _ ⟨⟩
    · trivial

/-- In every run in which nobody drains or flushes out of turn, whenever an outermost request that
settles is answered nothing is queued, no outermost call is running, and no effects were run or the
last ones are those of the current state. -/
theorem outermost_settled (machine : Machine S C K) {client : Client S C K M ε}
    (hclient : client.Asks Request.InTurn) {code : Code S C K M ε α}
    (hcode : code.Asks Request.InTurn) (memory : M) (depth : Nat) :
  (Synced.run machine client depth code (World.initial machine.initialState memory)).Reaches
    OutermostSettled fun _ world history =>
      Moment.openCalls history = [] ∧ world.acting = false ∧ Recorded world history
        ∧ world.Current
  := by
  have hstart : Poised (World.initial machine.initialState memory : World S C K M) [] :=
    poised_initial machine.initialState memory
  have hrun := Contract.reaches_run (fulfils_settleContract machine hclient)
    (runs_ofCode_resting hcode) (resting_refl hstart) depth
  use hrun.1
  intro result hresult
  obtain ⟨-, hopen, hresting⟩ := hrun.2 result hresult
  have hacting := hresting.unmoved.acting_eq
  use hopen, hacting, hresting.poised.recorded hacting, hresting.poised.current hacting

/-- The owner of the turnstile stops it in the end, and inserts another coin. -/
def turnstileCloser : Code String Int64 String Unit Empty Unit := do
  turnstileOwner
  Code.ask .stop
  Code.ask (.send (Event.ofKind "COIN"))

theorem turnstileCloser_asks :
  turnstileCloser.Asks Request.InTurn
  := by
  simp [turnstileCloser, turnstileOwner, Code.ask, Program.ask, bind, Program.bind, Program.Asks,
    Request.InTurn]

/-- The run of the turnstile that is stopped. -/
def turnstileClosed : Run (Call String Int64 String) Call.Answer (World String Int64 String Unit)
    Empty Unit :=
  Synced.run turnstile turnstileClient 12 turnstileCloser
    (World.initial turnstile.initialState ())

/-- The turnstile is entered three times, the last time locked, and settles whenever it is asked
to. -/
theorem turnstile_settled :
  (turnstileClient.Asks Request.InTurn ∧ turnstileCloser.Asks Request.InTurn)
    ∧ (turnstileClosed.ending = .returned () ∧ turnstileClosed.world.mounted = false
      ∧ History.lastEntered? turnstileClosed.history = some { value := "locked", epoch := 2 })
    ∧ turnstileClosed.Reaches OutermostSettled fun _ world history =>
      Moment.openCalls history = [] ∧ world.acting = false ∧ Recorded world history
        ∧ world.Current
  := by
  have hclient : turnstileClient.Asks Request.InTurn := by
    apply turnstileClient_asks.mono
    intro request hordinary
    apply hordinary.inTurn
  use ⟨hclient, turnstileCloser_asks⟩
  use ⟨rfl, by decide +kernel, by decide +kernel⟩
  apply outermost_settled turnstile hclient turnstileCloser_asks

end GuardedMachine.Synced
