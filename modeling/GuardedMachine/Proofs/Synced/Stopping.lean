import GuardedMachine.Proofs.Synced.Bodies
import GuardedMachine.Proofs.Synced.Flushing

/-!
# Stopping quietly

A synchronous machine is quiet when it is neither applying an action nor flushing a state, the
effects of its state were the last to run, and no action waits for an outermost call.  If it is
stopped then it is hushed from then on: unmounted, with nothing stored and no effects due.  The
contract of this module says how calls keep it so (`Muted`): those that queue or apply actions or
run effects are made only while the machine has not been stopped, and what they call stops it only
while it is busy, which does not count.
-/

namespace GuardedMachine.Synced

variable {S C K M ε α : Type}

/-! ### Quiet machines -/

/-- A request of those that the owner of a machine makes who leaves its queue to it. -/
def Request.Orderly : Request K → Prop
  | .enqueue _ => False
  | .drain => False
  | .flush => False
  | .setMounted _ => False
  | _ => True

/-- Whether a call applies an action or flushes a state. -/
def Call.occupies : Call S C K → Bool
  | .apply _ => true
  | .renew _ => true
  | _ => false

/-- Whether an action is being applied or a state being flushed. -/
def History.busy (history : History S C K M) : Bool :=
  (Moment.openCalls history).any Call.occupies

/-- No action is being applied and no state flushed, the effects of the state were the last to run,
and no action waits for an outermost call to begin. -/
structure Quiet (world : World S C K M) (history : History S C K M) : Prop where
  busy_eq : history.busy = false
  entered_eq : world.entered = some world.key
  queue_eq : world.queue = [] ∨ world.acting = true

instance [DecidableEq S] (world : World S C K M) (history : History S C K M) :
    Decidable (Quiet world history) :=
  decidable_of_iff
    (history.busy = false ∧ world.entered = some world.key
      ∧ (world.queue = [] ∨ world.acting = true))
    ⟨fun ⟨hbusy, hentered, hqueue⟩ => ⟨hbusy, hentered, hqueue⟩,
      fun ⟨hbusy, hentered, hqueue⟩ => ⟨hbusy, hentered, hqueue⟩⟩

/-- A quiet machine is stopped at a moment. -/
def StopsAt (moment : Moment (Call S C K) Call.Answer (World S C K M))
    (earlier : History S C K M) : Prop :=
  match moment with
  | .called (.request .stop) world => Quiet world earlier
  | _ => False

instance [DecidableEq S] (moment : Moment (Call S C K) Call.Answer (World S C K M))
    (earlier : History S C K M) :
    Decidable (StopsAt moment earlier) := by
  unfold StopsAt
  split <;> infer_instance

/-- The machine has been stopped when it was quiet. -/
def History.Stopped : History S C K M → Prop
  | [] => False
  | moment :: earlier => StopsAt moment earlier ∨ Stopped earlier

instance History.decidableStopped [DecidableEq S] : (history : History S C K M) →
    Decidable history.Stopped
  | [] => .isFalse id
  | moment :: earlier =>
    have := decidableStopped earlier
    inferInstanceAs (Decidable (StopsAt moment earlier ∨ History.Stopped earlier))

/-- The machine is unmounted, the effects of its state were the last to run, no cleanups are stored,
and no action waits for an outermost call to begin. -/
structure Hushed (world : World S C K M) : Prop where
  mounted_eq : world.mounted = false
  entered_eq : world.entered = some world.key
  exit_eq : world.exit = none
  queue_eq : world.queue = [] ∨ world.acting = true

variable {world world' world'' : World S C K M} {history history' history'' : History S C K M}

theorem busy_continued (h : Moment.Continues history history') :
  history'.busy = history.busy
  := by rw [History.busy, History.busy, h.openCalls_eq]

/-- Whoever is busy stays busy when a call is made. -/
theorem busy_called (call : Call S C K) (world : World S C K M) (h : history.busy = true) :
  History.busy (.called call world :: history) = true
  := by
  rw [History.busy, Moment.openCalls, List.any_cons, Bool.or_eq_true]
  right
  apply h

theorem stopped_called {call : Call S C K} (hcall : call ≠ .request .stop)
    (world : World S C K M) :
  History.Stopped (.called call world :: history) ↔ history.Stopped
  := by
  constructor
  · rintro (hstops | hstopped)
    · unfold StopsAt at hstops
      split at hstops
      · next heq =>
        cases heq
        cases hcall rfl
      · cases hstops
    · apply hstopped
  · intro hstopped
    right
    apply hstopped

theorem stopped_answered (call : Call S C K) (answer : call.Answer) (world : World S C K M) :
  History.Stopped (.answered call answer world :: history) ↔ history.Stopped
  := ⟨fun h => h.resolve_left id, Or.inr⟩

/-! ### What is kept by calls -/

/-- From one moment to another: a busy machine is not stopped quietly, and one that has been stopped
is hushed, with nothing queued if nothing was queued when it was stopped before. -/
structure Muted (world : World S C K M) (history : History S C K M) (world' : World S C K M)
    (history' : History S C K M) : Prop where
  acting_eq : world'.acting = world.acting
  busy : history.busy = true → history'.Stopped → history.Stopped
  hushed : history'.Stopped → Hushed world'
  emptied : history'.Stopped → (history.Stopped → world.queue = []) → world'.queue = []

theorem Muted.refl (h : history.Stopped → Hushed world) :
  Muted world history world history
  := ⟨rfl, fun _ hstopped => hstopped, h, fun hstopped hqueue => hqueue hstopped⟩

theorem Muted.trans (hcontinues : Moment.Continues history history')
    (h : Muted world history world' history') (h' : Muted world' history' world'' history'') :
  Muted world history world'' history''
  where
  acting_eq := h'.acting_eq.trans h.acting_eq
  busy hbusy hstopped := by
    apply h.busy hbusy
    apply h'.busy _ hstopped
    rwa [busy_continued hcontinues]
  hushed := h'.hushed
  emptied hstopped hqueue := by
    apply h'.emptied hstopped
    intro hstopped'
    apply h.emptied hstopped' hqueue

/-- The memory and the locks do not matter. -/
theorem Muted.of_held (h : Muted world history world' history') (hheld : Held world' world'')
    (hmounted : world''.mounted = world'.mounted) (hqueue : world''.queue = world'.queue) :
  Muted world history world'' history'
  where
  acting_eq := hheld.acting_eq.trans h.acting_eq
  busy := h.busy
  hushed hstopped := by
    have hhushed := h.hushed hstopped
    constructor
    · rw [hmounted, hhushed.mounted_eq]
    · rw [hheld.entered_eq, hheld.key_eq, hhushed.entered_eq]
    · rw [hheld.exit_eq, hhushed.exit_eq]
    · rw [hqueue, hheld.acting_eq]
      apply hhushed.queue_eq
  emptied hstopped hbefore := by
    rw [hqueue]
    apply h.emptied hstopped hbefore

/-- Before a machine is stopped its world may change. -/
theorem Muted.of_not_stopped (h : Muted world history world' history')
    (hstopped : ¬history'.Stopped) (hacting : world''.acting = world'.acting) :
  Muted world history world'' history'
  where
  acting_eq := hacting.trans h.acting_eq
  busy := h.busy
  hushed := fun h => (hstopped h).elim
  emptied := fun h => (hstopped h).elim

/-- What happens in a call other than that which stops the machine happens from the moment before. -/
theorem Muted.answered {call : Call S C K} (hcall : call ≠ .request .stop)
    (h : Muted world (.called call world :: history) world' history') (answer : call.Answer) :
  Muted world history world' (.answered call answer world' :: history')
  where
  acting_eq := h.acting_eq
  busy hbusy hstopped := by
    rw [stopped_answered] at hstopped
    rw [← stopped_called hcall world]
    apply h.busy (busy_called call world hbusy) hstopped
  hushed hstopped := by
    rw [stopped_answered] at hstopped
    apply h.hushed hstopped
  emptied hstopped hqueue := by
    rw [stopped_answered] at hstopped
    apply h.emptied hstopped
    rwa [stopped_called hcall]

/-! ### The contract -/

/-- When calls may be made: those that queue or apply actions or run effects not after the machine
has been stopped. -/
def MayCall : Call S C K → World S C K M → History S C K M → Prop
  | .request asked, _, _ => asked.Orderly
  | .settle, world, history => history.Stopped → world.queue = []
  | .leave _ _ _, _, _ => True
  | .cleanup _ _, _, _ => True
  | .callback _, _, _ => True
  | .report _, _, _ => True
  | .enter _, _, history => history.busy = true ∧ ¬history.Stopped
  | _, _, history => ¬history.Stopped

/-- A call during which a machine is not stopped quietly. -/
def Call.Closed : Call S C K → Prop
  | .settle => True
  | .drain => True
  | .apply _ => True
  | .renew _ => True
  | _ => False

/-- A machine that has been stopped is hushed whenever a call is made or answered. -/
def stopContract : Contract (Call S C K) Call.Answer (World S C K M) where
  pre call world history := (History.Stopped history → Hushed world) ∧ MayCall call world history
  post call world history _ world' history' :=
    Muted world history world' history'
      ∧ (call.Closed → History.Stopped history' → History.Stopped history)

/-- No effect begins after the machine has been stopped, and then no cleanups are stored when no
call is open. -/
structure Final (world : World S C K M) (history : History S C K M) : Prop where
  begins : ∀ token params begun earlier, history = .called (.effect token params) begun :: earlier →
    ¬History.Stopped earlier
  exit_eq : Moment.openCalls history = [] → history.Stopped → world.exit = none

/-- What a part of a call keeps, from its beginning. -/
structure Hush (world : World S C K M) (history : History S C K M) (world' : World S C K M)
    (history' : History S C K M) : Prop where
  continues : Moment.Continues history history'
  muted : Muted world history world' history'

/-- What a part of a call keeps while the machine has not been stopped. -/
structure Unstopped (world : World S C K M) (history : History S C K M) (world' : World S C K M)
    (history' : History S C K M) : Prop extends Hush world history world' history' where
  not_stopped : ¬history'.Stopped

theorem hush_refl (h : history.Stopped → Hushed world) :
  Hush world history world history
  := ⟨Moment.Continues.refl history, Muted.refl h⟩

/-- The memory and the locks do not matter. -/
theorem Hush.of_held (h : Hush world history world' history') (hheld : Held world' world'')
    (hmounted : world''.mounted = world'.mounted) (hqueue : world''.queue = world'.queue) :
  Hush world history world'' history'
  := ⟨h.continues, h.muted.of_held hheld hmounted hqueue⟩

theorem Unstopped.of_acting (h : Unstopped world history world' history')
    (hacting : world''.acting = world'.acting) :
  Unstopped world history world'' history'
  := ⟨⟨h.continues, h.muted.of_not_stopped h.not_stopped hacting⟩, h.not_stopped⟩

/-! ### Parts of a call -/

/-- A call that may be made is a part of a call. -/
theorem ensures_ask_hush {call : Call S C K} (h : Hush world history world' history')
    (hmay : MayCall call world' history') :
  stopContract.Ensures (ask call : Engine S C K M ε call.Answer)
    (fun _ world'' history'' => True ∧ Hush world history world'' history'') world' history'
  := by
  use ⟨h.muted.hushed, hmay⟩
  rintro answer world'' history'' hcontinues ⟨hmuted, -⟩
  exact ⟨trivial, h.continues.trans hcontinues, h.muted.trans h.continues hmuted⟩

theorem runs_ask_hush {call : Call S C K}
    (hmay : ∀ world' history', Hush world history world' history' → MayCall call world' history') :
  (stopContract.judgement (Hush world history)).runs (ask call : Engine S C K M ε call.Answer)
  := by
  intro world' history' hhush
  apply ensures_ask_hush hhush (hmay _ _ hhush)

/-- While the machine is busy, or during calls in which it is not stopped, it stays as it is. -/
theorem runs_ask_unstopped {call : Call S C K} (hclosed : history.busy = true ∨ call.Closed)
    (hmay : ∀ world' history', Unstopped world history world' history' →
      MayCall call world' history') :
  (stopContract.judgement (Unstopped world history)).runs (ask call : Engine S C K M ε call.Answer)
  := by
  intro world' history' hunstopped
  use ⟨hunstopped.muted.hushed, hmay _ _ hunstopped⟩
  rintro answer world'' history'' hcontinues ⟨hmuted, hcall⟩
  refine ⟨trivial, ⟨hunstopped.continues.trans hcontinues,
    hunstopped.muted.trans hunstopped.continues hmuted⟩, ?_⟩
  intro hstopped
  apply hunstopped.not_stopped
  rcases hclosed with hbusy | hclosed
  · apply hmuted.busy _ hstopped
    rwa [busy_continued hunstopped.continues]
  · apply hcall hclosed hstopped

/-- The programs of a client are parts of a call. -/
theorem runs_ofCode_hush {code : Code S C K M ε α} (hasks : code.Asks Request.Orderly) :
  (stopContract.judgement (Hush world history)).runs (ofCode code)
  := by
  apply runs_ofCode _ _ hasks
  · intro world' history' memory hhush
    exact hhush.of_held ⟨rfl, rfl, rfl, rfl, rfl⟩ rfl rfl
  · intro request horderly
    apply runs_ask_hush
    intro _ _ _
    apply horderly

theorem runs_report_hush (report : Report) :
  (stopContract.judgement (Hush world history)).runs
    (ask (.report report) : Engine S C K M ε Unit)
  := by
  apply runs_ask_hush
  intro _ _ _
  trivial

/-- An action is queued only while the machine is mounted. -/
theorem runs_dispatch_hush (action : Action K) :
  (stopContract.judgement (Hush world history)).runs (dispatch action : Engine S C K M ε Unit)
  := by
  intro world' history' hhush
  simp only [dispatch, Contract.ensures_bind, Contract.ensures_world]
  split
  · next hmounted =>
    apply ensures_ask_hush hhush
    intro hstopped
    cases hmounted.symm.trans (hhush.muted.hushed hstopped).mounted_eq
  · apply runs_report_hush _ _ _ hhush

/-- An outermost call ends with nothing queued when the machine has been stopped. -/
theorem runs_act_hush (h : history.Stopped → Hushed world) {program : Engine S C K M ε Unit}
    (hprogram : (stopContract.judgement (Hush { world with acting := true } history)).runs
      program) :
  (stopContract.judgement (Hush world history)).runs (act program)
  := by
  cases hacting : world.acting with
  | true =>
    have hsame : { world with acting := true } = world := by rw [← hacting]
    rw [hsame] at hprogram
    apply runs_act_of_acting _ hprogram
    intro world' history' hhush
    rw [hhush.muted.acting_eq, hacting]
  | false =>
    have hqueue : history.Stopped → world.queue = [] := by
      intro hstopped
      rcases (h hstopped).queue_eq with hqueue | hacting'
      · apply hqueue
      · cases hacting.symm.trans hacting'
    apply runs_act_of_idle _ _ _ _ hprogram
    · intro world' history' hhush
      rw [hhush.muted.acting_eq, hacting]
    · rintro world' history' ⟨hcontinues, -, hbusy, hhushed, hemptied⟩
      refine ⟨hcontinues, rfl, hbusy, ?_, hemptied⟩
      intro hstopped
      obtain ⟨hmounted, hentered, hexit, -⟩ := hhushed hstopped
      exact ⟨hmounted, hentered, hexit, Or.inr rfl⟩
    -- Whatever was queued when the machine was stopped is gone once it has settled.
    · rintro - - world' history' - - ⟨hcontinues, -, hbusy, hhushed, hemptied⟩
      refine ⟨hcontinues, hacting.symm, hbusy, ?_, hemptied⟩
      intro hstopped
      obtain ⟨hmounted, hentered, hexit, -⟩ := hhushed hstopped
      exact ⟨hmounted, hentered, hexit, Or.inl (hemptied hstopped hqueue)⟩
    · apply runs_ask_hush
      intro world' history' hhush hstopped
      apply hhush.muted.emptied hstopped hqueue

/-- The stored cleanups run, and are no longer stored. -/
theorem ensures_runExit_hush (h : history.Stopped → Hushed { world with exit := none }) :
  stopContract.Ensures (runExit : Engine S C K M ε Unit)
    (fun _ world' history' => Hush { world with exit := none } history world' history')
    world history
  := by
  simp only [runExit, Contract.ensures_bind, Contract.ensures_world]
  cases hexit : world.exit with
  | none =>
    have hsame : { world with exit := none } = world := by rw [← hexit]
    rw [hsame] at h ⊢
    exact hush_refl h
  | some cleanup =>
    simp only [Contract.ensures_bind, Contract.ensures_update]
    apply (ensures_ask_hush (hush_refl h) _).mono
    · rintro _ world' history' - ⟨-, hhush⟩
      exact hhush
    · trivial

/-- The cleanups of a state are run even when the machine has been stopped. -/
theorem runs_leave_hush {cleanup : EffectCleanup K} {event : Event} {context : C} :
  (stopContract.judgement (Hush world history)).runs
    (effectHost.leave cleanup event context : Engine S C K M ε Unit)
  := by
  apply EffectHost.runs_leave
  · intro closed
    apply Contract.runs_update
    intro world' history' hhush
    exact hhush.of_held ⟨rfl, rfl, rfl, rfl, rfl⟩ rfl rfl
  · intro token params
    apply runs_ask_hush
    intro _ _ _
    trivial

/-- While the machine has not been stopped the world may change. -/
theorem runs_update_unstopped {change : World S C K M → World S C K M}
    (hacting : ∀ world, (change world).acting = world.acting) :
  (stopContract.judgement (Unstopped world history)).runs
    (Program.update change : Engine S C K M ε Unit)
  := by
  apply Contract.runs_update
  intro world' history' hunstopped
  exact hunstopped.of_acting (hacting world')

/-- Actions are applied one after another, and none of them stops the machine quietly. -/
theorem runs_drain_unstopped :
  (stopContract.judgement (Unstopped world history)).runs (drain : Engine S C K M ε Nat)
  := by
  apply runs_drain
  · intro world' history' queue hunstopped
    exact hunstopped.of_acting rfl
  · intro action
    exact runs_ask_unstopped (Or.inr trivial) fun _ _ h => h.not_stopped
  · exact runs_ask_unstopped (Or.inr trivial) fun _ _ h => h.not_stopped

/-- The cleanups and effects of a flush find the machine busy. -/
theorem runs_renew_unstopped (hbusy : history.busy = true) (state : MachineState S C) :
  (stopContract.judgement (Unstopped world history)).runs (renew state : Engine S C K M ε Unit)
  := by
  apply runs_renew
  · intro world' history' exit hunstopped
    exact hunstopped.of_acting rfl
  · intro cleanup event context
    apply runs_ask_unstopped (Or.inl hbusy)
    intro _ _ _
    trivial
  · apply runs_ask_unstopped (Or.inl hbusy)
    intro _ history' hunstopped
    refine ⟨?_, hunstopped.not_stopped⟩
    rwa [busy_continued hunstopped.continues]

end GuardedMachine.Synced
