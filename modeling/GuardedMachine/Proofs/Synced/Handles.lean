import GuardedMachine.Proofs.Judgement
import GuardedMachine.Synced.Run

/-!
# Requests through handles

What a request through a handle of a synchronous machine has done when it is answered: it was
dropped, with a report, or its action was queued.  It is dropped exactly when the lock of the handle
is closed or the machine is unmounted (`Delivery`), whatever has happened before.
-/

namespace GuardedMachine.Synced

variable {S C K M ε α : Type}

/-- The handle through which a request is made, and the action that it passes on. -/
def Request.through? : Request K → Option (Handle × Action K)
  | .handleSend handle event => some (handle, .send event)
  | .handleSetContext handle reducer => some (handle, .setContext reducer)
  | _ => none

/-- What a request through a handle has done when it is answered, given the world and the history
when it was called. -/
inductive Delivery (asked : Request K) (handle : Handle) (action : Action K)
    (called : World S C K M) (before : History S C K M) :
    World S C K M → History S C K M → Prop where
  /-- It was dropped. -/
  | dropped (report : Report) :
    called.locks.isLocked handle.lock = true ∨ called.mounted = false →
      Delivery asked handle action called before called
        (.answered (.report report) () called :: .called (.report report) called
          :: .called (.request asked) called :: before)
  /-- Its action was queued. -/
  | queued :
    called.locks.isLocked handle.lock = false → called.mounted = true →
      Delivery asked handle action called before
        { called with queue := called.queue ++ [action] }
        (.answered (.push action) () { called with queue := called.queue ++ [action] }
          :: .called (.push action) called :: .called (.request asked) called :: before)

/-- A request through a handle that is answered was dropped or queued. -/
def Handled (world : World S C K M) (history : History S C K M) : Prop :=
  ∀ asked handle action answer later, asked.through? = some (handle, action) →
    history = .answered (.request asked) answer world :: later →
      ∃ called before, Delivery asked handle action called before world later

variable {world world' : World S C K M} {history history' : History S C K M}
  {asked : Request K} {handle : Handle} {action : Action K} {called : World S C K M}
  {before : History S C K M}

/-- What is dropped changes nothing. -/
theorem Delivery.world_eq (h : Delivery asked handle action called before world history)
    (hdropped : called.locks.isLocked handle.lock = true ∨ called.mounted = false) :
  world = called
  := by
  cases h with
  | dropped => rfl
  | queued hopen hmounted =>
    rcases hdropped with hlocked | hunmounted
    · cases hopen.symm.trans hlocked
    · cases hmounted.symm.trans hunmounted

/-- The history of its call is a part of its history. -/
theorem Delivery.suffix (h : Delivery asked handle action called before world history) :
  .called (.request asked) called :: before <:+ history
  := by
  cases h with
  | dropped | queued =>
    apply (List.suffix_cons _ _).trans (List.suffix_cons _ _)

/-! ### The contract -/

/-- Actions are queued at the end, and reports change nothing. -/
def handleContract : Contract (Call S C K) Call.Answer (World S C K M) where
  pre _ _ _ := True
  post
    | .push action, world, history, _, world', history' =>
      world' = { world with queue := world.queue ++ [action] }
        ∧ history' = .answered (.push action) () world' :: .called (.push action) world :: history
    | .report report, world, history, _, world', history' =>
      world' = world
        ∧ history' = .answered (.report report) () world :: .called (.report report) world :: history
    | _, _, _, _, _, _ => True

/-- A request through a handle reads the lock, and passes the action on or writes a report. -/
theorem ensures_delivery (report : Report) :
  handleContract.Ensures
    (do
      if ← effectHost.isLocked handle.lock then ask (.report report) else dispatch action :
        Engine S C K M ε Unit)
    (fun _ world' history' => Delivery asked handle action world history world' history')
    world (.called (.request asked) world :: history)
  := by
  simp only [effectHost, Contract.ensures_bind, Contract.ensures_world, Contract.ensures_pure]
  cases hlocked : world.locks.isLocked handle.lock with
  | true =>
    use trivial
    rintro _ world' history' - ⟨rfl, rfl⟩
    apply Delivery.dropped report (Or.inl hlocked)
  | false =>
    simp only [Bool.false_eq_true, if_false, dispatch, Contract.ensures_bind,
      Contract.ensures_world]
    cases hmounted : world.mounted with
    | true =>
      use trivial
      rintro _ world' history' - ⟨rfl, rfl⟩
      apply Delivery.queued hlocked hmounted
    | false =>
      use trivial
      rintro _ world' history' - ⟨rfl, rfl⟩
      apply Delivery.dropped _ (Or.inr hmounted)

/-! ### Bodies -/

/-- A request through a handle is carried out when it is dropped or queued. -/
theorem carriesOut_through (hthrough : asked.through? = some (handle, action))
    {body : Engine S C K M ε (asked.Answer S C)}
    (hbody : handleContract.Ensures body
      (fun _ world' history' => Delivery asked handle action world history world' history')
      world (.called (.request asked) world :: history))
    (hpost : ∀ answer world' history',
      handleContract.post (.request asked) world history answer world' history') :
  handleContract.CarriesOut Handled (.request asked) body
    (handleContract.post (.request asked) world history) world history
  := by
  constructor
  · rintro asked handle action answer later - ⟨⟩
  · apply hbody.mono
    intro answer world' history' _ hdelivery _
    refine ⟨?_, hpost _ _ _⟩
    intro asked' handle' action' answer' later hthrough' heq
    cases heq
    cases hthrough.symm.trans hthrough'
    exact ⟨world, history, hdelivery⟩

/-- Of other calls nothing is said. -/
theorem carriesOut_unhandled {call : Call S C K}
    (hcall : ∀ asked handle action, call = .request asked →
      asked.through? ≠ some (handle, action))
    (hpost : ∀ answer world' history',
      handleContract.post call world history answer world' history')
    (body : Engine S C K M ε call.Answer) :
  handleContract.CarriesOut Handled call body (handleContract.post call world history) world history
  := by
  constructor
  · rintro asked handle action answer later - ⟨⟩
  · apply (Contract.ensures_of_pre (fun _ _ _ => trivial) body).mono
    intro answer world' history' _ _ _
    refine ⟨?_, hpost _ _ _⟩
    intro asked handle action answer' later hthrough heq
    cases (List.cons.inj heq).1
    cases hcall asked handle action rfl hthrough

variable [DecidableEq S] [StateValue S] [Context C]

/-- Every body handles the requests that are made through handles. -/
theorem fulfils_handleContract (machine : Machine S C K) (client : Client S C K M ε) :
  handleContract.Fulfils Handled (body machine client)
  := by
  rintro call world history -
  cases call with
  | push action =>
    constructor
    · rintro asked handle action answer later - ⟨⟩
    · intro _
      refine ⟨?_, rfl, rfl⟩
      rintro asked handle action answer later - ⟨⟩
  | report report =>
    constructor
    · rintro asked handle action answer later - ⟨⟩
    · intro _
      refine ⟨?_, rfl, rfl⟩
      rintro asked handle action answer later - ⟨⟩
  | request request =>
    cases request with
    | handleSend handle event =>
      apply carriesOut_through rfl
      · apply ensures_delivery
      · intro _ _ _
        trivial
    | handleSetContext handle reducer =>
      apply carriesOut_through rfl
      · apply ensures_delivery
      · intro _ _ _
        trivial
    | _ =>
      apply carriesOut_unhandled
      · rintro asked handle action heq hthrough
        cases heq
        cases hthrough
      · intro _ _ _
        trivial
  | _ =>
    apply carriesOut_unhandled
    · rintro asked handle action ⟨⟩
    · intro _ _ _
      trivial

/-- In every run requests through handles are dropped or queued. -/
theorem throughout_handled (machine : Machine S C K) (client : Client S C K M ε)
    (code : Code S C K M ε α) (memory : M) (depth : Nat) :
  Moment.Throughout Handled
    (Synced.run machine client depth code
      (World.initial machine.initialState memory)).history
  := by
  have hcode : (handleContract.judgement fun _ _ => True).runs (ofCode code) := by
    intro world history _
    apply (Contract.ensures_of_pre (fun _ _ _ => trivial) _).mono
    intro _ _ _ _ _
    exact ⟨trivial, trivial⟩
  apply (Contract.reaches_run (fulfils_handleContract machine client) hcode trivial depth).1

end GuardedMachine.Synced
