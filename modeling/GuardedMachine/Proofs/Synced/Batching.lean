import GuardedMachine.Proofs.Program.Given
import GuardedMachine.Proofs.Synced.Renewed

/-!
# What one outermost call runs

Callbacks are quiet when they neither queue actions nor start the machine; they may stop it.  While
only quiet callbacks are called no effects are run, and cleanups only if they were stored, which is
what stopping does (`Undisturbed`).  So a machine that settles drains its queue once, runs effects
at most once and then finds nothing queued.

The promises of this module rest on those of `renewContract`, by which the state is spared
meanwhile.
-/

namespace GuardedMachine.Synced

variable {S C K M ε α : Type}

/-! ### Quiet callbacks -/

/-- A request that neither queues an action nor runs effects, given the callbacks that are quiet. -/
def Request.Quiet (quiet : K → Prop) : Request K → Prop
  | .act token => quiet token
  | .stop | .setMounted _ | .isMounted | .pending | .state | .isLocked _ => True
  | _ => False

/-- Guards, reducers, effects and cleanups make only quiet requests, and so do the callbacks that
are said to be quiet. -/
structure Client.Quiet (quiet : K → Prop) (client : Client S C K M ε) : Prop where
  guard : ∀ token event context, (client.guard token event context).Asks (Request.Quiet quiet)
  reduce : ∀ token context, (client.reduce token context).Asks (Request.Quiet quiet)
  effect : ∀ token params, (client.effect token params).Asks (Request.Quiet quiet)
  cleanup : ∀ token params, (client.cleanup token params).Asks (Request.Quiet quiet)
  callback : ∀ token, quiet token → (client.callback token).Asks (Request.Quiet quiet)

/-! ### Sets of cleanups and of effects -/

/-- The cleanups that begin to be run at a moment, those of one entry at a time. -/
def leftAt : Moment (Call S C K) Call.Answer (World S C K M) → List (EffectCleanup K)
  | .called (.leave cleanup _ _) _ => [cleanup]
  | _ => []

/-- The state whose effects begin to be run at a moment. -/
def enteredAt : Moment (Call S C K) Call.Answer (World S C K M) → List (MachineState S C)
  | .called (.enter state) _ => [state]
  | _ => []

/-- What was run so far, in the order of time: cleanups, those of one entry at a time, and the
effects of states. -/
structure Tally (S C K : Type) where
  left : List (EffectCleanup K)
  entered : List (MachineState S C)

/-- What was run in a history. -/
def History.tally (history : History S C K M) : Tally S C K where
  left := Moment.collect leftAt history
  entered := Moment.collect enteredAt history

/-- A call that runs neither the effects of a state nor the cleanups of one. -/
def Call.Idle : Call S C K → Prop
  | .leave _ _ _ | .enter _ => False
  | _ => True

section Moments

variable {call : Call S C K} {answer : call.Answer} {world : World S C K M}
  {history : History S C K M}

theorem tally_called (hidle : call.Idle) :
  History.tally (.called call world :: history) = history.tally
  := by
  rw [History.tally, Moment.collect, Moment.collect]
  cases call with
  | leave | enter => cases hidle
  | _ => simp only [leftAt, enteredAt, List.append_nil, History.tally]

theorem tally_answered :
  History.tally (.answered call answer world :: history) = history.tally
  := by simp only [History.tally, Moment.collect, leftAt, enteredAt, List.append_nil]

end Moments

variable {world world' world'' : World S C K M} {tally tally' tally'' : Tally S C K}
  {quiet : K → Prop}

/-- No effects were run, and cleanups only if they were stored. -/
structure Undisturbed (world : World S C K M) (tally : Tally S C K) (world' : World S C K M)
    (tally' : Tally S C K) : Prop where
  remembered_eq : world'.entered = world.entered
  left_eq : tally'.left ++ world'.exit.toList = tally.left ++ world.exit.toList
  entered_eq : tally'.entered = tally.entered

theorem Undisturbed.refl (world : World S C K M) (tally : Tally S C K) :
  Undisturbed world tally world tally
  := ⟨rfl, rfl, rfl⟩

theorem Undisturbed.trans (h : Undisturbed world tally world' tally')
    (h' : Undisturbed world' tally' world'' tally'') :
  Undisturbed world tally world'' tally''
  where
  remembered_eq := h'.remembered_eq.trans h.remembered_eq
  left_eq := h'.left_eq.trans h.left_eq
  entered_eq := h'.entered_eq.trans h.entered_eq

/-- The rest of the world may change. -/
theorem Undisturbed.of_world_eq (h : Undisturbed world tally world' tally')
    (hremembered : world''.entered = world'.entered) (hexit : world''.exit = world'.exit) :
  Undisturbed world tally world'' tally'
  where
  remembered_eq := hremembered.trans h.remembered_eq
  left_eq := by rw [hexit, h.left_eq]
  entered_eq := h.entered_eq

/-- Moreover nothing is queued where nothing was. -/
structure Quietly (world : World S C K M) (tally : Tally S C K) (world' : World S C K M)
    (tally' : Tally S C K) : Prop where
  undisturbed : Undisturbed world tally world' tally'
  queue_eq : world.queue = [] → world'.queue = []

theorem Quietly.refl (world : World S C K M) (tally : Tally S C K) :
  Quietly world tally world tally
  := ⟨Undisturbed.refl world tally, id⟩

theorem Quietly.trans (h : Quietly world tally world' tally')
    (h' : Quietly world' tally' world'' tally'') :
  Quietly world tally world'' tally''
  := ⟨h.undisturbed.trans h'.undisturbed, fun hqueue => h'.queue_eq (h.queue_eq hqueue)⟩

theorem Quietly.of_world_eq (h : Quietly world tally world' tally')
    (hremembered : world''.entered = world'.entered) (hexit : world''.exit = world'.exit)
    (hqueue : world'.queue = [] → world''.queue = []) :
  Quietly world tally world'' tally'
  := ⟨h.undisturbed.of_world_eq hremembered hexit, fun hempty => hqueue (h.queue_eq hempty)⟩

/-- The effects of one state were run, and cleanups only if they had been stored. -/
structure RunsOnce (state : MachineState S C) (world : World S C K M) (tally : Tally S C K)
    (world' : World S C K M) (tally' : Tally S C K) : Prop where
  left_eq : ∃ rest, tally'.left ++ rest = tally.left ++ world.exit.toList
  entered_eq : tally'.entered = tally.entered ++ [state]
  queue_eq : world.queue = [] → world'.queue = []

/-- A machine settled: effects were run at most once, and if so those of the state that was reached,
and cleanups were run only if they had been stored. -/
structure Settles (world : World S C K M) (tally : Tally S C K) (world' : World S C K M)
    (tally' : Tally S C K) : Prop where
  left_eq : ∃ rest, tally'.left ++ rest = tally.left ++ world.exit.toList
  entered_eq : tally'.entered = tally.entered
    ∨ tally'.entered = tally.entered ++ [world'.state]

theorem Undisturbed.settles (h : Undisturbed world tally world' tally') :
  Settles world tally world' tally'
  := ⟨⟨_, h.left_eq⟩, .inl h.entered_eq⟩

/-- A machine that was not disturbed settles. -/
theorem Undisturbed.trans_settles (h : Undisturbed world tally world' tally')
    (h' : Settles world' tally' world'' tally'') :
  Settles world tally world'' tally''
  where
  left_eq := by
    obtain ⟨rest, hleft⟩ := h'.left_eq
    exact ⟨rest, hleft.trans h.left_eq⟩
  entered_eq := by
    rw [← h.entered_eq]
    apply h'.entered_eq

/-- A machine whose effects were run has settled if the state is theirs. -/
theorem RunsOnce.settles {state : MachineState S C} (h : RunsOnce state world tally world' tally')
    (hstate : world'.state = state) :
  Settles world tally world' tally'
  where
  left_eq := h.left_eq
  entered_eq := by
    right
    rw [hstate]
    exact h.entered_eq

/-! ### The promises -/

/-- What calls do as a part of an outermost call when callbacks are quiet. -/
def Quieted (quiet : K → Prop) (world : World S C K M) (history : History S C K M)
    (world' : World S C K M) (history' : History S C K M) : Call S C K → Prop
  | .request asked =>
    (asked.Quiet quiet → Quietly world history.tally world' history'.tally)
      ∧ (world.entered = some world.key → Undisturbed world history.tally world' history'.tally)
  | .callback token =>
    (quiet token → Quietly world history.tally world' history'.tally)
      ∧ (world.entered = some world.key → Undisturbed world history.tally world' history'.tally)
  | .settle =>
    Settles world history.tally world' history'.tally
      ∧ (world.queue = [] → world' = world ∧ history'.tally = history.tally)
  | .drain => Undisturbed world history.tally world' history'.tally ∧ world'.queue = []
  | .renew state => RunsOnce state world history.tally world' history'.tally
  | .push _ => Undisturbed world history.tally world' history'.tally
  | call =>
    Quietly world (History.tally (.called call world :: history)) world' history'.tally

/-- What is promised of a call when callbacks are quiet: as a part of an outermost call it does as
little as it should, and as an outermost call that finds nothing due it settles once. -/
def quietPromise (quiet : K → Prop) : Contract.Promise (Call S C K) Call.Answer (World S C K M) :=
  fun call world history _ world' history' =>
    (world.acting = true → Quieted quiet world history world' history' call)
      ∧ ∀ asked, call = .request asked → asked.settles = true → world.acting = false →
          world.entered = some world.key →
            Settles world (History.tally history) world' (History.tally history')

end GuardedMachine.Synced
