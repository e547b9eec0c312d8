import GuardedMachine.Proofs.Dispatch.Oracle
import GuardedMachine.Proofs.Program.Returning
import GuardedMachine.Proofs.Shared.Notices

/-!
# Feeding a shared machine

The owner of a shared machine dispatches actions one after the other.  If guards and reducers answer
as an oracle does and observers perform no actions, `Client.Tame`, then every dispatch returns and
tells whether its action was accepted, and the machine ends in the state to which the actions lead
(`returns_dispatchAll`).
-/

namespace GuardedMachine.Shared

variable {S C K M ε α : Type}

/-! ### Programs that perform no actions -/

/-- A request that performs no action. -/
def Request.Idle : Request K → Prop
  | .send _ => False
  | .setContext _ => False
  | .dispatch _ => False
  | _ => True

/-- A program of a client that neither fails nor performs actions. -/
def Tame : Code S C K M ε α → Prop
  | .done _ => True
  | .fail _ => False
  | .read next => ∀ memory, Tame (next memory)
  | .write _ next => Tame next
  | .call request next => request.Idle ∧ ∀ answer, Tame (next answer)

/-- Guards and reducers answer as an oracle does, and observers perform no actions.

A guard or a reducer is the answer of the oracle and nothing else: it makes no requests and neither
reads nor writes the memory.  An observer may do both, as long as no request performs an action. -/
structure Client.Tame (client : Client S C K M ε) (oracle : Oracle C K) : Prop where
  guard : ∀ token event context,
    client.guard token event context = pure (oracle.guard token event context)
  reduce : ∀ token context, client.reduce token context = pure (oracle.reduce token context)
  observe : ∀ token state, Shared.Tame (client.observe token state)

/-- Dispatch actions one after the other, and collect what is answered. -/
def dispatchAll : List (Action K) → Code S C K M ε (List Bool)
  | [] => return []
  | action :: rest => do
    let changed ← Program.ask (Request.dispatch action)
    let answers ← dispatchAll rest
    return changed :: answers

theorem ofCode_bind {β : Type} (code : Code S C K M ε α) (f : α → Code S C K M ε β) :
  ofCode (code >>= f) = ofCode code >>= fun a => ofCode (f a)
  := Program.embed_bind code f

variable [DecidableEq S] [StateValue S] [Context C] {machine : Machine S C K}
  {client : Client S C K M ε} {oracle : Oracle C K} {state : MachineState S C}
  {world : World S C K M}

/-! ### Observers -/

/-- Requests that perform no action leave the state as it is. -/
theorem returning_idle {request : Request K} (hidle : request.Idle) :
  (Program.returning (body machine client) (World.state · = state)).runs
    (ask (.request request) : Engine S C K M ε (request.Answer S C))
  := by
  apply Program.returning_ask
  change (Program.returning _ _).runs
    (serveRequest request : Engine S C K M ε (request.Answer S C))
  cases request with
  | send | setContext | dispatch => cases hidle
  | subscribe observer =>
    apply Judgement.runs_bind Program.returning_world
    intro world
    apply Judgement.runs_bind
    · apply Program.returning_update
      intro world h
      apply h
    · intro _
      apply Judgement.runs_pure
  | unsubscribe id =>
    apply Judgement.runs_bind Program.returning_world
    intro world
    split
    · apply Judgement.runs_bind
      · apply Program.returning_update
        intro world h
        apply h
      · intro _
        apply Judgement.runs_pure
    · apply Judgement.runs_pure
  | release =>
    apply Program.returning_update
    intro world h
    apply h
  | observerCount | state =>
    apply Judgement.runs_bind Program.returning_world
    intro world
    apply Judgement.runs_pure

/-- Programs that perform no action return. -/
theorem returning_tame {code : Code S C K M ε α} (htame : Tame code) :
  (Program.returning (body machine client) (World.state · = state)).runs (ofCode code)
  := by
  induction code with
  | done result => apply Judgement.runs_pure
  | fail error => cases htame
  | read next ih =>
    intro world h
    exact ih world.memory (htame world.memory) world h
  | write memory next ih =>
    intro world h
    exact ih htame { world with memory } h
  | call request next ih =>
    obtain ⟨hidle, hnext⟩ := htame
    change (Program.returning _ _).runs
      (ask (.request request) >>= fun answer => ofCode (next answer))
    apply Judgement.runs_bind (returning_idle hidle)
    intro answer
    apply ih answer (hnext answer)

variable (htame : client.Tame oracle)

include htame

/-- Notifying observers returns. -/
theorem returning_notify (ids : List Nat) :
  (Program.returning (body machine client) (World.state · = state)).runs
    (notify ids : Engine S C K M ε Unit)
  := by
  induction ids with
  | nil => apply Judgement.runs_pure
  | cons id rest ih =>
    apply Judgement.runs_bind Program.returning_world
    intro world
    split
    · apply ih
    · apply Judgement.runs_bind
      · apply Program.returning_ask
        apply returning_tame (htame.observe _ _)
      · intro _
        apply ih

/-! ### Actions -/

/-- A step has the outcome that the oracle's has, and leaves the world as it is. -/
theorem returns_step (action : Action K) (state : MachineState S C) (world : World S C K M) :
  (stepHost.step machine.definition machine.config state action :
      Engine S C K M ε (Outcome S C)).Returns (body machine client) world fun outcome world' =>
    outcome = machine.outcome oracle state action ∧ world' = world
  := by
  have hstep : (Program.returning (body machine client) (· = world)).holds
      (· = machine.outcome oracle state action)
      (stepHost.step machine.definition machine.config state action :
        Engine S C K M ε (Outcome S C)) := by
    apply StepHost.holds_step_eq
    · intro token event context
      apply Program.returning_ask
      change (Program.returning _ _).holds _ (ofCode (client.guard token event context))
      rw [htame.guard]
      exact Judgement.holds_pure _ rfl
    · intro token context
      apply Program.returning_ask
      change (Program.returning _ _).holds _ (ofCode (client.reduce token context))
      rw [htame.reduce]
      exact Judgement.holds_pure _ rfl
    · intro report
      apply Program.returning_ask
      apply Judgement.runs_pure
  apply hstep world rfl

/-- Once a change has been made, observers are notified, and the dispatch tells that it was made. -/
theorem returns_changed (next : MachineState S C) (world : World S C K M) :
  (do
    Program.update fun world => { world with state := next }
    let world ← Program.world
    notify (world.observers.map fun observer => observer.1)
    Program.update fun world => { world with running := world.running - 1 }
    return true : Engine S C K M ε Bool).Returns (body machine client) world
      fun changed world' => changed = true ∧ world'.state = next
  := by
  have hmade : (Program.update fun world => { world with state := next } :
      Engine S C K M ε Unit).Returns (body machine client) world
        fun _ world' => world'.state = next := by
    apply Program.returns_update
    rfl
  apply hmade.bind
  intro _ world₁ h₁
  apply Program.returns_world
  apply (returning_notify htame _ world₁ h₁).bind
  rintro _ world₂ ⟨-, h₂⟩ history
  exact ⟨_, _, history, ⟨0, rfl⟩, rfl, h₂⟩

/-- A dispatch leads to the state to which its action leads, and tells whether it was accepted. -/
theorem returns_perform (action : Action K) (h : world.state = state) :
  (ask (.perform action) : Engine S C K M ε Bool).Returns (body machine client) world
    fun changed world' => changed = !(machine.outcome oracle state action).isUnchanged
      ∧ world'.state = machine.next oracle state action
  := by
  obtain rfl := h
  have hrunning : (Program.update fun world => { world with running := world.running + 1 } :
      Engine S C K M ε Unit).Returns (body machine client) world
        fun _ world' => world'.state = world.state := by
    apply Program.returns_update
    rfl
  apply Program.returns_ask
  apply Program.returns_world
  apply hrunning.bind
  intro _ world₁ h₁
  apply (returns_step htame action world.state world₁).bind
  rintro outcome _ ⟨houtcome, rfl⟩
  rw [Machine.next, ← houtcome]
  cases outcome with
  | unchanged =>
    intro history
    exact ⟨_, _, history, ⟨0, rfl⟩, rfl, h₁⟩
  | contextUpdated next => apply returns_changed htame next
  | transitioned next => apply returns_changed htame next

/-- Dispatching actions one after the other leads to the state to which they lead, and each dispatch
tells whether its action was accepted. -/
theorem returns_dispatchAll (actions : List (Action K)) (h : world.state = state) :
  (ofCode (dispatchAll actions) : Engine S C K M ε (List Bool)).Returns (body machine client) world
    fun answers world' => answers = machine.changes oracle state actions
      ∧ world'.state = machine.after oracle state actions
  := by
  induction actions generalizing state world with
  | nil => exact Program.returns_pure ⟨rfl, h⟩
  | cons action rest ih =>
    rw [dispatchAll, ofCode_bind]
    apply (Program.returns_ask (returns_perform htame action h)).bind
    rintro _ world₁ ⟨rfl, h₁⟩
    rw [ofCode_bind]
    apply (ih h₁).bind
    rintro _ world₂ ⟨rfl, h₂⟩
    exact Program.returns_pure ⟨rfl, h₂⟩

end GuardedMachine.Shared
