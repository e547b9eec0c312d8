import GuardedMachine.Proofs.Dispatch.Oracle
import GuardedMachine.Synced.Run

/-!
# The queue of a synchronous machine

What was enqueued and what was applied are read off the history of a run.  `InOrder` says of a
moment that the actions applied so far, followed by those that are queued, are the actions enqueued
so far, and that the state is where the applied actions lead, except that an action that is being
applied has not changed it yet.  `Kept` says how two moments of a run are related, and `Ready` and
`Next` when actions may be applied.
-/

namespace GuardedMachine.Synced

variable {S C K M ε α : Type}

/-! ### What was enqueued and what was applied -/

/-- The action that is enqueued at a moment. -/
def enqueuedAt : Moment (Call S C K) Call.Answer (World S C K M) → List (Action K)
  | .answered (.push action) _ _ => [action]
  | _ => []

/-- The action that begins to be applied at a moment. -/
def appliedAt : Moment (Call S C K) Call.Answer (World S C K M) → List (Action K)
  | .called (.apply action) _ => [action]
  | _ => []

namespace History

/-- The actions enqueued so far, the first one first. -/
def enqueued (history : History S C K M) : List (Action K) :=
  Moment.collect enqueuedAt history

/-- The actions applied so far, the first one first. -/
def applied (history : History S C K M) : List (Action K) :=
  Moment.collect appliedAt history

/-- Whether an action is being applied. -/
def Applying (history : History S C K M) (action : Action K) : Prop :=
  .apply action ∈ Moment.openCalls history

end History

theorem applying_continued {history history' : History S C K M}
    (h : Moment.Continues history history') (action : Action K) :
  history'.Applying action ↔ history.Applying action
  := by rw [History.Applying, History.Applying, h.openCalls_eq]

/-- A call that neither enqueues nor applies an action itself. -/
def Call.Plain : Call S C K → Prop
  | .push _ => False
  | .apply _ => False
  | _ => True

section Plain

variable {call : Call S C K} (hplain : call.Plain) (world : World S C K M)
  (history : History S C K M)

include hplain

theorem enqueued_answered (answer : call.Answer) :
  History.enqueued (.answered call answer world :: history) = history.enqueued
  := by
  cases call with
  | push action => cases hplain
  | _ => apply List.append_nil

theorem applied_called :
  History.applied (.called call world :: history) = history.applied
  := by
  cases call with
  | apply action => cases hplain
  | _ => apply List.append_nil

theorem applying_called (action : Action K) :
  History.Applying (.called call world :: history) action ↔ history.Applying action
  := by
  cases call with
  | apply action => cases hplain
  | _ => simp [History.Applying, Moment.openCalls]

end Plain

@[simp]
theorem enqueued_called (call : Call S C K) (world : World S C K M) (history : History S C K M) :
  History.enqueued (.called call world :: history) = history.enqueued
  := List.append_nil _

@[simp]
theorem applied_answered (call : Call S C K) (answer : call.Answer) (world : World S C K M)
    (history : History S C K M) :
  History.applied (.answered call answer world :: history) = history.applied
  := List.append_nil _

variable [DecidableEq S] [StateValue S] [Context C]

/-! ### The invariant -/

/-- Actions are applied in the order in which they are enqueued, each to the state that the
previous one left. -/
structure InOrder (machine : Machine S C K) (oracle : Oracle C K) (world : World S C K M)
    (history : History S C K M) : Prop where
  /-- What was applied, followed by what is queued, is what was enqueued. -/
  enqueued_eq : history.enqueued = history.applied ++ world.queue
  /-- When no action is being applied the state is where the applied actions lead. -/
  settled : (∀ action, ¬history.Applying action) →
    machine.LeadsTo oracle history.applied world.state
  /-- While an action is being applied it is the last one, and the state is where the others
  lead. -/
  applying : ∀ action, history.Applying action → world.acting = true ∧
    ∃ earlier, history.applied = earlier ++ [action] ∧ machine.LeadsTo oracle earlier world.state

variable {machine : Machine S C K} {oracle : Oracle C K} {world world' world'' : World S C K M}
  {history history' history'' : History S C K M}

/-- The invariant depends on what was enqueued, what was applied and what is being applied. -/
theorem InOrder.congr (h : InOrder machine oracle world history)
    (henqueued : history'.enqueued = history.enqueued)
    (happlied : history'.applied = history.applied)
    (happlying : ∀ action, history'.Applying action ↔ history.Applying action) :
  InOrder machine oracle world history'
  where
  enqueued_eq := by rw [henqueued, happlied, h.enqueued_eq]
  settled hnone := by
    rw [happlied]
    apply h.settled
    intro action
    rw [← happlying]
    apply hnone
  applying action haction := by
    rw [happlied]
    apply h.applying action ((happlying action).mp haction)

/-- A plain call changes nothing when it is made. -/
theorem InOrder.called {call : Call S C K} (hplain : call.Plain)
    (h : InOrder machine oracle world history) :
  InOrder machine oracle world (.called call world :: history)
  := by
  apply h.congr (enqueued_called _ _ _) (applied_called hplain _ _)
  apply applying_called hplain

/-- A plain call changes nothing when it is answered. -/
theorem InOrder.answered {call : Call S C K} (hplain : call.Plain)
    (hcontinues : Moment.Continues (.called call world :: history) history')
    (h : InOrder machine oracle world' history') (answer : call.Answer) :
  InOrder machine oracle world' (.answered call answer world' :: history')
  := by
  apply h.congr (enqueued_answered hplain _ _ _) (applied_answered _ _ _ _)
  intro action
  rw [applying_continued (hcontinues.answered answer world'), applying_continued hcontinues,
    applying_called hplain]

/-- The invariant depends on the queue, the state and whether an outermost call is running. -/
theorem InOrder.of_world_eq (h : InOrder machine oracle world history)
    (hqueue : world'.queue = world.queue) (hstate : world'.state = world.state)
    (hacting : world'.acting = world.acting) :
  InOrder machine oracle world' history
  where
  enqueued_eq := by rw [hqueue, h.enqueued_eq]
  settled := by
    rw [hstate]
    apply h.settled
  applying := by
    rw [hstate, hacting]
    apply h.applying

/-- From one moment to another the order is kept, and in a part of an outermost call no action is
applied and the state stays. -/
structure Kept (machine : Machine S C K) (oracle : Oracle C K) (world : World S C K M)
    (history : History S C K M) (world' : World S C K M) (history' : History S C K M) : Prop where
  inOrder : InOrder machine oracle world' history'
  acting_eq : world'.acting = world.acting
  state_eq : world.acting = true → world'.state = world.state
  applied_eq : world.acting = true → history'.applied = history.applied

theorem Kept.refl (h : InOrder machine oracle world history) :
  Kept machine oracle world history world history
  := ⟨h, rfl, fun _ => rfl, fun _ => rfl⟩

theorem Kept.trans (h : Kept machine oracle world history world' history')
    (h' : Kept machine oracle world' history' world'' history'') :
  Kept machine oracle world history world'' history''
  where
  inOrder := h'.inOrder
  acting_eq := h'.acting_eq.trans h.acting_eq
  state_eq hacting := (h'.state_eq (h.acting_eq.trans hacting)).trans (h.state_eq hacting)
  applied_eq hacting := (h'.applied_eq (h.acting_eq.trans hacting)).trans (h.applied_eq hacting)

/-- What the body of a plain call keeps is kept by the call. -/
theorem Kept.answered {call : Call S C K} (hplain : call.Plain)
    (hcontinues : Moment.Continues (.called call world :: history) history')
    (h : Kept machine oracle world (.called call world :: history) world' history')
    (answer : call.Answer) :
  Kept machine oracle world history world' (.answered call answer world' :: history')
  where
  inOrder := h.inOrder.answered hplain hcontinues answer
  acting_eq := h.acting_eq
  state_eq := h.state_eq
  applied_eq hacting := by
    rw [applied_answered, h.applied_eq hacting, applied_called hplain]

/-- The call that enqueues an action changes nothing when it is made. -/
theorem InOrder.pushing (h : InOrder machine oracle world history) (action : Action K) :
  InOrder machine oracle world (.called (.push action) world :: history)
  := by
  apply h.congr (enqueued_called _ _ _) (List.append_nil _)
  intro action'
  simp [History.Applying, Moment.openCalls]

/-- An action is enqueued behind those that are queued. -/
theorem InOrder.pushed (h : InOrder machine oracle world history) (action : Action K) :
  Kept machine oracle world history { world with queue := world.queue ++ [action] }
    (.answered (.push action) () { world with queue := world.queue ++ [action] }
      :: .called (.push action) world :: history)
  := by
  have henqueued (world' : World S C K M) : History.enqueued
      (.answered (.push action) () world' :: .called (.push action) world :: history)
      = history.enqueued ++ [action] := by
    change History.enqueued (.called (.push action) world :: history) ++ [action] = _
    rw [enqueued_called]
  have happlied (world' : World S C K M) : History.applied
      (.answered (.push action) () world' :: .called (.push action) world :: history)
      = history.applied := by
    rw [applied_answered]
    apply List.append_nil
  refine ⟨⟨?_, ?_, ?_⟩, rfl, fun _ => rfl, fun _ => happlied _⟩
  · rw [henqueued, happlied, h.enqueued_eq]
    apply List.append_assoc
  · rw [happlied]
    apply h.settled
  · rw [happlied]
    apply h.applying

/-- An outermost call is running, and no action is being applied. -/
structure Ready (machine : Machine S C K) (oracle : Oracle C K) (world : World S C K M)
    (history : History S C K M) : Prop where
  inOrder : InOrder machine oracle world history
  acting_eq : world.acting = true
  not_applying : ∀ action, ¬history.Applying action

/-- When an outermost call begins no action is being applied. -/
theorem Ready.of_idle (h : InOrder machine oracle world history) (hidle : world.acting = false) :
  Ready machine oracle { world with acting := true } history
  := by
  have hnone : ∀ action, ¬history.Applying action := by
    intro action haction
    have hacting := (h.applying action haction).1
    rw [hidle] at hacting
    cases hacting
  refine ⟨⟨h.enqueued_eq, h.settled, ?_⟩, rfl, hnone⟩
  intro action haction
  cases hnone action haction

/-- When an outermost call ends the order is kept. -/
theorem Ready.inOrder_idle (h : Ready machine oracle world history) :
  InOrder machine oracle { world with acting := false } history
  := by
  refine ⟨h.inOrder.enqueued_eq, h.inOrder.settled, ?_⟩
  intro action haction
  cases h.not_applying action haction

/-- An action is taken from the queue, and is the next one to be applied. -/
structure Next (machine : Machine S C K) (oracle : Oracle C K) (action : Action K)
    (world : World S C K M) (history : History S C K M) : Prop where
  acting_eq : world.acting = true
  not_applying : ∀ action, ¬history.Applying action
  enqueued_eq : history.enqueued = history.applied ++ action :: world.queue
  leadsTo : machine.LeadsTo oracle history.applied world.state

/-- No action is being applied after a call if none was before. -/
theorem Ready.continued (h : Ready machine oracle world history)
    (hcontinues : Moment.Continues history history')
    (hinOrder : InOrder machine oracle world' history') (hacting : world'.acting = true) :
  Ready machine oracle world' history'
  where
  inOrder := hinOrder
  acting_eq := hacting
  not_applying action := by
    rw [applying_continued hcontinues]
    apply h.not_applying

/-- The call that applies the next action begins to apply it. -/
theorem Next.called {action : Action K} (h : Next machine oracle action world history) :
  InOrder machine oracle world (.called (.apply action) world :: history)
  where
  enqueued_eq := by
    rw [enqueued_called, h.enqueued_eq]
    exact (List.append_assoc history.applied [action] world.queue).symm
  settled hnone := by cases hnone action List.mem_cons_self
  applying action' haction' := by
    rcases List.mem_cons.mp haction' with heq | hearlier
    · cases heq
      exact ⟨h.acting_eq, history.applied, rfl, h.leadsTo⟩
    · cases h.not_applying action' hearlier

/-- The next action is applied when the state has become what its step makes of the state that was
read. -/
theorem Next.answered {action : Action K} (h : Next machine oracle action world history)
    (hcontinues : Moment.Continues (.called (.apply action) world :: history) history')
    (hkept : Kept machine oracle world (.called (.apply action) world :: history) world' history')
    (hqueue : world''.queue = world'.queue)
    (hstate : world''.state = (Id.run
      (oracle.host.step machine.definition machine.config world.state action)).stateFrom world.state) :
  InOrder machine oracle world'' (.answered (.apply action) () world'' :: history')
  := by
  have hnone : ∀ action', ¬History.Applying
      (.answered (.apply action) () world'' :: history') action' := by
    intro action'
    rw [applying_continued (hcontinues.answered _ _)]
    apply h.not_applying
  have happlied : History.applied (.answered (.apply action) () world'' :: history')
      = history.applied ++ [action] := by
    rw [applied_answered, hkept.applied_eq h.acting_eq]
    rfl
  constructor
  · rw [hqueue, applied_answered, ← hkept.inOrder.enqueued_eq]
    apply List.append_nil
  · intro _
    rw [happlied, hstate]
    apply h.leadsTo.step
  · intro action' haction'
    cases hnone action' haction'

end GuardedMachine.Synced
