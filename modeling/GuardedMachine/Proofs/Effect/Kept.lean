import GuardedMachine.Proofs.Effect.Modes
import GuardedMachine.Proofs.Synced.Handles
import GuardedMachine.Proofs.Synced.Locked

/-!
# Kept handles

An effect may keep its handle and use it later.  A synchronous machine drops what is asked through
a kept handle unless the effects or the cleanups of the same entry are just being run, and is not
changed by it; an owner that enters its states otherwise never finds a handle locked.
-/

namespace GuardedMachine

namespace Synced

variable {S C K M : Type} {world : World S C K M} {history : History S C K M}

/-- A request through a handle that an effect or a cleanup was given has changed nothing when it is
answered, if neither the effects nor the cleanups of the handle's entry were being run. -/
def Unaffected (world : World S C K M) (history : History S C K M) : Prop :=
  ∀ asked handle action answer later, asked.through? = some (handle, action) →
    history = .answered (.request asked) answer world :: later →
      ∃ called before, Delivery asked handle action called before world later
        ∧ (handle ∈ History.handles before → ¬Running handle.lock (Moment.opened before) →
          world = called)

/-- What finds its lock closed is dropped, and at that time the lock is closed. -/
theorem unaffected_of_safe (hsafe : Moment.Throughout LockSafe history)
    (hhandled : Handled world history) :
  Unaffected world history
  := by
  intro asked handle action answer later hthrough hanswered
  obtain ⟨called, before, hdelivery⟩ :=
    hhandled asked handle action answer later hthrough hanswered
  refine ⟨called, before, hdelivery, ?_⟩
  intro hgiven hidle
  apply hdelivery.world_eq
  left
  have hcall : .called (.request asked) called :: before <:+ history := by
    rw [hanswered]
    apply hdelivery.suffix.trans (List.suffix_cons _ _)
  have hopen := (hsafe _ _ hcall).open_iff handle hgiven
  apply eq_true_of_ne_false
  intro hunlocked
  apply hidle (hopen.mp hunlocked)

end Synced

variable {S C K M ε α β : Type} [DecidableEq S] [StateValue S] [Context C]

/-- In every run of a synchronous machine the lock of a handle is open exactly while the effects or
the cleanups of its entry are being run, and what is asked through the handle at other times changes
nothing.  In every run of an owner of effects the locks of the entries that are not synchronous
are open. -/
theorem kept_handles_locked (machine : Machine S C K) (client : Synced.Client S C K M ε)
    (code : Synced.Code S C K M ε α) (definition : Definition S C) (config : Config K)
    (owner : Runner.Client S C K M ε) (program : Runner.Code S C K M ε β) (memory : M)
    (depth : Nat) :
  (Synced.run machine client depth code
      (Synced.World.initial machine.initialState memory)).Reaches
    (fun world history => Synced.LockSafe world history ∧ Synced.Unaffected world history)
    (fun _ world history => Moment.openCalls history = []
      ∧ ∀ handle ∈ Synced.History.handles history, world.locks.isLocked handle.lock = true)
  ∧ (Runner.run definition config owner depth program (Runner.World.initial memory)).Reaches
    Runner.StaysOpen fun _ => Runner.StaysOpen
  := by
  have hsafe := Synced.locks_safe machine client code memory depth
  constructor
  · constructor
    · intro moment earlier hmoment
      have hbefore : Moment.Throughout Synced.LockSafe (moment :: earlier) := by
        intro moment' earlier' hearlier
        apply hsafe.1 _ _ (hearlier.trans hmoment)
      use hsafe.1 moment earlier hmoment
      apply Synced.unaffected_of_safe hbefore
      apply Synced.throughout_handled machine client code memory depth _ _ hmoment
    · apply hsafe.2
  · apply Runner.reaches_stays_open

end GuardedMachine
