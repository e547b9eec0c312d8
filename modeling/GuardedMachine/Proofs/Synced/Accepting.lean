import GuardedMachine.Proofs.Program.Nesting
import GuardedMachine.Proofs.Synced.Owed

/-!
# Accepted events

An event is accepted when it has been applied without a report of a rejection
(`History.accepts`).  Effects are due as long as no flush has come, and again once an event was
accepted since the last flush (`History.due`); a flush comes when the machine is started and when
its queue has been drained (`History.flushes`).

None of this looks at what a machine remembers of its flushes.  `Fresh` says that the machine
remembers it rightly: the epoch counts the accepted events, and the key of the current state is the
one that was stored by the last flush exactly when nothing is due.
-/

namespace GuardedMachine

/-- Whether a diagnostic says that an event was rejected. -/
def Diagnostic.isRejection : Diagnostic → Bool
  | .undefinedState _ | .unknownEvent _ _ | .guardDenied _ _ | .undefinedGuard _ => true
  | _ => false

namespace Synced

variable {S C K M : Type}

/-! ### Events that were accepted -/

namespace History

/-- Whether a rejection was reported since an action was last taken up. -/
def rejected : History S C K M → Bool
  | [] => false
  | .called (.apply _) _ :: _ => false
  | .called (.report written) _ :: earlier => written.diagnostic.isRejection || rejected earlier
  | _ :: earlier => rejected earlier

/-- Whether an event is accepted at a moment: it has been applied, and no rejection was reported. -/
def accepts : Moment (Call S C K) Call.Answer (World S C K M) → History S C K M → Bool
  | .answered (.apply (.send _)) _ _, earlier => !rejected earlier
  | _, _ => false

/-- How many events were accepted. -/
def accepted : History S C K M → Nat
  | [] => 0
  | moment :: earlier => accepted earlier + (accepts moment earlier).toNat

/-- Whether a flush comes next: the machine is being started, or the queue was drained so that the
machine settles. -/
def flushes : History S C K M → Bool
  | .called (.request .start) _ :: _ => true
  | .answered .drain _ _ :: earlier =>
    match (Moment.openCalls earlier).tail with
    | .settle :: _ => true
    | _ => false
  | _ => false

/-- Whether effects are due: no flush has come so far, or an event was accepted since the last
one. -/
def due : History S C K M → Bool
  | [] => true
  | moment :: earlier => accepts moment earlier || due earlier && !flushes earlier

end History

/-- Whether the machine reports a rejection by a call. -/
def Call.rejects : Call S C K → Bool
  | .report written => written.diagnostic.isRejection
  | _ => false

/-- A call that applies no action when it is made as a part of another. -/
def Call.Sparing : Call S C K → Prop
  | .settle | .drain | .apply _ => False
  | _ => True

section Moments

variable {call : Call S C K} {answer : call.Answer} {world : World S C K M}
  {history : History S C K M}

@[simp]
theorem accepts_called :
  History.accepts (.called call world) history = false
  := rfl

theorem accepted_called :
  History.accepted (.called call world :: history) = history.accepted
  := rfl

/-- When a sparing call is answered no event is accepted. -/
theorem accepts_answered (hsparing : call.Sparing) :
  History.accepts (.answered call answer world) history = false
  := by
  cases call with
  | settle | drain | apply => cases hsparing
  | _ => rfl

theorem rejected_called (hsparing : call.Sparing) :
  History.rejected (.called call world :: history) = (call.rejects || history.rejected)
  := by
  cases call with
  | settle | drain | apply => cases hsparing
  | _ => rfl

@[simp]
theorem rejected_answered :
  History.rejected (.answered call answer world :: history) = history.rejected
  := rfl

/-- A flush comes after a call is answered only if the queue was drained. -/
theorem flushes_answered (hdrain : call ≠ .drain) :
  History.flushes (.answered call answer world :: history) = false
  := by
  cases call with
  | drain => cases hdrain rfl
  | _ => rfl

end Moments

/-! ### What the machine remembers -/

/-- The epoch counts the accepted events, and the key of the current state was stored exactly when
no effects are due.  The key that was stored is not of a later epoch. -/
structure Fresh (world : World S C K M) (history : History S C K M) : Prop where
  epoch_eq : world.epoch = history.accepted
  due_iff : history.due = false ↔ world.entered = some world.key
  past : ∀ key, world.entered = some key → key.epoch ≤ world.epoch

/-- The machine remembers its flushes rightly, and if a flush comes it finds nothing due. -/
structure Rested (world : World S C K M) (history : History S C K M) : Prop where
  fresh : Fresh world history
  idle : history.flushes = true → history.due = false

variable {world world' : World S C K M} {history : History S C K M}

/-- In the beginning effects are due and nothing is remembered. -/
theorem rested_initial (state : MachineState S C) (memory : M) :
  Rested (World.initial state memory : World S C K M) []
  := by
  refine ⟨⟨rfl, ?_, ?_⟩, ?_⟩
  · constructor
    · rintro ⟨⟩
    · rintro ⟨⟩
  · rintro key ⟨⟩
  · rintro ⟨⟩

/-- What is remembered does not depend on the rest of the world. -/
theorem Fresh.of_world_eq (h : Fresh world history) (hvalue : world'.state.value = world.state.value)
    (hepoch : world'.epoch = world.epoch) (hentered : world'.entered = world.entered) :
  Fresh world' history
  where
  epoch_eq := hepoch.trans h.epoch_eq
  due_iff := by
    rw [World.key, hvalue, hepoch, hentered]
    apply h.due_iff
  past := by
    rw [hepoch, hentered]
    apply h.past

theorem Rested.of_world_eq (h : Rested world history)
    (hvalue : world'.state.value = world.state.value) (hepoch : world'.epoch = world.epoch)
    (hentered : world'.entered = world.entered) :
  Rested world' history
  := ⟨h.fresh.of_world_eq hvalue hepoch hentered, h.idle⟩

/-- At a moment at which no effects are run anew, effects become due by an event that is accepted,
and no flush changes that. -/
theorem Rested.due_cons (h : Rested world history)
    (moment : Moment (Call S C K) Call.Answer (World S C K M)) :
  History.due (moment :: history) = (History.accepts moment history || history.due)
  := by
  rw [History.due]
  cases hflushes : history.flushes with
  | false => rw [Bool.not_false, Bool.and_true]
  | true => rw [h.idle hflushes, Bool.false_and]

/-- A moment at which no event is accepted is remembered rightly. -/
theorem Rested.moment (h : Rested world history)
    {moment : Moment (Call S C K) Call.Answer (World S C K M)}
    (haccepts : History.accepts moment history = false) :
  Fresh world (moment :: history)
  where
  epoch_eq := by
    rw [h.fresh.epoch_eq, History.accepted, haccepts]
    rfl
  due_iff := by
    rw [h.due_cons, haccepts, Bool.false_or]
    apply h.fresh.due_iff
  past := h.fresh.past

/-- After an event that is accepted effects are due, because its epoch is a new one. -/
theorem Rested.accepted (h : Rested world history)
    {moment : Moment (Call S C K) Call.Answer (World S C K M)}
    (haccepts : History.accepts moment history = true) (state : MachineState S C) :
  Fresh { world with state, epoch := world.epoch + 1 } (moment :: history)
  where
  epoch_eq := by
    rw [History.accepted, haccepts, ← h.fresh.epoch_eq]
    rfl
  due_iff := by
    rw [h.due_cons, haccepts, Bool.true_or]
    constructor
    · rintro ⟨⟩
    · intro hentered
      have hpast := h.fresh.past _ hentered
      simp only [World.key] at hpast
      omega
  past key hkey := Nat.le_succ_of_le (h.fresh.past key hkey)

/-- At a flush the key of the current state is stored. -/
theorem fresh_renew {state : MachineState S C} (hflushes : history.flushes = true)
    (hepoch : world.epoch = history.accepted) (hentered : world.entered = some world.key) :
  Fresh world (.called (.renew state) world :: history)
  where
  epoch_eq := hepoch
  due_iff := by
    rw [History.due, hflushes]
    simpa using hentered
  past key hkey := by
    rw [hentered] at hkey
    obtain rfl := Option.some.inj hkey
    exact Nat.le_refl _

/-! ### What is said of a run -/

/-- Effects are run anew exactly when they are due and a flush comes, and they are those of the
current state. -/
def Rerun (world : World S C K M) : History S C K M → Prop
  | [] => True
  | moment :: earlier =>
    ((∃ state, moment.made? = some (.renew state))
        ↔ History.flushes earlier = true ∧ History.due earlier = true)
      ∧ ∀ state, moment.made? = some (.renew state) → state = world.state

/-- Effects are not run anew at a moment at which nothing is due. -/
theorem Rested.rerun (h : Rested world history)
    {moment : Moment (Call S C K) Call.Answer (World S C K M)}
    (hmade : ∀ state, moment.made? ≠ some (.renew state)) :
  Rerun world' (moment :: history)
  := by
  constructor
  · constructor
    · rintro ⟨state, hstate⟩
      cases hmade state hstate
    · rintro ⟨hflushes, hdue⟩
      cases (h.idle hflushes).symm.trans hdue
  · intro state hstate
    cases hmade state hstate

/-- What an action has done that was taken up in a world, if it is known whether it was accepted. -/
inductive Applied (definition : Definition S C) [DecidableEq S] (taken world : World S C K M) :
    Action K → Bool → Prop where
  /-- An event that is accepted leads to the target of its row. -/
  | accepted {event : Event} {row : Target S} :
    definition.transition? taken.state.value event.kind = some row →
      world.state
          = { value := row.target
              context := taken.state.context
              event
              nextEvents := definition.nextEvents row.target } →
        Applied definition taken world (.send event) true
  /-- An event that is rejected leads nowhere. -/
  | rejected {event : Event} :
    world.state = taken.state → Applied definition taken world (.send event) false
  /-- An update replaces the context. -/
  | updated {reducer : K} {context : C} :
    world.state = { taken.state with context } →
      Applied definition taken world (.setContext reducer) false

/-- An action that has been applied led to where it leads when it is accepted or not. -/
def LedTo (definition : Definition S C) [DecidableEq S] (world : World S C K M)
    (history : History S C K M) : Prop :=
  ∀ action later, history = .answered (.apply action) () world :: later →
    ∃ taken before moments,
      Moment.Nested (.called (.apply action) taken :: before) moments later
        ∧ Applied definition taken world action
            (History.accepts (.answered (.apply action) () world) later)

end Synced

end GuardedMachine
