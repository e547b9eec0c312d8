import GuardedMachine.Proofs.Program.Nesting
import GuardedMachine.Proofs.Synced.Bodies

/-!
# Locks of handles

The effects that are run when a state is entered share a new lock, which is that of the cleanups
that they return.  Whatever is asked of a synchronous machine, flushes and drains out of turn
included, at every moment of a run the lock of a handle is open exactly while those effects or
those cleanups are being run (`LockSafe`).

`Latched` is the invariant between the moments at which a lock is made, opened and closed: among the
locks made so far the open ones are those whose effects or cleanups are on the stack of open calls,
and the lock of stored cleanups is not.
-/

namespace GuardedMachine.Synced

variable {S C K M ε α : Type}

/-! ### Locks on the stack -/

/-- The lock of the effects or cleanups that a call runs, if it runs some. -/
def Call.lock? : Call S C K → World S C K M → Option Nat
  | .enter _, world => some world.locks.next
  | .leave left _ _, _ => some left.handle.lock
  | _, _ => none

/-- Among calls there is one that runs the effects or the cleanups of a lock. -/
def Running (lock : Nat) (calls : List (Call S C K × World S C K M)) : Prop :=
  ∃ opened ∈ calls, opened.1.lock? opened.2 = some lock

namespace History

/-- The calls that are being carried out: one that is only just made is not. -/
def underway : History S C K M → List (Call S C K × World S C K M)
  | [] => []
  | .called _ _ :: earlier => Moment.opened earlier
  | .answered call answer world :: earlier => Moment.opened (.answered call answer world :: earlier)

/-- The handle that an effect or a cleanup is given at a moment. -/
def handleAt : Moment (Call S C K) Call.Answer (World S C K M) → Option Handle
  | .called (.effect _ params) _ => some params.handle
  | .called (.cleanup _ params) _ => some params.handle
  | _ => none

/-- The handles that effects and cleanups were given. -/
def handles (history : History S C K M) : List Handle :=
  history.filterMap handleAt

end History

/-- The lock of a handle is open exactly while the effects or the cleanups of its entry are being
run. -/
structure LockSafe (world : World S C K M) (history : History S C K M) : Prop where
  open_iff : ∀ handle ∈ history.handles,
    world.locks.isLocked handle.lock = false ↔ Running handle.lock history.underway
  /-- The lock of an entry is new. -/
  enter : ∀ state (earlier : History S C K M), history = .called (.enter state) world :: earlier →
    ∀ handle ∈ earlier.handles, handle.lock < world.locks.next
  /-- An effect is given a handle with the lock of the entry that runs it. -/
  effect : ∀ token params earlier, history = .called (.effect token params) world :: earlier →
    ∃ state begun outer, Moment.opened earlier = (.enter state, begun) :: outer
      ∧ params.handle.lock = begun.locks.next
  /-- So are the cleanups. -/
  entered : ∀ state cleanup later, history = .answered (.enter state) (some cleanup) world :: later →
    ∃ begun outer, Moment.opened later = (.enter state, begun) :: outer
      ∧ cleanup.handle.lock = begun.locks.next
  /-- The cleanups that are run are those of an entry. -/
  leave : ∀ cleanup event context earlier,
    history = .called (.leave cleanup event context) world :: earlier →
      ∃ state entered, .answered (.enter state) (some cleanup) entered ∈ earlier
  /-- Each of them is given the handle of the entry. -/
  cleanup : ∀ token params earlier, history = .called (.cleanup token params) world :: earlier →
    ∃ cleanup event context begun outer,
      Moment.opened earlier = (.leave cleanup event context, begun) :: outer
        ∧ params.handle = cleanup.handle

variable {world world' world'' : World S C K M} {history history' history'' : History S C K M}
  {lock : Nat} {outer : List (Call S C K × World S C K M)}

theorem running_cons {opened : Call S C K × World S C K M} :
  Running lock (opened :: outer) ↔ opened.1.lock? opened.2 = some lock ∨ Running lock outer
  := by simp [Running]

/-- A call that runs neither effects nor cleanups has no lock. -/
theorem running_called {call : Call S C K} (hcall : call.lock? world = none) :
  Running lock ((call, world) :: outer) ↔ Running lock outer
  := by
  rw [running_cons]
  constructor
  · rintro (heq | hrunning)
    · cases hcall.symm.trans heq
    · apply hrunning
  · apply Or.inr

/-! ### The invariant -/

/-- Cleanups may be stored and run: their lock is closed and their entry is over. -/
structure Storable (cleanup : EffectCleanup K) (world : World S C K M)
    (history : History S C K M) : Prop where
  sync_eq : cleanup.sync = true
  lock_lt : cleanup.handle.lock < world.locks.next
  not_running : ¬Running cleanup.handle.lock (Moment.opened history)
  entered : ∃ state entered, .answered (.enter state) (some cleanup) entered ∈ history

/-- The open locks are those whose effects or cleanups are on the stack. -/
structure Latched (world : World S C K M) (history : History S C K M) : Prop where
  open_iff : ∀ lock < world.locks.next,
    world.locks.isLocked lock = false ↔ Running lock (Moment.opened history)
  running_lt : ∀ lock, Running lock (Moment.opened history) → lock < world.locks.next
  handles_lt : ∀ handle ∈ history.handles, handle.lock < world.locks.next
  exit : ∀ cleanup, world.exit = some cleanup → Storable cleanup world history

/-- Only the locks of a world matter. -/
theorem Storable.of_locks {cleanup : EffectCleanup K} (h : Storable cleanup world history)
    (hlocks : world'.locks = world.locks) :
  Storable cleanup world' history
  where
  sync_eq := h.sync_eq
  lock_lt := by
    rw [hlocks]
    apply h.lock_lt
  not_running := h.not_running
  entered := h.entered

/-- What the locks do not depend on may change. -/
theorem Latched.of_world (h : Latched world history) (hlocks : world'.locks = world.locks)
    (hexit : ∀ cleanup, world'.exit = some cleanup → Storable cleanup world history) :
  Latched world' history
  where
  open_iff := by
    rw [hlocks]
    apply h.open_iff
  running_lt := by
    rw [hlocks]
    apply h.running_lt
  handles_lt := by
    rw [hlocks]
    apply h.handles_lt
  exit cleanup hcleanup := (hexit cleanup hcleanup).of_locks hlocks

/-- Cleanups that may be stored may be stored later. -/
theorem Storable.later {cleanup : EffectCleanup K} (h : Storable cleanup world history)
    (hnext : world.locks.next ≤ world'.locks.next) (hsuffix : history <:+ history')
    (hrunning : Running cleanup.handle.lock (Moment.opened history') →
      Running cleanup.handle.lock (Moment.opened history)) :
  Storable cleanup world' history'
  where
  sync_eq := h.sync_eq
  lock_lt := Nat.lt_of_lt_of_le h.lock_lt hnext
  not_running hlater := h.not_running (hrunning hlater)
  entered := by
    obtain ⟨state, entered, hentered⟩ := h.entered
    exact ⟨state, entered, hsuffix.subset hentered⟩

/-- Moments may follow after which the same effects and cleanups are on the stack. -/
theorem Latched.later (h : Latched world history) (hsuffix : history <:+ history')
    (hrunning : ∀ lock, Running lock (Moment.opened history')
      ↔ Running lock (Moment.opened history))
    (hhandles : ∀ handle ∈ history'.handles, handle.lock < world.locks.next) :
  Latched world history'
  where
  open_iff lock hlock := by
    rw [hrunning]
    apply h.open_iff lock hlock
  running_lt lock hlock := h.running_lt lock ((hrunning lock).mp hlock)
  handles_lt := hhandles
  exit cleanup hcleanup :=
    (h.exit cleanup hcleanup).later (Nat.le_refl _) hsuffix (hrunning _).mp

/-- Making a call that runs neither effects nor cleanups. -/
theorem Latched.called {call : Call S C K} (h : Latched world history)
    (hcall : call.lock? world = none)
    (hhandles : ∀ handle ∈ History.handles (.called call world :: history),
      handle.lock < world.locks.next) :
  Latched world (.called call world :: history)
  := h.later (List.suffix_cons _ _) (fun _ => running_called hcall) hhandles

/-- Answering one. -/
theorem Latched.answered {call : Call S C K} (h : Latched world' history')
    (hopened : Moment.opened history' = (call, world) :: outer) (hcall : call.lock? world = none)
    (answer : call.Answer) (world'' : World S C K M) :
  Latched world' (.answered call answer world'' :: history')
  := by
  apply h.later (List.suffix_cons _ _)
  · intro lock
    rw [Moment.opened, hopened, List.tail_cons, running_called hcall]
  · apply h.handles_lt

/-- Making the lock of the effects that are run when a state is entered. -/
theorem Latched.made (h : Latched world history) (state : MachineState S C) :
  Latched { world with locks := world.locks.add } (.called (.enter state) world :: history)
  := by
  have hrunning (lock : Nat) :
      Running lock (Moment.opened (.called (.enter state) world :: history))
        ↔ world.locks.next = lock ∨ Running lock (Moment.opened history) := by
    rw [Moment.opened, running_cons]
    simp only [Call.lock?, Option.some.injEq]
  constructor
  · intro lock hlock
    rw [hrunning]
    rw [Locks.next_add] at hlock
    by_cases hnew : world.locks.next = lock
    · obtain rfl := hnew
      simp only [true_or, iff_true]
      apply Locks.isLocked_add_next
    · have hold : lock < world.locks.next := by omega
      rw [Locks.isLocked_add, h.open_iff lock hold]
      simp only [hnew, false_or]
  · intro lock hlock
    rw [Locks.next_add]
    rcases (hrunning lock).mp hlock with rfl | hold
    · apply Nat.lt_succ_self
    · apply Nat.lt_succ_of_lt (h.running_lt lock hold)
  · intro handle hhandle
    rw [Locks.next_add]
    apply Nat.lt_succ_of_lt (h.handles_lt handle hhandle)
  · intro cleanup hcleanup
    have hstorable := h.exit cleanup hcleanup
    apply hstorable.later
    · rw [Locks.next_add]
      apply Nat.le_succ
    · apply List.suffix_cons
    · rw [hrunning]
      rintro (heq | hold)
      · have hlt := hstorable.lock_lt
        omega
      · apply hold

/-- Opening the lock of the cleanups that are run when a state is left. -/
theorem Latched.unlocked {cleanup : EffectCleanup K} (h : Latched world history)
    (hcleanup : Storable cleanup world history) (hexit : world.exit = none) (event : Event)
    (context : C) :
  Latched { world with locks := world.locks.setLocked cleanup.handle.lock false }
    (.called (.leave cleanup event context) world :: history)
  := by
  have hrunning (lock : Nat) :
      Running lock (Moment.opened (.called (.leave cleanup event context) world :: history))
        ↔ cleanup.handle.lock = lock ∨ Running lock (Moment.opened history) := by
    rw [Moment.opened, running_cons]
    simp only [Call.lock?, Option.some.injEq]
  constructor
  · intro lock hlock
    rw [hrunning]
    rw [Locks.next_setLocked] at hlock
    by_cases hown : cleanup.handle.lock = lock
    · obtain rfl := hown
      simp only [true_or, iff_true]
      apply Locks.isLocked_setLocked_self hlock
    · rw [Locks.isLocked_setLocked_of_ne hown, h.open_iff lock hlock]
      simp only [hown, false_or]
  · intro lock hlock
    rw [Locks.next_setLocked]
    rcases (hrunning lock).mp hlock with rfl | hold
    · apply hcleanup.lock_lt
    · apply h.running_lt lock hold
  · rw [Locks.next_setLocked]
    apply h.handles_lt
  · intro cleanup hcleanup
    cases hexit.symm.trans hcleanup

/-- Closing the lock of the effects or cleanups that have been run, before the call that ran them is
answered. -/
theorem Latched.closed {call : Call S C K} (h : Latched world' history')
    (hopened : Moment.opened history' = (call, world) :: outer)
    (hlock : call.lock? world = some lock) (hrunning : ¬Running lock outer)
    (answer : call.Answer) (world'' : World S C K M) :
  Latched { world' with locks := world'.locks.setLocked lock true }
    (.answered call answer world'' :: history')
  := by
  have hstack (other : Nat) : Running other (Moment.opened history')
      ↔ lock = other ∨ Running other outer := by
    rw [hopened, running_cons, hlock, Option.some.injEq]
  have houter : Moment.opened (.answered call answer world'' :: history') = outer := by
    rw [Moment.opened, hopened, List.tail_cons]
  have hhandles : History.handles (.answered call answer world'' :: history') = history'.handles :=
    rfl
  constructor
  · intro other hother
    rw [houter]
    rw [Locks.next_setLocked] at hother
    by_cases hown : lock = other
    · obtain rfl := hown
      rw [Locks.isLocked_setLocked_self hother]
      simp only [Bool.true_eq_false, hrunning]
    · rw [Locks.isLocked_setLocked_of_ne hown, h.open_iff other hother, hstack]
      simp only [hown, false_or]
  · intro other hother
    rw [houter] at hother
    rw [Locks.next_setLocked]
    apply h.running_lt other ((hstack other).mpr (Or.inr hother))
  · rw [hhandles, Locks.next_setLocked]
    apply h.handles_lt
  · intro cleanup hcleanup
    apply (h.exit cleanup hcleanup).later
    · apply Nat.le_of_eq (Locks.next_setLocked _ _ _).symm
    · apply List.suffix_cons
    · rw [houter, hstack]
      apply Or.inr

/-! ### Safe locks -/

variable {call : Call S C K}

/-- When effects and cleanups may be run: by the call that enters or leaves their state, and with
its handle. -/
def Fitting : Call S C K → World S C K M → History S C K M → Prop
  | .effect _ params, _, history => ∃ state begun outer,
    Moment.opened history = (.enter state, begun) :: outer ∧ params.handle.lock = begun.locks.next
  | .cleanup _ params, _, history => ∃ left event context begun outer,
    Moment.opened history = (.leave left event context, begun) :: outer
      ∧ params.handle = left.handle
  | .leave left _ _, world, history => Storable left world history ∧ world.exit = none
  | _, _, _ => True

/-- The locks of the handles that were given are made. -/
theorem Latched.handles_lt_called (h : Latched world history)
    (hfitting : Fitting call world history) :
  ∀ handle ∈ History.handles (.called call world :: history), handle.lock < world.locks.next
  := by
  intro handle hmem
  obtain ⟨moment, hmoment, hhandle⟩ := List.mem_filterMap.mp hmem
  rcases List.mem_cons.mp hmoment with rfl | hbefore
  · cases call with
    | effect token params =>
      obtain rfl := Option.some.inj hhandle
      obtain ⟨state, begun, outer, hopened, hlock⟩ := hfitting
      apply h.running_lt
      rw [hopened, hlock, running_cons]
      left
      rfl
    | cleanup token params =>
      obtain rfl := Option.some.inj hhandle
      obtain ⟨left, event, context, begun, outer, hopened, heq⟩ := hfitting
      apply h.running_lt
      rw [hopened, heq, running_cons]
      left
      rfl
    | _ => cases hhandle
  · apply h.handles_lt handle (List.mem_filterMap.mpr ⟨moment, hbefore, hhandle⟩)

/-- Locks are safe when a call is made. -/
theorem Latched.safe_called (h : Latched world history) (hfitting : Fitting call world history) :
  LockSafe world (.called call world :: history)
  where
  open_iff handle hhandle := h.open_iff _ (h.handles_lt_called hfitting handle hhandle)
  enter := by
    rintro state earlier ⟨⟩
    apply h.handles_lt
  effect := by
    rintro token params earlier ⟨⟩
    apply hfitting
  entered := by
    rintro state left later ⟨⟩
  leave := by
    rintro left event context earlier ⟨⟩
    apply hfitting.1.entered
  cleanup := by
    rintro token params earlier ⟨⟩
    apply hfitting

/-- They are safe when one is answered. -/
theorem Latched.safe_answered {answer : call.Answer}
    (h : Latched world (.answered call answer world :: history))
    (hentered : ∀ state (left : EffectCleanup K) (later : History S C K M),
      .answered call answer world :: history = .answered (.enter state) (some left) world :: later →
        ∃ begun outer, Moment.opened later = (.enter state, begun) :: outer
          ∧ left.handle.lock = begun.locks.next) :
  LockSafe world (.answered call answer world :: history)
  where
  open_iff handle hhandle := h.open_iff _ (h.handles_lt handle hhandle)
  enter := by
    rintro state earlier ⟨⟩
  effect := by
    rintro token params earlier ⟨⟩
  entered := hentered
  leave := by
    rintro left event context earlier ⟨⟩
  cleanup := by
    rintro token params earlier ⟨⟩

end GuardedMachine.Synced
