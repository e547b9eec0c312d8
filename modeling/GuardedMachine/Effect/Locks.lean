/-!
# Locks

The locks made so far, numbered from zero.
-/

namespace GuardedMachine

/-- The locks made so far; a lock is `true` when it is closed. -/
structure Locks where
  closed : List Bool
deriving DecidableEq

namespace Locks

/-- No locks. -/
def empty : Locks :=
  { closed := [] }

/-- The number of the next lock. -/
def next (locks : Locks) : Nat :=
  locks.closed.length

/-- The locks with one more, which is open. -/
def add (locks : Locks) : Locks :=
  { closed := locks.closed ++ [false] }

/-- Whether a lock is closed. -/
def isLocked (locks : Locks) (lock : Nat) : Bool :=
  locks.closed.getD lock false

/-- The locks with one of them closed or open. -/
def setLocked (locks : Locks) (lock : Nat) (closed : Bool) : Locks :=
  { closed := locks.closed.set lock closed }

@[simp]
theorem next_add (locks : Locks) :
  locks.add.next = locks.next + 1
  := by
  simp [add, next]

@[simp]
theorem next_setLocked (locks : Locks) (lock : Nat) (closed : Bool) :
  (locks.setLocked lock closed).next = locks.next
  := by
  simp [setLocked, next]

theorem isLocked_setLocked_self {locks : Locks} {lock : Nat} (h : lock < locks.next)
    (closed : Bool) :
  (locks.setLocked lock closed).isLocked lock = closed
  := by
  simp only [next] at h
  simp [isLocked, setLocked, List.getD, h]

theorem isLocked_setLocked_of_ne {lock other : Nat} (h : lock ≠ other) (locks : Locks)
    (closed : Bool) :
  (locks.setLocked lock closed).isLocked other = locks.isLocked other
  := by
  simp [isLocked, setLocked, List.getD, List.getElem?_set_ne h]

/-- A new lock is open. -/
theorem isLocked_add_next (locks : Locks) :
  locks.add.isLocked locks.next = false
  := by
  simp [isLocked, add, next, List.getD]

/-- The other locks stay as they are, and a number that has no lock counts as open. -/
@[simp]
theorem isLocked_add (locks : Locks) (lock : Nat) :
  locks.add.isLocked lock = locks.isLocked lock
  := by
  simp only [isLocked, add, List.getD, List.getElem?_append]
  split
  · rfl
  · next hlt =>
    rw [List.getElem?_eq_none (Nat.le_of_not_lt hlt)]
    cases lock - locks.closed.length <;> rfl

end Locks

end GuardedMachine
