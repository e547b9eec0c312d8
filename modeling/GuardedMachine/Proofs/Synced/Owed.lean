import GuardedMachine.Proofs.Synced.Bodies
import GuardedMachine.Proofs.Synced.Flushing
import Mathlib.Data.List.Count

/-!
# What is owed

An account of the cleanups of a synchronous machine: an effect that returns a cleanup raises what is
owed, running a cleanup or storing it lowers it, and `Call.credit` is what a call does to it.  The
contract of this module says so of every call.

A flush may overwrite what is stored only because nothing is stored while it runs (`Covered`): the
outermost call is running, so nothing is applied, and the state counts as entered, so it is not
flushed again.
-/

namespace GuardedMachine.Synced

variable {S C K M : Type}

/-! ### Cleanups that were returned and run -/

/-- The cleanup that an effect returns at a moment. -/
def returnedAt : Moment (Call S C K) Call.Answer (World S C K M) → List K
  | .answered (.effect _ _) exit _ => exit.toList
  | _ => []

/-- The cleanup that begins to run at a moment. -/
def ranAt : Moment (Call S C K) Call.Answer (World S C K M) → List K
  | .called (.cleanup token _) _ => [token]
  | _ => []

namespace History

/-- The cleanups that effects returned, in the order of time. -/
def returned (history : History S C K M) : List K :=
  Moment.collect returnedAt history

/-- The cleanups that were run, in the order of time. -/
def ran (history : History S C K M) : List K :=
  Moment.collect ranAt history

end History

/-- A request that does not apply actions or run effects out of turn. -/
def Request.InTurn : Request K → Prop
  | .drain => False
  | .flush => False
  | _ => True

/-- While a state is being flushed an outermost call is running, the state counts as entered and no
cleanups are stored. -/
def Covered [DecidableEq S] (world : World S C K M) (history : History S C K M) : Prop :=
  history.flushing ≠ [] → world.acting = true ∧ world.entered = some world.key ∧ world.exit = none

/-- No state is being flushed when no outermost call is running. -/
theorem Covered.flushing_eq [DecidableEq S] {world : World S C K M} {history : History S C K M}
    (h : Covered world history) (hacting : world.acting = false) :
  history.flushing = []
  := by
  by_contra hne
  cases hacting.symm.trans (h hne).1

/-- When no call is open every cleanup that an effect returned was run once or is stored. -/
def KeepsCleanups (world : World S C K M) (history : History S C K M) : Prop :=
  Moment.openCalls history = [] →
    (History.returned history).Perm (History.ran history ++ stored world.exit)

variable [DecidableEq K] {token : K} {world world' world'' : World S C K M}
  {history history' history'' : History S C K M}

/-! ### What is owed -/

/-- How many more times a cleanup was returned than it was run and is stored. -/
def owed (token : K) (world : World S C K M) (history : History S C K M) : Int :=
  history.returned.count token - history.ran.count token - (stored world.exit).count token

/-- What a moment adds to what is owed. -/
def owedAt (token : K) (moment : Moment (Call S C K) Call.Answer (World S C K M)) : Int :=
  (returnedAt moment).count token - (ranAt moment).count token

/-- What a call adds to what is owed. -/
def Call.credit (token : K) : (call : Call S C K) → call.Answer → Int
  | .leave exits _ _, _ => -exits.exits.count token
  | .cleanup run _, _ => -[run].count token
  | .enter _, exit => (stored exit).count token
  | .effect _ _, exit => exit.toList.count token
  | _, _ => 0

theorem owed_cons (token : K) (world : World S C K M)
    (moment : Moment (Call S C K) Call.Answer (World S C K M)) (history : History S C K M) :
  owed token world (moment :: history) = owed token world history + owedAt token moment
  := by
  simp only [owed, owedAt, History.returned, History.ran, Moment.collect, List.count_append]
  omega

theorem owed_of_exit (token : K) (history : History S C K M) (hexit : world'.exit = world.exit) :
  owed token world' history = owed token world history
  := by rw [owed, owed, hexit]

theorem owed_exit_none (token : K) (world : World S C K M) (history : History S C K M) :
  owed token { world with exit := none } history
    = owed token world history + (stored world.exit).count token
  := by
  simp only [owed, stored, List.count_nil]
  omega

/-- Nothing is owed when no call is open. -/
def Level (world : World S C K M) (history : History S C K M) : Prop :=
  Moment.openCalls history = [] → ∀ token, owed token world history = 0

theorem Level.keeps (h : Level world history) :
  KeepsCleanups world history
  := by
  intro hopen
  apply List.perm_iff_count.mpr
  intro token
  have howed := h hopen token
  rw [List.count_append]
  simp only [owed] at howed
  omega

variable [DecidableEq S] {credit credit' : K → Int}

/-- From one moment to another of a part of a call `credit` is added to what is owed, and during a
flush the state is held. -/
structure Carried (credit : K → Int) (world : World S C K M) (history : History S C K M)
    (world' : World S C K M) (history' : History S C K M) : Prop where
  covered : Covered world' history'
  acting_eq : world'.acting = world.acting
  held : history.flushing ≠ [] → Held world world'
  owed_eq : ∀ token, owed token world' history' = owed token world history + credit token

theorem Carried.refl (h : Covered world history) :
  Carried (fun _ => 0) world history world history
  := ⟨h, rfl, fun _ => Held.refl world, fun _ => (Int.add_zero _).symm⟩

theorem Carried.trans (h : Carried credit world history world' history')
    (hcontinues : Moment.Continues history history')
    (h' : Carried credit' world' history' world'' history'') :
  Carried (fun token => credit token + credit' token) world history world'' history''
  where
  covered := h'.covered
  acting_eq := h'.acting_eq.trans h.acting_eq
  held hflushing := by
    apply (h.held hflushing).trans (h'.held _)
    rwa [flushing_continued hcontinues]
  owed_eq token := by
    rw [h'.owed_eq, h.owed_eq]
    omega

/-- What is held counts for nothing. -/
theorem Carried.of_held (h : Carried credit world history world' history')
    (hheld : Held world' world'') :
  Carried credit world history world'' history'
  where
  covered hflushing := by
    rw [hheld.acting_eq, hheld.entered_eq, hheld.key_eq, hheld.exit_eq]
    apply h.covered hflushing
  acting_eq := hheld.acting_eq.trans h.acting_eq
  held hflushing := (h.held hflushing).trans hheld
  owed_eq token := by rw [owed_of_exit token history' hheld.exit_eq, h.owed_eq]

/-- Between two flushes the state may change. -/
theorem Carried.of_exit (h : Carried credit world history world' history')
    (hflushing : history.flushing = []) (hcontinues : Moment.Continues history history')
    (hacting : world''.acting = world'.acting) (hexit : world''.exit = world'.exit) :
  Carried credit world history world'' history'
  where
  covered hne := by
    rw [flushing_continued hcontinues] at hne
    cases hne hflushing
  acting_eq := hacting.trans h.acting_eq
  held hne := (hne hflushing).elim
  owed_eq token := by rw [owed_of_exit token history' hexit, h.owed_eq]

/-! ### The contract -/

/-- When calls may be made: actions are applied and flushes begin between two flushes of an
outermost call, and effects run during a flush. -/
def Allowed : Call S C K → World S C K M → History S C K M → Prop
  | .request asked, world, history => asked.InTurn ∧ Covered world history
  | .settle, world, history => world.acting = true ∧ history.flushing = []
  | .drain, world, history => world.acting = true ∧ history.flushing = []
  | .apply _, world, history => world.acting = true ∧ history.flushing = []
  | .renew _, world, history =>
    world.acting = true ∧ history.flushing = [] ∧ world.entered = some world.key
  | .enter _, world, history => Covered world history ∧ history.flushing ≠ []
  | .leave _ _ _, world, history => Covered world history ∧ Moment.openCalls history ≠ []
  | .effect _ _, world, history => Covered world history ∧ Moment.openCalls history ≠ []
  | .cleanup _ _, world, history => Covered world history ∧ Moment.openCalls history ≠ []
  | _, world, history => Covered world history

/-- Calls add their credits to what is owed. -/
def cleanupContract : Contract (Call S C K) Call.Answer (World S C K M) where
  pre call world history := Level world history ∧ Allowed call world history
  post call world history answer world' history' :=
    Carried (fun token => call.credit token answer) world history world' history'

/-- What a part of a call carries on, from its beginning. -/
structure Part (world : World S C K M) (history : History S C K M) (world' : World S C K M)
    (history' : History S C K M) : Prop where
  continues : Moment.Continues history history'
  carried : Carried (fun _ => 0) world history world' history'
  level : Level world' history'

theorem part_refl (hlevel : Level world history) (hcovered : Covered world history) :
  Part world history world history
  := ⟨Moment.Continues.refl history, Carried.refl hcovered, hlevel⟩

/-- Where nothing was owed nothing is owed after calls without credit. -/
theorem Level.carried (h : Level world history) (hcontinues : Moment.Continues history history')
    (hcarried : Carried credit world history world' history')
    (hcredit : Moment.openCalls history = [] → ∀ token, credit token = 0) :
  Level world' history'
  := by
  intro hopen token
  rw [hcontinues.openCalls_eq] at hopen
  rw [hcarried.owed_eq, h hopen, hcredit hopen, Int.add_zero]

/-- A part of a call goes on with calls that have no credit. -/
theorem Part.next (h : Part world history world' history')
    (hcontinues : Moment.Continues history' history'')
    (hcarried : Carried (fun _ => 0) world' history' world'' history'') :
  Part world history world'' history''
  where
  continues := h.continues.trans hcontinues
  carried := h.carried.trans h.continues hcarried
  level := h.level.carried hcontinues hcarried fun _ _ => rfl

/-- It may change what is not held. -/
theorem Part.of_held (h : Part world history world' history') (hheld : Held world' world'') :
  Part world history world'' history'
  := h.next (Moment.Continues.refl history') ((Carried.refl h.carried.covered).of_held hheld)

end GuardedMachine.Synced
