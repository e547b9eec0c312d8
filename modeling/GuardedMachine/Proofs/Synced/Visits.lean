import GuardedMachine.Proofs.Program.History
import GuardedMachine.Synced.Run

/-!
# The log of effects and cleanups

What happens to the effects of a synchronous machine is read off the history of a run: flushes
begin and end, effects and cleanups are run and return.  A `Visit` is a flush with the effects that
it ran and the cleanups that these returned, and `bracketed` is the log of a list of visits: each
begins with the cleanups of the one before, run with the event and the context of the state that
is entered, and goes on with its own effects.  `Bracketed` says that the log of a run is of this
form.

A list of visits has the latest one first, like a history.  A log is in the order of time.
-/

namespace GuardedMachine.Synced

variable {S C K M : Type}

/-! ### Logs -/

/-- What can happen to effects and cleanups. -/
inductive Mark (S C K : Type) where
  /-- The effects of a state are due. -/
  | flush (state : MachineState S C)
  | cleanup (token : K) (event : Event) (context : C)
  /-- A cleanup has returned. -/
  | cleaned
  | effect (token : K) (event : Event) (context : C)
  /-- An effect has returned, perhaps a cleanup. -/
  | returned (exit : Option K)
  /-- The cleanups of the state have been stored. -/
  | flushed

/-- What happens to effects and cleanups at a moment. -/
def marksAt : Moment (Call S C K) Call.Answer (World S C K M) → List (Mark S C K)
  | .called (.renew state) _ => [.flush state]
  | .answered (.renew _) _ _ => [.flushed]
  | .called (.cleanup token params) _ => [.cleanup token params.event params.context]
  | .answered (.cleanup _ _) _ _ => [.cleaned]
  | .called (.effect token params) _ => [.effect token params.event params.context]
  | .answered (.effect _ _) exit _ => [.returned exit]
  | _ => []

/-- The state that a call flushes, if it does. -/
def Call.flushes? : Call S C K → Option (MachineState S C)
  | .renew state => some state
  | _ => none

namespace History

/-- What has happened to effects and cleanups so far. -/
def log (history : History S C K M) : List (Mark S C K) :=
  Moment.collect marksAt history

/-- The states that are being flushed. -/
def flushing (history : History S C K M) : List (MachineState S C) :=
  (Moment.openCalls history).filterMap Call.flushes?

end History

/-- A call that is neither a flush nor an effect or a cleanup. -/
def Call.Silent : Call S C K → Prop
  | .renew _ => False
  | .effect _ _ => False
  | .cleanup _ _ => False
  | _ => True

section Silent

variable {call : Call S C K} {history history' : History S C K M}

theorem log_called (hsilent : call.Silent) (world : World S C K M) :
  History.log (.called call world :: history) = history.log
  := by
  cases call with
  | renew | effect | cleanup => cases hsilent
  | _ => apply List.append_nil

theorem log_answered (hsilent : call.Silent) (answer : call.Answer) (world : World S C K M) :
  History.log (.answered call answer world :: history) = history.log
  := by
  cases call with
  | renew | effect | cleanup => cases hsilent
  | _ => apply List.append_nil

/-- Only the call that flushes a state flushes it. -/
theorem flushing_called (hflushes : call.flushes? = none) (world : World S C K M) :
  History.flushing (.called call world :: history) = history.flushing
  := by simp [History.flushing, Moment.openCalls, hflushes]

theorem flushing_renew (state : MachineState S C) (world : World S C K M) :
  History.flushing (.called (.renew state) world :: history) = state :: history.flushing
  := rfl

theorem flushes?_of_silent (hsilent : call.Silent) :
  call.flushes? = none
  := by
  cases call with
  | renew | effect | cleanup => cases hsilent
  | _ => rfl

/-- Once a call is answered the flushes that had begun before it are open. -/
theorem flushing_continued (h : Moment.Continues history history') :
  history'.flushing = history.flushing
  := by rw [History.flushing, History.flushing, h.openCalls_eq]

end Silent

/-! ### Visits -/

/-- A flush of a state: the effects that it ran, each with the cleanup that it returned. -/
structure Visit (S C K : Type) where
  state : MachineState S C
  effects : List (K × Option K)

namespace Visit

/-- The cleanups that the effects returned. -/
def exits (visit : Visit S C K) : List K :=
  visit.effects.filterMap Prod.snd

/-- The log of the effects. -/
def entering (visit : Visit S C K) : List (Mark S C K) :=
  visit.effects.flatMap fun effect =>
    [.effect effect.1 visit.state.event visit.state.context, .returned effect.2]

/-- The callbacks of the entry effects of a state value. -/
def effectsOf [DecidableEq S] [StateValue S] (machine : Machine S C K) (value : S) : List K :=
  match machine.definition.state? value with
  | none => []
  | some entered => entered.effects.filterMap machine.config.effect?

/-- The visit ran all effects of its state. -/
def Complete [DecidableEq S] [StateValue S] (machine : Machine S C K) (visit : Visit S C K) :
    Prop :=
  visit.effects.map Prod.fst = effectsOf machine visit.state.value

end Visit

/-- The log of cleanups that are run when a state is entered. -/
def leaving (exits : List K) (state : MachineState S C) : List (Mark S C K) :=
  exits.flatMap fun token => [.cleanup token state.event state.context, .cleaned]

/-- The cleanups that the last visit returned. -/
def lastExits : List (Visit S C K) → List K
  | [] => []
  | visit :: _ => visit.exits

/-- The log of visits. -/
def bracketed : List (Visit S C K) → List (Mark S C K)
  | [] => []
  | visit :: earlier =>
    bracketed earlier
      ++ .flush visit.state :: (leaving (lastExits earlier) visit.state ++ visit.entering)
      ++ [.flushed]

/-- The log of visits before the last of them has ended. -/
def unfinished (visit : Visit S C K) (earlier : List (Visit S C K)) : List (Mark S C K) :=
  bracketed earlier
    ++ .flush visit.state :: (leaving (lastExits earlier) visit.state ++ visit.entering)

/-- The cleanups that are stored. -/
def stored : Option (EffectCleanup K) → List K
  | none => []
  | some cleanup => cleanup.exits

variable [DecidableEq S] [StateValue S] (machine : Machine S C K)

/-- A log is that of complete visits, of which the last one returned the given cleanups. -/
def Finished (exits : List K) (log : List (Mark S C K)) : Prop :=
  ∃ visits, (∀ visit ∈ visits, visit.Complete machine) ∧ log = bracketed visits
    ∧ exits = lastExits visits

/-- A log, when `expected` is added to it, is a beginning of that of complete visits, of which the
last one, to the given state, has begun. -/
def Unfinished (state : MachineState S C) (expected log : List (Mark S C K)) : Prop :=
  ∃ visit earlier, visit.Complete machine ∧ (∀ visit ∈ earlier, visit.Complete machine)
    ∧ visit.state = state ∧ bracketed earlier ++ [.flush state] <+: log
    ∧ log ++ expected <+: unfinished visit earlier

/-- Effects and cleanups are bracketed.  Between two flushes the log is that of complete visits,
and the cleanups of the last one are stored.  During a flush, of which there is one at a time, the
log is a beginning of that of complete visits, and the state is the one that is flushed. -/
inductive Bracketed (world : World S C K M) (history : History S C K M) : Prop where
  | between :
    history.flushing = [] → Finished machine (stored world.exit) history.log →
      Bracketed world history
  | during :
    history.flushing = [world.state] → Unfinished machine world.state [] history.log →
      Bracketed world history

/-! ### The course of a flush -/

variable {machine} {state : MachineState S C} {exits : List K}
  {marks marks' log : List (Mark S C K)}

omit [DecidableEq S] [StateValue S] in
/-- Effects may return nothing. -/
theorem exists_effects (tokens : List K) :
  ∃ effects : List (K × Option K), effects.map Prod.fst = tokens
  := by
  use tokens.map fun token => (token, none)
  simp [Function.comp_def]

/-- A state can be visited. -/
theorem Visit.exists_complete (state : MachineState S C) :
  ∃ visit : Visit S C K, visit.Complete machine ∧ visit.state = state
  := by
  obtain ⟨effects, heffects⟩ := exists_effects (effectsOf machine state.value)
  exact ⟨{ state, effects }, heffects, rfl⟩

/-- What is expected later need not be expected. -/
theorem Unfinished.of_append (h : Unfinished machine state (marks ++ marks') log) :
  Unfinished machine state marks log
  := by
  obtain ⟨visit, earlier, hvisit, hearlier, hstate, hbegun, hlog⟩ := h
  refine ⟨visit, earlier, hvisit, hearlier, hstate, hbegun, ?_⟩
  apply List.IsPrefix.trans _ hlog
  rw [← List.append_assoc]
  apply List.prefix_append

/-- What was expected happens. -/
theorem Unfinished.advance (h : Unfinished machine state (marks ++ marks') log) :
  Unfinished machine state marks' (log ++ marks)
  := by
  obtain ⟨visit, earlier, hvisit, hearlier, hstate, hbegun, hlog⟩ := h
  refine ⟨visit, earlier, hvisit, hearlier, hstate, ?_, ?_⟩
  · apply hbegun.trans (List.prefix_append _ _)
  · rw [List.append_assoc]
    apply hlog

/-- When a flush begins the cleanups of the last visit are expected. -/
theorem Finished.begins (h : Finished machine exits log) (state : MachineState S C) :
  Unfinished machine state (leaving exits state) (log ++ [.flush state])
  := by
  obtain ⟨visits, hvisits, rfl, rfl⟩ := h
  obtain ⟨visit, hvisit, rfl⟩ := Visit.exists_complete (K := K) state
  refine ⟨visit, visits, hvisit, hvisits, rfl, List.prefix_refl _, ?_⟩
  use visit.entering
  simp [unfinished]

/-- When the cleanups have run the effects are expected. -/
theorem Finished.enters (h : Finished machine exits log) {visit : Visit S C K}
    (hvisit : visit.Complete machine) :
  Unfinished machine visit.state visit.entering
    (log ++ [.flush visit.state] ++ leaving exits visit.state)
  := by
  obtain ⟨visits, hvisits, rfl, rfl⟩ := h
  refine ⟨visit, visits, hvisit, hvisits, rfl, List.prefix_append _ _, ?_⟩
  use []
  simp [unfinished]

/-- When the effects have run their cleanups are those of the last visit. -/
theorem Finished.ends (h : Finished machine exits log) {visit : Visit S C K}
    (hvisit : visit.Complete machine) :
  Finished machine visit.exits
    (log ++ [.flush visit.state] ++ leaving exits visit.state ++ visit.entering ++ [.flushed])
  := by
  obtain ⟨visits, hvisits, rfl, rfl⟩ := h
  use visit :: visits
  refine ⟨?_, ?_, rfl⟩
  · intro visit' hvisit'
    rcases List.mem_cons.mp hvisit' with rfl | hvisit'
    · apply hvisit
    · apply hvisits _ hvisit'
  · simp [bracketed]

end GuardedMachine.Synced
