import GuardedMachine.Proofs.Program.Mirror
import GuardedMachine.Proofs.Synced.Batches
import GuardedMachine.Proofs.Synced.Renewals
import GuardedMachine.Proofs.Synced.Settled

/-!
# Effects are run anew for accepted events

A flush runs effects exactly when no flush came before or an event was accepted since the last one:
first the cleanups that are stored and then the effects of the current state (`effects_rerun`).
Rejected events and updates of the context never cause it.

So a settled machine that applies a batch of actions runs effects at most once, those of the state
which it reaches, as long as its callbacks are quiet.  They must not start the machine either: a
guard that does runs the effects of a state that the batch goes through (`rerun_by_guard`).
-/

namespace GuardedMachine.Synced

variable {S C K M ε α : Type}

/-! ### Batches -/

/-- An outermost call on a machine that was started, that is, that ran effects before, ran at most the
cleanups that were stored and the effects of one state, the one in which it left the machine. -/
def BatchesOnce (world : World S C K M) (history : History S C K M) : Prop :=
  ∀ asked answer later, history = .answered (.request asked) answer world :: later →
    asked.settles = true →
      ∃ begun before during own,
        later = during ++ .called (.request asked) begun :: before
          ∧ Moment.Nested (.called (.request asked) begun :: before) own later
          ∧ (begun.acting = false → History.lastEntered? before ≠ none →
              Moment.collect leftAt during <+: begun.exit.toList
                ∧ (Moment.collect enteredAt during = []
                  ∨ Moment.collect enteredAt during = [world.state]))

variable {world : World S C K M} {history : History S C K M}

/-- A machine that ran effects before, and on which no outermost call is running, ran those of its
current state. -/
theorem Poised.entered_eq (h : Poised world history) (hacting : world.acting = false)
    (hran : history.lastEntered? ≠ none) :
  world.entered = some world.key
  := by
  rcases h.current hacting with hnone | hcurrent
  · rw [h.recorded hacting] at hnone
    cases hran hnone
  · exact hcurrent

/-- What is run while a call is open comes after what was run before. -/
theorem tally_append {call : Call S C K} (hidle : call.Idle) (during : History S C K M) :
  (History.tally (during ++ .called call world :: history)).left
      = (History.tally history).left ++ Moment.collect leftAt during
    ∧ (History.tally (during ++ .called call world :: history)).entered
      = (History.tally history).entered ++ Moment.collect enteredAt during
  := by
  have hcalled : History.tally (.called call world :: history) = History.tally history :=
    tally_called hidle
  rw [← hcalled]
  constructor
  · apply Moment.collect_append
  · apply Moment.collect_append

/-- Calls that settle once run at most one set of cleanups and the effects of one state. -/
theorem SettlesOnce.batchesOnce (h : SettlesOnce world history)
    (hpoised : Moment.Throughout
      (fun world history =>
        ∀ call earlier, history = .called call world :: earlier → Poised world earlier)
      history) :
  BatchesOnce world history
  := by
  rintro asked answer later rfl hasked
  obtain ⟨begun, before, own, hnested, hsettles⟩ := h asked answer later rfl hasked
  obtain ⟨during, rfl⟩ := hnested.suffix
  refine ⟨begun, before, during, own, rfl, hnested, ?_⟩
  intro hacting hran
  have hbegun : Poised begun before := by
    apply hpoised (.called (.request asked) begun) before _ _ _ rfl
    apply (List.suffix_append during _).trans (List.suffix_cons _ _)
  obtain ⟨⟨rest, hleft⟩, hentered⟩ := hsettles hacting (hbegun.entered_eq hacting hran)
  have hidle : (Call.request asked : Call S C K).Idle := trivial
  rw [(tally_append hidle during).1, List.append_assoc, List.append_cancel_left_eq] at hleft
  rw [(tally_append hidle during).2, List.append_right_eq_self,
    List.append_cancel_left_eq] at hentered
  exact ⟨⟨rest, hleft⟩, hentered⟩

/-! ### Runs -/

variable [DecidableEq S] [StateValue S] [Context C]

/-- What is said of flushes at a moment of a run: effects are run anew exactly when they are due and
a flush comes; what is run then is what should be; and actions lead where they do when they are
accepted or not. -/
structure Reruns (machine : Machine S C K) (world : World S C K M) (history : History S C K M) :
    Prop where
  rerun : Rerun world history
  ranOwn : RanOwn machine world history
  ledTo : LedTo machine.definition world history

/-- In every run in which nobody drains or flushes out of turn, whoever makes a call is poised. -/
theorem throughout_poised (machine : Machine S C K) {client : Client S C K M ε}
    (hclient : client.Asks Request.InTurn) {code : Code S C K M ε α}
    (hcode : code.Asks Request.InTurn) (memory : M) (depth : Nat) :
  Moment.Throughout
    (fun world history =>
      ∀ call earlier, history = .called call world :: earlier → Poised world earlier)
    (Synced.run machine client depth code
      (World.initial machine.initialState memory)).history
  := by
  have hstart : Poised (World.initial machine.initialState memory : World S C K M) [] :=
    poised_initial machine.initialState memory
  have hallowed := (Contract.reaches_run (fulfils_settleContract machine hclient).allowed
    (runs_ofCode_resting hcode) (resting_refl hstart) depth).1
  intro moment earlier hmoment call before hcalled
  apply (hallowed moment earlier hmoment call before hcalled).1

/-- In every run in which nobody drains or flushes out of turn, a flush runs effects if and only if
no flush came before or an event was accepted since the last one, and then it runs the cleanups that
are stored and the effects of the current state.  Rejected events and updates of the context, which
leave the state as it is but for its context, are not accepted.  If callbacks are quiet besides, an
outermost call on a machine that ran effects before runs at most one set of cleanups and the effects
of one state, the one in which it leaves the machine. -/
theorem effects_rerun (machine : Machine S C K) {client : Client S C K M ε}
    (hclient : client.Asks Request.InTurn) {code : Code S C K M ε α}
    (hcode : code.Asks Request.InTurn) (memory : M) (depth : Nat) :
  Moment.Throughout (Reruns machine)
      (Synced.run machine client depth code (World.initial machine.initialState memory)).history
    ∧ ∀ quiet : K → Prop, client.Quiet quiet →
      Moment.Throughout BatchesOnce
        (Synced.run machine client depth code
          (World.initial machine.initialState memory)).history
  := by
  constructor
  · have hrenews := throughout_renews machine hclient hcode memory depth
    have hown := throughout_own machine client code memory depth
    intro moment earlier hmoment
    have hrenewed := hrenews moment earlier hmoment
    exact ⟨hrenewed.rerun, hown moment earlier hmoment, hrenewed.ledTo⟩
  · intro quiet hquiet
    have hsettles := throughout_settles_once machine hclient hquiet hcode memory depth
    have hpoised := throughout_poised machine hclient hcode memory depth
    intro moment earlier hmoment
    apply (hsettles moment earlier hmoment).batchesOnce
    intro moment' earlier' hmoment'
    exact hpoised moment' earlier' (hmoment'.trans hmoment)

/-! ### Example -/

/-- A signal that goes from red over amber to green when the track is clear. -/
def signal : Machine String Int64 String where
  definition := Definition.build "red" 0
    [.state "red" [.on "PREPARE" (.to "amber"), .effects ["show"]],
      .state "amber" [.on "GO" (.guarded "green" (some (.leaf "clear"))), .effects ["show"]],
      .state "green" [.effects ["show"]]]
  config :=
    { (Config.default : Config String) with
      guards := Table.ofList [("clear", "clear")]
      effects := Table.ofList [("show", "show")] }
  resolved := by decide +kernel

/-- Its guard does something before it finds the track clear, and a callback dispatches a batch. -/
def signalClient (checking : Code String Int64 String Unit Empty Unit) :
    Client String Int64 String Unit Empty where
  guard _ _ _ := do
    checking
    return true
  reduce _ context := return context
  effect _ _ := return some "hide"
  cleanup _ _ := return ()
  callback _ := do
    Code.ask (.dispatch (.send (Event.ofKind "PREPARE")))
    Code.ask (.dispatch (.send (Event.ofKind "GO")))
    Code.ask (.dispatch (.setContext "count"))
    Code.ask (.dispatch (.send (Event.ofKind "GO")))

/-- The owner starts the signal and advances it in one batch. -/
def signalOwner : Code String Int64 String Unit Empty Unit := do
  Code.ask .start
  Code.ask (.act "advance")

/-- A run of the signal. -/
def signalRun (checking : Code String Int64 String Unit Empty Unit) :
    Run (Call String Int64 String) Call.Answer (World String Int64 String Unit) Empty Unit :=
  Synced.run signal (signalClient checking) 16 signalOwner (World.initial signal.initialState ())

theorem signalClient_asks :
  (signalClient (return ())).Asks Request.InTurn
  where
  guard _ _ _ := trivial
  reduce _ _ := trivial
  effect _ _ := trivial
  cleanup _ _ := trivial
  callback _ :=
    ⟨trivial, fun _ => ⟨trivial, fun _ => ⟨trivial, fun _ => ⟨trivial, fun _ => trivial⟩⟩⟩⟩

theorem signalClient_quiet :
  (signalClient (return ())).Quiet fun _ => False
  where
  guard _ _ _ := trivial
  reduce _ _ := trivial
  effect _ _ := trivial
  cleanup _ _ := trivial
  callback _ hquiet := hquiet.elim

theorem signalOwner_asks :
  signalOwner.Asks Request.InTurn
  := ⟨trivial, fun _ => ⟨trivial, fun _ => trivial⟩⟩

/-- The batch takes the signal over amber to green, and only the effects of green are run. -/
theorem signal_rerun :
  ((signalClient (return ())).Asks Request.InTurn ∧ signalOwner.Asks Request.InTurn
      ∧ (signalClient (return ())).Quiet fun _ => False)
    ∧ ((signalRun (return ())).ending = .returned ()
      ∧ History.accepted (signalRun (return ())).history = 2
      ∧ (Moment.collect enteredAt (signalRun (return ())).history).map MachineState.value
        = ["red", "green"])
    ∧ Moment.Throughout (Reruns signal) (signalRun (return ())).history
    ∧ Moment.Throughout BatchesOnce (signalRun (return ())).history
  := by
  use ⟨signalClient_asks, signalOwner_asks, signalClient_quiet⟩
  use ⟨rfl, by decide +kernel, by decide +kernel⟩
  obtain ⟨hreruns, hbatches⟩ := effects_rerun signal signalClient_asks signalOwner_asks () 16
  exact ⟨hreruns, hbatches _ signalClient_quiet⟩

/-- Whether an `act` is called at a moment. -/
def actAt : Moment (Call S C K) Call.Answer (World S C K M) → Bool
  | .called (.request (.act _)) _ => true
  | _ => false

/-- The guard starts the signal while the batch is being applied: the effects of amber are run, and
then those of green, although nothing was due when the batch began and no callback dispatches. -/
theorem rerun_by_guard :
  ((∀ token event context, ((signalClient (Code.ask .start)).guard token event context).Asks
        (· = .start))
      ∧ (∀ token context, ((signalClient (Code.ask .start)).reduce token context).Asks
        fun _ => False)
      ∧ (∀ token params, ((signalClient (Code.ask .start)).effect token params).Asks
        fun _ => False)
      ∧ ∀ token params, ((signalClient (Code.ask .start)).cleanup token params).Asks
        fun _ => False)
    ∧ ∃ world begun before during,
      (signalRun (Code.ask .start)).history
          = .answered (.request (.act "advance")) () world
            :: (during ++ .called (.request (.act "advance")) begun :: before)
        ∧ (Moment.openCalls before = [] ∧ begun.queue = [] ∧ History.due before = false
          ∧ History.lastEntered? before = some { value := "red", epoch := 0 })
        ∧ (Moment.collect leftAt during).map EffectCleanup.exits = [["hide"], ["hide"]]
        ∧ (Moment.collect enteredAt during).map MachineState.value = ["amber", "green"]
  := by
  refine ⟨⟨?_, fun _ _ => trivial, fun _ _ => trivial, fun _ _ => trivial⟩, ?_⟩
  · intro token event context
    exact ⟨rfl, fun _ => trivial⟩
  · -- The last moment of the run answers the `act`, whose beginning is the only one.
    refine ⟨_, _, ((signalRun (Code.ask .start)).history.dropWhile (!actAt ·)).tail,
      ((signalRun (Code.ask .start)).history.takeWhile (!actAt ·)).tail, rfl, ?_, ?_, ?_⟩
    · exact ⟨rfl, rfl, by decide +kernel, by decide +kernel⟩
    · decide +kernel
    · decide +kernel

end GuardedMachine.Synced
