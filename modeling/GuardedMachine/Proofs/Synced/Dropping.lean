import GuardedMachine.Proofs.Synced.Unmounting

/-!
# What is dropped after a stop

`SinceStop` says of a history that the owner stopped the machine and that since then only tame
requests were made: to send, to update the context, to dispatch, to act, and to look.  From then on
everything is dropped (`Dropped`): the machine stays as the stop left it, nothing is queued, and no
guard, reducer, effect or cleanup is run.  Each action that the machine is given is reported as
unmounted, in order (`Accounted`).
-/

namespace GuardedMachine.Synced

variable {S C K M ε α : Type}

/-! ### Since a stop -/

/-- Whether a request does not queue an action unconditionally, run effects out of turn or set the
mount flag. -/
def Request.tame : Request K → Bool
  | .start | .enqueue _ | .drain | .flush | .stop | .setMounted _ => false
  | _ => true

/-- A call that runs no guard, reducer, effect or cleanup and leaves the queue alone. -/
def Call.Passive : Call S C K → Prop
  | .request _ | .settle | .callback _ | .report _ => True
  | _ => False

/-- Whether no request but a tame one is made at a moment. -/
def tameAt : Moment (Call S C K) Call.Answer (World S C K M) → Bool
  | .called (.request asked) _ => asked.tame
  | _ => true

/-- At the end of a history a stop is answered that was called while no other call was open.  It
leaves a world, and some moments lie between. -/
def OwnerStops (stopped : World S C K M) (during history : History S C K M) : Prop :=
  ∃ begun before,
    history = .answered (.request .stop) () stopped
        :: (during ++ .called (.request .stop) begun :: before)
      ∧ Moment.openCalls before = []
      ∧ Moment.openCalls (during ++ .called (.request .stop) begun :: before) = [.request .stop]

/-- The owner stopped the machine, which left a world, and nobody set the mount flag meanwhile.
Since then only tame requests were made. -/
def SinceStop (stopped : World S C K M) (later history : History S C K M) : Prop :=
  ∃ during earlier, history = later ++ earlier ∧ OwnerStops stopped during earlier
    ∧ Unset during ∧ ∀ moment ∈ later, tameAt moment

/-- Tame requests do not set the mount flag. -/
theorem unset_of_tame {moments : History S C K M} (h : ∀ moment ∈ moments, tameAt moment) :
  Unset moments
  := by
  intro moment hmoment mounted hmade
  have htame := h moment hmoment
  cases moment with
  | called call world =>
    obtain rfl := Option.some.inj hmade
    cases htame
  | answered call answer world => cases hmade

/-! ### What is dropped -/

/-- A machine is as a stop left it, unmounted and with nothing queued, and no guard, reducer, effect
or cleanup was run since. -/
structure Dropped (stopped world : World S C K M) (later : History S C K M) : Prop where
  state_eq : world.state = stopped.state
  epoch_eq : world.epoch = stopped.epoch
  entered_eq : world.entered = stopped.entered
  exit_eq : world.exit = stopped.exit
  queue_eq : world.queue = []
  mounted_eq : world.mounted = false
  passive : ∀ moment ∈ later, ∀ call, moment.made? = some call → call.Passive

/-- The report of an action that an unmounted machine is given. -/
def unmountedReport (action : Action K) : Report :=
  { diagnostic := .unmounted, details := [("Action", action.inspect)] }

/-- The action that the machine is given at a moment, by a request or through a handle whose lock is
open. -/
def givenAt : Moment (Call S C K) Call.Answer (World S C K M) → List (Action K)
  | .called (.request (.send event)) _ => [.send event]
  | .called (.request (.setContext reducer)) _ => [.setContext reducer]
  | .called (.request (.dispatch action)) _ => [action]
  | .called (.request (.handleSend handle event)) world =>
    if world.locks.isLocked handle.lock then [] else [.send event]
  | .called (.request (.handleSetContext handle reducer)) world =>
    if world.locks.isLocked handle.lock then [] else [.setContext reducer]
  | _ => []

/-- The report of being unmounted that a call makes, if it is one. -/
def Call.unmountedReports : Call S C K → List Report
  | .report written => if written.diagnostic = .unmounted then [written] else []
  | _ => []

/-- The report of being unmounted that is made at a moment. -/
def unmountedAt (moment : Moment (Call S C K) Call.Answer (World S C K M)) : List Report :=
  match moment.made? with
  | some call => call.unmountedReports
  | none => []

/-- What was dropped since a stop is accounted for: the reports of being unmounted, and those that
are still owed, are those of the actions that the machine was given. -/
def Accounted (owed : List Report) (later : History S C K M) : Prop :=
  Moment.collect unmountedAt later ++ owed
    = (Moment.collect givenAt later).map unmountedReport

/-! ### Machines that were stopped -/

/-- The owner stopped the machine, which left a world in which it is unmounted.  Since then only
tame requests were made. -/
def Stilled (stopped : World S C K M) (later history : History S C K M) : Prop :=
  stopped.mounted = false ∧ ∃ during earlier, history = later ++ earlier
    ∧ OwnerStops stopped during earlier ∧ ∀ moment ∈ later, tameAt moment

/-- The owner stopped the machine, and since then only tame requests were made. -/
def IsStilled (history : History S C K M) : Prop :=
  ∃ stopped later, Stilled stopped later history

variable {stopped world world' : World S C K M} {later history history' : History S C K M}
  {moment : Moment (Call S C K) Call.Answer (World S C K M)}

/-- At a moment after the stop the machine was stopped before, and at the first it is. -/
theorem Stilled.of_cons (h : Stilled stopped later (moment :: history)) :
  (∃ during, later = [] ∧ stopped.mounted = false ∧ OwnerStops stopped during (moment :: history))
    ∨ ∃ rest, later = moment :: rest ∧ Stilled stopped rest history
        ∧ tameAt moment
  := by
  obtain ⟨hmounted, during, earlier, heq, hstops, htame⟩ := h
  cases later with
  | nil =>
    left
    rw [List.nil_append] at heq
    exact ⟨during, rfl, hmounted, heq ▸ hstops⟩
  | cons first rest =>
    right
    obtain ⟨rfl, rfl⟩ := List.cons.inj heq
    refine ⟨rest, rfl, ⟨hmounted, during, earlier, rfl, hstops, ?_⟩, ?_⟩
    · intro later hlater
      apply htame later (List.mem_cons_of_mem _ hlater)
    · apply htame moment List.mem_cons_self

/-- A call does not stop the machine before it is answered. -/
theorem Stilled.of_called {call : Call S C K} {begun : World S C K M}
    (h : Stilled stopped later (.called call begun :: history)) :
  ∃ rest, later = .called call begun :: rest ∧ Stilled stopped rest history
    ∧ ∀ asked, call = .request asked → asked.tame
  := by
  rcases h.of_cons with ⟨_, _, _, _, _, heq, _⟩ | ⟨rest, rfl, hrest, htame⟩
  · cases heq
  · refine ⟨rest, rfl, hrest, ?_⟩
    rintro asked rfl
    exact htame

/-- When a call is answered, the owner stopped the machine with it or before. -/
theorem Stilled.of_answered {call : Call S C K} {answer : call.Answer}
    (h : Stilled stopped later (.answered call answer world :: history)) :
  (later = [] ∧ call = .request .stop ∧ stopped = world ∧ stopped.mounted = false
      ∧ Moment.openCalls history = [.request .stop])
    ∨ ∃ rest, later = .answered call answer world :: rest ∧ Stilled stopped rest history
  := by
  rcases h.of_cons with ⟨during, rfl, hmounted, begun, before, heq, -, hopen⟩ | ⟨rest, rfl, hrest, -⟩
  · left
    obtain ⟨hmoment, rfl⟩ := List.cons.inj heq
    cases hmoment
    exact ⟨rfl, rfl, rfl, hmounted, hopen⟩
  · exact .inr ⟨rest, rfl, hrest⟩

/-! ### Invariants -/

/-- If the machine was stopped then everything was dropped since, and it is accounted for but for
the reports that are still owed. -/
def Keeps (owed : List Report) (world : World S C K M) (history : History S C K M) : Prop :=
  ∀ stopped later, Stilled stopped later history → Dropped stopped world later ∧ Accounted owed later

/-- What a machine that was not stopped does is not told. -/
theorem keeps_of_not (h : ¬ IsStilled history) (owed : List Report) (world : World S C K M) :
  Keeps owed world history
  := by
  intro stopped later hstilled
  cases h ⟨stopped, later, hstilled⟩

/-- The memory, the locks and the depth of calls do not matter. -/
theorem Keeps.of_world {owed : List Report} (h : Keeps owed world history)
    (hstate : world'.state = world.state) (hepoch : world'.epoch = world.epoch)
    (hentered : world'.entered = world.entered) (hexit : world'.exit = world.exit)
    (hqueue : world'.queue = world.queue) (hmounted : world'.mounted = world.mounted) :
  Keeps owed world' history
  := by
  intro stopped later hstilled
  obtain ⟨hdropped, haccounted⟩ := h stopped later hstilled
  refine ⟨⟨?_, ?_, ?_, ?_, ?_, ?_, hdropped.passive⟩, haccounted⟩
  · rw [hstate, hdropped.state_eq]
  · rw [hepoch, hdropped.epoch_eq]
  · rw [hentered, hdropped.entered_eq]
  · rw [hexit, hdropped.exit_eq]
  · rw [hqueue, hdropped.queue_eq]
  · rw [hmounted, hdropped.mounted_eq]

/-- When a passive call is made, its report is written and the action it gives is owed a report. -/
theorem Keeps.called {call : Call S C K} (h : Keeps call.unmountedReports world history)
    (hpassive : IsStilled history → call.Passive) :
  Keeps ((givenAt (.called call world : Moment (Call S C K) Call.Answer (World S C K M))).map
    unmountedReport) world (.called call world :: history)
  := by
  intro stopped later hstilled
  obtain ⟨rest, rfl, hrest, -⟩ := hstilled.of_called
  obtain ⟨hdropped, haccounted⟩ := h stopped rest hrest
  refine ⟨{ hdropped with passive := ?_ }, ?_⟩
  · intro moment hmoment made hmade
    rcases List.mem_cons.mp hmoment with rfl | hmoment
    · obtain rfl := Option.some.inj hmade
      exact hpassive ⟨stopped, rest, hrest⟩
    · exact hdropped.passive moment hmoment made hmade
  · rw [Accounted, Moment.collect, Moment.collect, List.map_append, ← haccounted]
    rfl

/-- When a call other than a stop is answered, nothing is added. -/
theorem Keeps.answered {call : Call S C K} (h : Keeps [] world history)
    (hcall : call ≠ .request .stop) (answer : call.Answer) :
  Keeps [] world (.answered call answer world :: history)
  := by
  intro stopped later hstilled
  rcases hstilled.of_answered with ⟨-, hstop, -⟩ | ⟨rest, rfl, hrest⟩
  · cases hcall hstop
  · obtain ⟨hdropped, haccounted⟩ := h stopped rest hrest
    refine ⟨{ hdropped with passive := ?_ }, ?_⟩
    · intro moment hmoment made hmade
      rcases List.mem_cons.mp hmoment with rfl | hmoment
      · cases hmade
      · exact hdropped.passive moment hmoment made hmade
    · rw [Accounted, Moment.collect, Moment.collect]
      simpa [Accounted, unmountedAt, givenAt, Moment.made?] using haccounted

end GuardedMachine.Synced
