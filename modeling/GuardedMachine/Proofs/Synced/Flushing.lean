import GuardedMachine.Proofs.Synced.Visits

/-!
# Moments of a flush

How the moments of a run are related while effects and cleanups are bracketed.  `Sound` is the
invariant: besides `Bracketed`, the state that is being flushed is the one whose effects were last
run, so that it is not flushed again.  `Idle` says that an outermost call is running and nothing is
being flushed, and `Due` that a flush is running and what it is about to do next.  `Passed` relates
two moments of a part of a call: if a state is being flushed, only the queue and what callbacks
own have changed.
-/

namespace GuardedMachine.Synced

variable {S C K M : Type}

/-- Two worlds agree on the state, the flushes and the stored cleanups. -/
structure Held (world world' : World S C K M) : Prop where
  acting_eq : world'.acting = world.acting
  state_eq : world'.state = world.state
  epoch_eq : world'.epoch = world.epoch
  entered_eq : world'.entered = world.entered
  exit_eq : world'.exit = world.exit

variable {world world' world'' : World S C K M}

theorem Held.refl (world : World S C K M) :
  Held world world
  := ⟨rfl, rfl, rfl, rfl, rfl⟩

theorem Held.trans (h : Held world world') (h' : Held world' world'') :
  Held world world''
  where
  acting_eq := h'.acting_eq.trans h.acting_eq
  state_eq := h'.state_eq.trans h.state_eq
  epoch_eq := h'.epoch_eq.trans h.epoch_eq
  entered_eq := h'.entered_eq.trans h.entered_eq
  exit_eq := h'.exit_eq.trans h.exit_eq

theorem Held.key_eq (h : Held world world') :
  world'.key = world.key
  := by rw [World.key, World.key, h.state_eq, h.epoch_eq]

/-- Between two moments `marks` happened to effects and cleanups, and the worlds agree. -/
structure Did (marks : List (Mark S C K)) (world : World S C K M) (history : History S C K M)
    (world' : World S C K M) (history' : History S C K M) : Prop where
  held : Held world world'
  log_eq : history'.log = history.log ++ marks

section Did

variable {history history' history'' : History S C K M} {marks marks' : List (Mark S C K)}

theorem Did.refl (world : World S C K M) (history : History S C K M) :
  Did [] world history world history
  := ⟨Held.refl world, (List.append_nil _).symm⟩

theorem Did.trans (h : Did marks world history world' history')
    (h' : Did marks' world' history' world'' history'') :
  Did (marks ++ marks') world history world'' history''
  where
  held := h.held.trans h'.held
  log_eq := by rw [h'.log_eq, h.log_eq, List.append_assoc]

end Did

variable [DecidableEq S] [StateValue S]

/-- Effects and cleanups are bracketed, and a state that is being flushed is the one whose effects
were last run. -/
structure Sound (machine : Machine S C K) (world : World S C K M) (history : History S C K M) :
    Prop where
  bracketed : Bracketed machine world history
  flushing : history.flushing ≠ [] → world.acting = true ∧ world.entered = some world.key

/-- An outermost call is running, and no state is being flushed. -/
structure Idle (machine : Machine S C K) (world : World S C K M) (history : History S C K M) :
    Prop where
  acting_eq : world.acting = true
  flushing_eq : history.flushing = []
  finished : Finished machine (stored world.exit) history.log

/-- The current state is being flushed, and `expected` is what happens to effects and cleanups
next. -/
structure Due (machine : Machine S C K) (expected : List (Mark S C K)) (world : World S C K M)
    (history : History S C K M) : Prop where
  acting_eq : world.acting = true
  entered_eq : world.entered = some world.key
  flushing_eq : history.flushing = [world.state]
  unfinished : Unfinished machine world.state expected history.log

variable {machine : Machine S C K} {history history' history'' : History S C K M}

/-- When nothing is being flushed the last visit is finished. -/
theorem Sound.finished (h : Sound machine world history) (hflushing : history.flushing = []) :
  Finished machine (stored world.exit) history.log
  := by
  cases h.bracketed with
  | between _ hfinished => apply hfinished
  | during hduring =>
    rw [hflushing] at hduring
    cases hduring

theorem sound_of_finished (hflushing : history.flushing = [])
    (hfinished : Finished machine (stored world.exit) history.log) :
  Sound machine world history
  := ⟨.between hflushing hfinished, fun h => (h hflushing).elim⟩

theorem Idle.sound (h : Idle machine world history) :
  Sound machine world history
  := sound_of_finished h.flushing_eq h.finished

theorem Sound.idle (h : Sound machine world history) (hacting : world.acting = true)
    (hflushing : history.flushing = []) :
  Idle machine world history
  := ⟨hacting, hflushing, h.finished hflushing⟩

/-- Nothing is being flushed when no outermost call is running. -/
theorem Sound.flushing_eq (h : Sound machine world history) (hacting : world.acting = false) :
  history.flushing = []
  := by
  cases hflushing : history.flushing with
  | nil => rfl
  | cons state rest =>
    have hbusy := (h.flushing (by simp [hflushing])).1
    rw [hacting] at hbusy
    cases hbusy

variable {marks marks' : List (Mark S C K)}

theorem Due.of_append (h : Due machine (marks ++ marks') world history) :
  Due machine marks world history
  := ⟨h.acting_eq, h.entered_eq, h.flushing_eq, h.unfinished.of_append⟩

theorem Due.sound (h : Due machine marks world history) :
  Sound machine world history
  := ⟨.during h.flushing_eq h.unfinished.of_append, fun _ => ⟨h.acting_eq, h.entered_eq⟩⟩

/-- A flush goes on while the state is held and what was expected happens. -/
theorem Due.advance (h : Due machine (marks ++ marks') world history)
    (hflushing : history'.flushing = history.flushing)
    (hdid : Did marks world history world' history') :
  Due machine marks' world' history'
  where
  acting_eq := hdid.held.acting_eq.trans h.acting_eq
  entered_eq := by rw [hdid.held.entered_eq, hdid.held.key_eq, h.entered_eq]
  flushing_eq := by rw [hflushing, hdid.held.state_eq, h.flushing_eq]
  unfinished := by
    rw [hdid.log_eq, hdid.held.state_eq]
    apply h.unfinished.advance

/-- Soundness depends on the parts of the world that are held and on what has happened. -/
theorem Sound.of_held (h : Sound machine world history) (hheld : Held world world')
    (hflushing : history'.flushing = history.flushing) (hlog : history'.log = history.log) :
  Sound machine world' history'
  where
  bracketed := by
    cases h.bracketed with
    | between hnone hfinished =>
      apply Bracketed.between
      · rw [hflushing, hnone]
      · rw [hheld.exit_eq, hlog]
        apply hfinished
    | during hduring hunfinished =>
      apply Bracketed.during
      · rw [hflushing, hheld.state_eq, hduring]
      · rw [hheld.state_eq, hlog]
        apply hunfinished
  flushing hsome := by
    rw [hheld.acting_eq, hheld.entered_eq, hheld.key_eq]
    rw [hflushing] at hsome
    apply h.flushing hsome

/-- From one moment to another of a part of a call effects and cleanups stay bracketed, and during
a flush nothing happens to them and the state is held. -/
structure Passed (machine : Machine S C K) (world : World S C K M) (history : History S C K M)
    (world' : World S C K M) (history' : History S C K M) : Prop where
  sound : Sound machine world' history'
  acting_eq : world'.acting = world.acting
  held : history.flushing ≠ [] → Held world world'
  log_eq : history.flushing ≠ [] → history'.log = history.log

theorem Passed.refl (h : Sound machine world history) :
  Passed machine world history world history
  := ⟨h, rfl, fun _ => Held.refl world, fun _ => rfl⟩

theorem Passed.trans (h : Passed machine world history world' history')
    (hcontinues : Moment.Continues history history')
    (h' : Passed machine world' history' world'' history'') :
  Passed machine world history world'' history''
  where
  sound := h'.sound
  acting_eq := h'.acting_eq.trans h.acting_eq
  held hflushing := by
    apply (h.held hflushing).trans (h'.held _)
    rwa [flushing_continued hcontinues]
  log_eq hflushing := by
    rw [h'.log_eq, h.log_eq hflushing]
    rwa [flushing_continued hcontinues]

/-- What is held and has happened is passed on. -/
theorem Passed.of_held (h : Passed machine world history world' history')
    (hheld : Held world' world'') :
  Passed machine world history world'' history'
  where
  sound := h.sound.of_held hheld rfl rfl
  acting_eq := hheld.acting_eq.trans h.acting_eq
  held hflushing := (h.held hflushing).trans hheld
  log_eq := h.log_eq

/-- A silent call changes nothing when it is made. -/
theorem Sound.called {call : Call S C K} (hsilent : call.Silent)
    (h : Sound machine world history) :
  Sound machine world (.called call world :: history)
  := by
  apply h.of_held (Held.refl world)
  · apply flushing_called (flushes?_of_silent hsilent)
  · apply log_called hsilent

/-- What the body of a silent call passes on is passed on by the call. -/
theorem Passed.answered {call : Call S C K} (hsilent : call.Silent)
    (hcontinues : Moment.Continues (.called call world :: history) history')
    (h : Passed machine world (.called call world :: history) world' history')
    (answer : call.Answer) :
  Passed machine world history world' (.answered call answer world' :: history')
  := by
  have hcalled : History.flushing (.called call world :: history) = history.flushing :=
    flushing_called (flushes?_of_silent hsilent) world
  constructor
  · apply h.sound.of_held (Held.refl world')
    · rw [flushing_continued (hcontinues.answered answer world'), flushing_continued hcontinues,
        hcalled]
    · apply log_answered hsilent
  · apply h.acting_eq
  · rw [← hcalled]
    apply h.held
  · intro hflushing
    rw [← hcalled] at hflushing
    rw [log_answered hsilent, h.log_eq hflushing, log_called hsilent]

/-- A flush goes on when a silent call is made. -/
theorem Due.called {call : Call S C K} (hsilent : call.Silent)
    (h : Due machine marks world history) :
  Due machine marks world (.called call world :: history)
  where
  acting_eq := h.acting_eq
  entered_eq := h.entered_eq
  flushing_eq := by rw [flushing_called (flushes?_of_silent hsilent), h.flushing_eq]
  unfinished := by
    rw [log_called hsilent]
    apply h.unfinished

omit [DecidableEq S] [StateValue S] in
/-- What the body of a silent call did is what the call did. -/
theorem Did.answered {call : Call S C K} (hsilent : call.Silent)
    (h : Did marks world (.called call world :: history) world' history') (answer : call.Answer) :
  Did marks world history world' (.answered call answer world' :: history')
  where
  held := h.held
  log_eq := by rw [log_answered hsilent, h.log_eq, log_called hsilent]

/-- During a flush nothing but what is logged happens in a part of a call. -/
theorem Passed.did (h : Passed machine world history world' history')
    (hflushing : history.flushing = [world.state]) :
  Did [] world history world' history'
  where
  held := h.held (by simp [hflushing])
  log_eq := by rw [h.log_eq (by simp [hflushing]), List.append_nil]

/-- When everything that was expected has happened effects and cleanups are bracketed. -/
theorem Due.done (h : Due machine marks world history)
    (hflushing : history'.flushing = history.flushing)
    (hdid : Did marks world history world' history') :
  Bracketed machine world' history'
  := by
  have hdue : Due machine (marks ++ []) world history := by rwa [List.append_nil]
  apply (hdue.advance hflushing hdid).sound.bracketed

end GuardedMachine.Synced
