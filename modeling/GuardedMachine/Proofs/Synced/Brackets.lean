import GuardedMachine.Proofs.Synced.FlushContract
import GuardedMachine.Proofs.Synced.Order

/-!
# The order of effects and cleanups

The effects and cleanups of a synchronous machine are bracketed: the cleanups that the effects of
one flush return are run, in the order in which they were returned, at the beginning of the next
flush, each once, and no flush begins before the last one has ended.  This holds no matter which
callbacks call the machine while it flushes, because a state that is being flushed counts as
entered and nothing is applied until the flush has ended.
-/

namespace GuardedMachine.Synced

variable {S C K M ε α : Type} [DecidableEq S] [StateValue S] {machine : Machine S C K}
  {world world' : World S C K M} {history history' : History S C K M}

/-! ### Bodies that are logged -/

/-- A logged call is carried out when its body is a part of a call and what is logged at its
beginning and its end is due. -/
theorem carriesOut_of_due {call : Call S C K} (hflushes : call.flushes? = none)
    {first : Mark S C K} {last : call.Answer → Mark S C K}
    (hcalled : ∀ world (history : History S C K M),
      History.log (.called call world :: history) = history.log ++ [first])
    (hanswered : ∀ answer world (history : History S C K M),
      History.log (.answered call answer world :: history) = history.log ++ [last answer])
    {body : Engine S C K M ε call.Answer}
    (hbody : ∀ history : History S C K M,
      ((flushContract machine).judgement (Within machine world history)).runs body)
    (hfirst : Due machine [first] world history)
    (hlast : ∀ answer, Due machine [first, last answer] world history) :
  (flushContract machine).CarriesOut (Bracketed machine) call body
    (fun answer world' history' => Did [first, last answer] world history world' history')
    world history
  := by
  have hbegun : Did [first] world history world (.called call world :: history) :=
    ⟨Held.refl world, hcalled _ _⟩
  have hflushing : History.flushing (.called call world :: history) = history.flushing :=
    flushing_called hflushes world
  have hdue : Due machine [] world (.called call world :: history) :=
    Due.advance hfirst hflushing hbegun
  use hdue.sound.bracketed
  apply (hbody _ _ _ (within_refl hdue.sound)).mono
  rintro answer world' history' - ⟨-, -, hpassed⟩ hcontinues
  have hdid : Did [first, last answer] world history world'
      (.answered call answer world' :: history') := by
    have hbody := hbegun.trans (hpassed.did hdue.flushing_eq)
    constructor
    · apply hbody.held
    · rw [hanswered, hbody.log_eq, List.append_assoc]
      rfl
  refine ⟨?_, hdid⟩
  have hdone : Due machine [] world' (.answered call answer world' :: history') := by
    apply Due.advance (hlast answer) _ hdid
    apply flushing_continued (hcontinues.answered answer world')
  apply hdone.sound.bracketed

variable {state : MachineState S C}

/-- The cleanups run in order. -/
theorem ensures_runExits {handle : Handle} (exits : List K)
    (h : Due machine (leaving exits state) world history) :
  (flushContract machine).Ensures
    (effectHost.runExits { event := state.event, context := state.context, handle } exits :
      Engine S C K M ε Unit)
    (fun _ world' history' => Did (leaving exits state) world history world' history')
    world history
  := by
  induction exits generalizing world history with
  | nil => apply Did.refl
  | cons exit rest ih =>
    have hfirst : Due machine [.cleanup exit state.event state.context, .cleaned] world history :=
      Due.of_append h
    simp only [EffectHost.runExits, Contract.ensures_bind]
    use hfirst
    intro _ world' history' hcontinues hdid
    have hrest : Due machine (leaving rest state) world' history' :=
      Due.advance h (flushing_continued hcontinues) hdid
    apply (ih hrest).mono
    intro _ world'' history'' _ hdid'
    apply Did.trans hdid hdid'

theorem ensures_leave {cleanup : EffectCleanup K}
    (h : Due machine (leaving cleanup.exits state) world history) :
  (flushContract machine).Ensures
    (effectHost.leave cleanup state.event state.context : Engine S C K M ε Unit)
    (fun _ world' history' => Did (leaving cleanup.exits state) world history world' history')
    world history
  := by
  have hunlocked : Due machine (leaving cleanup.exits state)
      { world with locks := world.locks.setLocked cleanup.handle.lock false } history :=
    ⟨h.acting_eq, h.entered_eq, h.flushing_eq, h.unfinished⟩
  simp only [EffectHost.leave, effectHost, Contract.ensures_bind, Contract.ensures_update]
  apply (ensures_runExits cleanup.exits hunlocked).mono
  intro _ world' history' _ hdid
  obtain ⟨hheld, hlog⟩ := hdid
  exact ⟨⟨hheld.acting_eq, hheld.state_eq, hheld.epoch_eq, hheld.entered_eq, hheld.exit_eq⟩, hlog⟩

variable [Context C]

/-- The effects run in order, and the cleanups that they return are kept. -/
theorem ensures_runEffects {config : Config K} {handle : Handle} (names : List String)
    (h : ∀ effects : List (K × Option K), effects.map Prod.fst = names.filterMap config.effect? →
      Due machine (Visit.mk state effects).entering world history) :
  (flushContract machine).Ensures
    (effectHost.runEffects config state handle names : Engine S C K M ε (List K))
    (fun exits world' history' => ∃ effects : List (K × Option K),
      effects.map Prod.fst = names.filterMap config.effect?
        ∧ exits = (Visit.mk state effects).exits
        ∧ Did (Visit.mk state effects).entering world history world' history')
    world history
  := by
  induction names generalizing world history with
  | nil => exact ⟨[], rfl, rfl, Did.refl world history⟩
  | cons name rest ih =>
    rw [EffectHost.runEffects]
    obtain ⟨effects, heffects⟩ := exists_effects (rest.filterMap config.effect?)
    cases heffect : config.effect? name with
    | none =>
      simp only [List.filterMap_cons, heffect] at h ⊢
      have hdue := h effects heffects
      simp only [Contract.ensures_bind]
      use hdue.sound
      intro _ world' history' hcontinues hpassed
      have hdid := Passed.did hpassed hdue.flushing_eq
      have hrest : ∀ effects : List (K × Option K),
          effects.map Prod.fst = rest.filterMap config.effect? →
            Due machine (Visit.mk state effects).entering world' history' := by
        intro effects heffects
        apply Due.advance (h effects heffects) (flushing_continued hcontinues) hdid
      apply (ih hrest).mono
      rintro exits world'' history'' - ⟨effects, heffects, hexits, hdid'⟩
      exact ⟨effects, heffects, hexits, hdid.trans hdid'⟩
    | some token =>
      simp only [List.filterMap_cons, heffect] at h ⊢
      have hnext : ∀ exit effects, effects.map Prod.fst = rest.filterMap config.effect? →
          Due machine ([.effect token state.event state.context, .returned exit]
            ++ (Visit.mk state effects).entering) world history := by
        intro exit effects heffects
        apply h ((token, exit) :: effects)
        rw [List.map_cons, heffects]
      simp only [Contract.ensures_bind]
      use fun exit => (hnext exit effects heffects).of_append
      intro exit world' history' hcontinues hdid
      have hrest : ∀ effects : List (K × Option K),
          effects.map Prod.fst = rest.filterMap config.effect? →
            Due machine (Visit.mk state effects).entering world' history' := by
        intro effects heffects
        apply (hnext exit effects heffects).advance (flushing_continued hcontinues) hdid
      apply Contract.ensures_bind _ _ |>.mpr
      apply (ih hrest).mono
      rintro exits world'' history'' - ⟨effects, heffects, rfl, hdid'⟩
      use (token, exit) :: effects
      refine ⟨?_, ?_, Did.trans hdid hdid'⟩
      · rw [List.map_cons, heffects]
      · cases exit with
        | none => rfl
        | some exit => rfl

theorem ensures_enter
    (h : ∀ visit : Visit S C K, visit.Complete machine → visit.state = state →
      Due machine visit.entering world history) :
  (flushContract machine).Ensures
    (effectHost.enter machine.definition machine.config state true :
      Engine S C K M ε (Option (EffectCleanup K)))
    (fun exit world' history' => ∃ visit : Visit S C K, visit.Complete machine
      ∧ visit.state = state ∧ stored exit = visit.exits
      ∧ Did visit.entering world history world' history')
    world history
  := by
  have heffects : ∀ effects : List (K × Option K),
      effects.map Prod.fst = Visit.effectsOf machine state.value →
        Due machine (Visit.mk state effects).entering world history := by
    intro effects heffects
    apply h { state, effects } heffects rfl
  rw [EffectHost.enter]
  cases hstate : machine.definition.state? state.value with
  | none =>
    refine ⟨{ state, effects := [] }, ?_, rfl, rfl, Did.refl world history⟩
    simp [Visit.Complete, Visit.effectsOf, hstate]
  | some entered =>
    obtain ⟨rows, names⟩ := entered
    cases names with
    | nil =>
      refine ⟨{ state, effects := [] }, ?_, rfl, rfl, Did.refl world history⟩
      simp [Visit.Complete, Visit.effectsOf, hstate]
    | cons name rest =>
      have hunlocked : ∀ effects : List (K × Option K),
          effects.map Prod.fst = (name :: rest).filterMap machine.config.effect? →
            Due machine (Visit.mk state effects).entering
              { world with locks := world.locks.add } history := by
        intro effects hnames
        have hdue := heffects effects (by rw [hnames, Visit.effectsOf, hstate])
        exact ⟨hdue.acting_eq, hdue.entered_eq, hdue.flushing_eq, hdue.unfinished⟩
      simp only [effectHost, Contract.ensures_bind, Contract.ensures_world,
        Contract.ensures_update, Contract.ensures_pure]
      apply (ensures_runEffects (name :: rest) hunlocked).mono
      rintro exits world' history' - ⟨effects, hnames, hexits, hheld, hlog⟩
      refine ⟨{ state, effects }, ?_, rfl, hexits, ?_, hlog⟩
      · rw [Visit.Complete, Visit.effectsOf, hstate]
        exact hnames
      · exact ⟨hheld.acting_eq, hheld.state_eq, hheld.epoch_eq, hheld.entered_eq, hheld.exit_eq⟩

omit [Context C] in
/-- The stored cleanups run, and are no longer stored. -/
theorem ensures_runExit (h : Due machine (leaving (stored world.exit) world.state) world history) :
  (flushContract machine).Ensures (runExit : Engine S C K M ε Unit)
    (fun _ world' history' => Did (leaving (stored world.exit) world.state)
      { world with exit := none } history world' history')
    world history
  := by
  simp only [runExit, Contract.ensures_bind, Contract.ensures_world]
  cases hexit : world.exit with
  | none => exact ⟨⟨rfl, rfl, rfl, rfl, hexit⟩, (List.append_nil _).symm⟩
  | some cleanup =>
    rw [hexit] at h
    simp only [Contract.ensures_bind, Contract.ensures_update]
    refine ⟨⟨rfl, rfl, h.acting_eq, h.entered_eq, h.flushing_eq, h.unfinished⟩, ?_⟩
    intro _ world' history' _ hdid
    exact hdid

omit [Context C] in
/-- A flush that is running is due to run the stored cleanups. -/
theorem Idle.due (h : Idle machine world history) (hentered : world.entered = some world.key) :
  Due machine (leaving (stored world.exit) world.state) world
    (.called (.renew world.state) world :: history)
  where
  acting_eq := h.acting_eq
  entered_eq := hentered
  flushing_eq := by rw [flushing_renew, h.flushing_eq]
  unfinished := h.finished.begins world.state

omit [Context C] in
/-- A flush ends with the visit of the state, and its cleanups stored. -/
theorem carriesOut_renew (h : Idle machine world history)
    (hentered : world.entered = some world.key) :
  (flushContract machine).CarriesOut (Bracketed machine) (.renew world.state)
    (renew world.state : Engine S C K M ε Unit)
    (fun _ world' history' => Sound machine world' history' ∧ world'.acting = true)
    world history
  := by
  have hdue := h.due hentered
  use hdue.sound.bracketed
  simp only [renew, Contract.ensures_bind]
  apply (ensures_runExit hdue).mono
  intro _ world₁ history₁ hcontinues₁ hleft
  have hstate : world₁.state = world.state := hleft.held.state_eq
  have henter : ∀ visit : Visit S C K, visit.Complete machine → visit.state = world₁.state →
      Due machine visit.entering world₁ history₁ := by
    intro visit hvisit hvisited
    have hflushed : visit.state = world.state := hvisited.trans hstate
    constructor
    · apply hleft.held.acting_eq.trans h.acting_eq
    · rw [hleft.held.entered_eq, hleft.held.key_eq]
      apply hentered
    · rw [flushing_continued hcontinues₁, hdue.flushing_eq, hstate]
    · have hunfinished := h.finished.enters hvisit
      rw [hflushed] at hunfinished
      rw [hstate, hleft.log_eq]
      apply hunfinished
  refine ⟨⟨hstate.symm, henter⟩, ?_⟩
  rintro exit world₂ history₂ - ⟨visit, hvisit, hvisited, hstored, hentering⟩ hcontinues
  have hsound : Sound machine { world₂ with exit }
      (.answered (.renew world.state) () { world₂ with exit } :: history₂) := by
    apply sound_of_finished
    · rw [flushing_continued (hcontinues.answered _ _), h.flushing_eq]
    · have hfinished := h.finished.ends hvisit
      rw [hvisited, ← hstored] at hfinished
      have hlog : History.log history₂ = history.log ++ [.flush world.state]
          ++ leaving (stored world.exit) world.state ++ visit.entering := by
        rw [hentering.log_eq, hleft.log_eq]
        rfl
      rw [← hlog] at hfinished
      apply hfinished
  have hacting : world₂.acting = true := by
    rw [hentering.held.acting_eq, hleft.held.acting_eq]
    apply h.acting_eq
  exact ⟨hsound.bracketed, hsound, hacting⟩

omit [Context C] in
/-- The cleanups of a state are run when they are due. -/
theorem carriesOut_leave {cleanup : EffectCleanup K}
    (h : Due machine (leaving cleanup.exits state) world history) :
  (flushContract machine).CarriesOut (Bracketed machine)
    (.leave cleanup state.event state.context)
    (effectHost.leave cleanup state.event state.context : Engine S C K M ε Unit)
    (fun _ world' history' => Did (leaving cleanup.exits state) world history world' history')
    world history
  := by
  have hsilent : Call.Silent (.leave cleanup state.event state.context : Call S C K) := trivial
  have hcalled := h.called hsilent
  use hcalled.sound.bracketed
  apply (ensures_leave hcalled).mono
  intro _ world' history' _ hdid hcontinues
  have hdid := hdid.answered hsilent ()
  exact ⟨h.done (flushing_continued (hcontinues.answered _ _)) hdid, hdid⟩

/-- The effects of a state are run when they are due, whatever they return. -/
theorem carriesOut_enter
    (h : ∀ visit : Visit S C K, visit.Complete machine → visit.state = state →
      Due machine visit.entering world history) :
  (flushContract machine).CarriesOut (Bracketed machine) (.enter state)
    (effectHost.enter machine.definition machine.config state true :
      Engine S C K M ε (Option (EffectCleanup K)))
    (fun exit world' history' => ∃ visit : Visit S C K, visit.Complete machine
      ∧ visit.state = state ∧ stored exit = visit.exits
      ∧ Did visit.entering world history world' history')
    world history
  := by
  have hsilent : Call.Silent (.enter state : Call S C K) := trivial
  have hcalled : ∀ visit : Visit S C K, visit.Complete machine → visit.state = state →
      Due machine visit.entering world (.called (.enter state) world :: history) := by
    intro visit hvisit hvisited
    apply (h visit hvisit hvisited).called hsilent
  obtain ⟨visit, hvisit, hvisited⟩ := Visit.exists_complete (K := K) state
  use (hcalled visit hvisit hvisited).sound.bracketed
  apply (ensures_enter hcalled).mono
  rintro exit world' history' - ⟨visit, hvisit, hvisited, hstored, hdid⟩ hcontinues
  have hdid := hdid.answered hsilent exit
  refine ⟨?_, visit, hvisit, hvisited, hstored, hdid⟩
  apply (h visit hvisit hvisited).done _ hdid
  apply flushing_continued (hcontinues.answered _ _)

section Client

variable {client : Client S C K M ε} (hasks : client.Asks Request.Ordinary)

include hasks

/-- An effect is run when it is due, whatever it returns. -/
theorem carriesOut_effect {token : K} {params : EffectParams C}
    (h : ∀ exit, Due machine [.effect token params.event params.context, .returned exit] world
      history) :
  (flushContract machine).CarriesOut (Bracketed machine) (.effect token params)
    (body machine client (.effect token params))
    ((flushContract machine).post (.effect token params) world history) world history
  := by
  apply carriesOut_of_due
  · rfl
  · intro world history
    rfl
  · intro exit world history
    rfl
  · intro history
    apply runs_ofCode_within (hasks.effect token params)
  · exact (h none).of_append
  · apply h

/-- A cleanup is run when it is due. -/
theorem carriesOut_cleanup {token : K} {params : EffectParams C}
    (h : Due machine [.cleanup token params.event params.context, .cleaned] world history) :
  (flushContract machine).CarriesOut (Bracketed machine) (.cleanup token params)
    (body machine client (.cleanup token params))
    ((flushContract machine).post (.cleanup token params) world history) world history
  := by
  apply carriesOut_of_due
  · rfl
  · intro world history
    rfl
  · intro _ world history
    rfl
  · intro history
    apply runs_ofCode_within (hasks.cleanup token params)
  · exact Due.of_append h
  · intro _
    apply h

/-- The body of a call that may be made aside is a part of it. -/
theorem runs_body_within {call : Call S C K} (haside : call.Aside) :
  ((flushContract machine).judgement (Within machine world history)).runs (body machine client call)
  := by
  cases call with
  | push action =>
    apply Contract.runs_update
    intro world' history' hwithin
    exact hwithin.of_held ⟨rfl, rfl, rfl, rfl, rfl⟩
  | guard token event context => apply runs_ofCode_within (hasks.guard token event context)
  | reduce token context => apply runs_ofCode_within (hasks.reduce token context)
  | callback token => apply runs_ofCode_within (hasks.callback token)
  | report report => apply Judgement.runs_pure
  | _ => cases haside

/-- So it is carried out whenever effects and cleanups are bracketed. -/
theorem carriesOut_aside {call : Call S C K} (haside : call.Aside)
    (h : Sound machine world history) :
  (flushContract machine).CarriesOut (Bracketed machine) call (body machine client call)
    ((flushContract machine).post call world history) world history
  := by
  have hbody : ∀ history : History S C K M, ((flushContract machine).judgement
      (Within machine world history)).runs (body machine client call) := by
    intro history
    apply runs_body_within hasks haside
  cases call with
  | push | guard | reduce | callback | report =>
    apply carriesOut_of_within _ hbody h
    trivial
  | _ => cases haside

/-- Every body keeps effects and cleanups bracketed. -/
theorem fulfils_flush :
  (flushContract machine).Fulfils (Bracketed machine) (body machine client)
  := by
  intro call world history hpre
  cases call with
  | request request =>
    apply carriesOut_of_within
    · trivial
    · intro history
      apply runs_serveRequest_within hpre.1
    · apply hpre.2
  | settle =>
    apply carriesOut_of_idle
    · trivial
    · apply runs_settle runs_drain_idle runs_flush_idle runs_settle_idle
    · apply hpre
  | drain =>
    apply carriesOut_of_idle
    · trivial
    · apply runs_drain_body_idle
    · apply hpre
  | apply action =>
    apply carriesOut_of_idle
    · trivial
    · apply runs_apply_body_idle
    · apply hpre
  | renew state =>
    obtain ⟨rfl, hentered, hidle⟩ := hpre
    apply carriesOut_renew hidle hentered
  | leave cleanup event context =>
    obtain ⟨rfl, rfl, hdue⟩ := hpre
    apply carriesOut_leave hdue
  | enter state =>
    obtain ⟨rfl, hdue⟩ := hpre
    apply carriesOut_enter hdue
  | effect token params => apply carriesOut_effect hasks hpre
  | cleanup token params => apply carriesOut_cleanup hasks hpre
  | push | guard | reduce | callback | report => exact carriesOut_aside hasks trivial hpre

end Client

/-- In every run of ordinary requests, at every moment and once it has returned, effects and
cleanups are bracketed. -/
theorem effects_bracketed (machine : Machine S C K) (client : Client S C K M ε)
    (hasks : client.Asks Request.Ordinary) (code : Code S C K M ε α)
    (hcode : code.Asks Request.Ordinary) (memory : M) (depth : Nat) :
  (Synced.run machine client depth code (World.initial machine.initialState memory)).Reaches
    (Bracketed machine) fun _ world (history : History S C K M) =>
      history.flushing = [] ∧ Finished machine (stored world.exit) history.log
  := by
  have hstart : Sound machine (World.initial machine.initialState memory) [] := by
    apply sound_of_finished
    · rfl
    · refine ⟨[], ?_, rfl, rfl⟩
      intro visit hvisit
      cases hvisit
  have hrun := Contract.reaches_run (fulfils_flush hasks) (runs_ofCode_within hcode)
    (within_refl hstart) depth
  use hrun.1
  intro result hresult
  obtain ⟨-, hopen, -, hpassed⟩ := hrun.2 result hresult
  have hflushing : History.flushing (Synced.run machine client depth code
      (World.initial machine.initialState memory)).history = [] := by
    rw [History.flushing, Synced.run, hopen]
    rfl
  exact ⟨hflushing, hpassed.sound.finished hflushing⟩

/-- The turnstile flushes three states, of which one has an effect, whose cleanup is run when the
state is left. -/
theorem turnstile_bracketed :
  (turnstileClient.Asks Request.Ordinary ∧ turnstileOwner.Asks Request.Ordinary)
    ∧ (turnstileRun.ending = .returned () ∧ (History.log turnstileRun.history).length = 10)
    ∧ turnstileRun.Reaches (Bracketed turnstile)
      fun _ world (history : History String Int64 String Unit) =>
        history.flushing = [] ∧ Finished turnstile (stored world.exit) history.log
  := by
  use ⟨turnstileClient_asks, turnstileOwner_asks⟩
  use ⟨rfl, by decide +kernel⟩
  apply effects_bracketed turnstile turnstileClient turnstileClient_asks turnstileOwner
    turnstileOwner_asks

end GuardedMachine.Synced
