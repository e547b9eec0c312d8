import GuardedMachine.Proofs.Synced.Bodies
import GuardedMachine.Proofs.Synced.Flushing

/-!
# The contract of effects and cleanups

When the calls of a synchronous machine may be made so that effects and cleanups are bracketed.
Most calls may be made at any time, and pass on what is being flushed (`Within`); draining and
settling belong to outermost calls, between two flushes (`Idle`); and an effect or a cleanup is run
when it is due.  The bodies of all calls but flushes, effects and cleanups are carried out here.
-/

namespace GuardedMachine.Synced

variable {S C K M ε α : Type} [DecidableEq S] [StateValue S] {machine : Machine S C K}
  {world world' : World S C K M} {history history' : History S C K M}

/-! ### The contract -/

/-- When calls may be made so that effects and cleanups are bracketed, and what happens to these
meanwhile. -/
def flushContract (machine : Machine S C K) :
    Contract (Call S C K) Call.Answer (World S C K M) where
  pre
    | .request request, world, history => request.Ordinary ∧ Sound machine world history
    | .settle, world, history => Idle machine world history
    | .drain, world, history => Idle machine world history
    | .apply _, world, history => Idle machine world history
    | .renew state, world, history =>
      state = world.state ∧ world.entered = some world.key ∧ Idle machine world history
    | .leave cleanup event context, world, history =>
      event = world.state.event ∧ context = world.state.context
        ∧ Due machine (leaving cleanup.exits world.state) world history
    | .enter state, world, history =>
      state = world.state ∧ ∀ visit : Visit S C K, visit.Complete machine →
        visit.state = world.state → Due machine visit.entering world history
    | .cleanup token params, world, history =>
      Due machine [.cleanup token params.event params.context, .cleaned] world history
    | .effect token params, world, history =>
      ∀ exit, Due machine [.effect token params.event params.context, .returned exit] world history
    | _, world, history => Sound machine world history
  post
    | .settle, _, _, _, world', history' =>
      Sound machine world' history' ∧ world'.acting = true
    | .drain, _, _, _, world', history' =>
      Sound machine world' history' ∧ world'.acting = true
    | .apply _, _, _, _, world', history' =>
      Sound machine world' history' ∧ world'.acting = true
    | .renew _, _, _, _, world', history' =>
      Sound machine world' history' ∧ world'.acting = true
    | .leave cleanup _ _, world, history, _, world', history' =>
      Did (leaving cleanup.exits world.state) world history world' history'
    | .enter state, world, history, exit, world', history' =>
      ∃ visit : Visit S C K, visit.Complete machine ∧ visit.state = state
        ∧ stored exit = visit.exits ∧ Did visit.entering world history world' history'
    | .cleanup token params, world, history, _, world', history' =>
      Did [.cleanup token params.event params.context, .cleaned] world history world' history'
    | .effect token params, world, history, exit, world', history' =>
      Did [.effect token params.event params.context, .returned exit] world history world' history'
    | _, world, history, _, world', history' => Passed machine world history world' history'

/-- A call that may be made whenever effects and cleanups are bracketed. -/
def Call.Aside : Call S C K → Prop
  | .push _ => True
  | .guard _ _ _ => True
  | .reduce _ _ => True
  | .callback _ => True
  | .report _ => True
  | _ => False

section Aside

variable {call : Call S C K} (haside : call.Aside)

include haside

theorem pre_of_aside :
  (flushContract machine).pre call = (Sound machine : Invariant S C K M)
  := by
  cases call with
  | push | guard | reduce | callback | report => rfl
  | _ => cases haside

theorem post_of_aside {answer : call.Answer}
    (h : (flushContract machine).post call world history answer world' history') :
  Passed machine world history world' history'
  := by
  cases call with
  | push | guard | reduce | callback | report => apply h
  | _ => cases haside

end Aside

/-! ### Parts of a call -/

/-- What a part of a call passes on, from its beginning. -/
def Within (machine : Machine S C K) (world : World S C K M) (history : History S C K M) :
    Invariant S C K M :=
  fun world' history' =>
    Moment.Continues history history' ∧ Passed machine world history world' history'

theorem within_refl (h : Sound machine world history) :
  Within machine world history world history
  := ⟨Moment.Continues.refl history, Passed.refl h⟩

/-- A part of a call may change whatever is not held. -/
theorem Within.of_held {world'' : World S C K M}
    (h : Within machine world history world' history') (hheld : Held world' world'') :
  Within machine world history world'' history'
  := ⟨h.1, h.2.of_held hheld⟩

/-- Calls that may be made aside are parts of a call. -/
theorem runs_ask_within {call : Call S C K} (haside : call.Aside) :
  ((flushContract machine).judgement (Within machine world history)).runs
    (ask call : Engine S C K M ε call.Answer)
  := by
  intro world' history' hwithin
  constructor
  · rw [pre_of_aside haside]
    apply hwithin.2.sound
  · intro _ world'' history'' hcontinues hanswer
    have hpassed := post_of_aside haside hanswer
    exact ⟨trivial, hwithin.1.trans hcontinues, hwithin.2.trans hwithin.1 hpassed⟩

/-- So are ordinary requests. -/
theorem runs_request_within {request : Request K} (hordinary : request.Ordinary) :
  ((flushContract machine).judgement (Within machine world history)).runs
    (ask (.request request) : Engine S C K M ε (request.Answer S C))
  := by
  intro world' history' hwithin
  use ⟨hordinary, hwithin.2.sound⟩
  intro answer world'' history'' hcontinues hpassed
  exact ⟨trivial, hwithin.1.trans hcontinues, hwithin.2.trans hwithin.1 hpassed⟩

theorem queues_within :
  Queues (flushContract machine) (Within machine world history) ε
  where
  mounted _ _ _ h := h.of_held ⟨rfl, rfl, rfl, rfl, rfl⟩
  push _ := runs_ask_within trivial
  report _ _ := runs_ask_within trivial

/-- The programs of a client are parts of a call. -/
theorem runs_ofCode_within {code : Code S C K M ε α} (hasks : code.Asks Request.Ordinary) :
  ((flushContract machine).judgement (Within machine world history)).runs (ofCode code)
  := by
  apply runs_ofCode _ _ hasks
  · intro world' history' memory hwithin
    exact hwithin.of_held ⟨rfl, rfl, rfl, rfl, rfl⟩
  · intro request hordinary
    apply runs_request_within hordinary

/-! ### Outermost calls -/

/-- A call after which an outermost call is still running, and effects and cleanups bracketed,
leaves no state being flushed. -/
theorem runs_ask_idle {call : Call S C K}
    (hpre : ∀ world history, Idle machine world history →
      (flushContract machine).pre call world (history : History S C K M))
    (hpost : ∀ world (history : History S C K M) answer world' history',
      Idle machine world history →
        (flushContract machine).post call world history answer world' history' →
          Sound machine world' history' ∧ world'.acting = true) :
  ((flushContract machine).judgement (Idle machine)).runs
    (ask call : Engine S C K M ε call.Answer)
  := by
  intro world history hidle
  use hpre _ _ hidle
  intro answer world' history' hcontinues hanswer
  obtain ⟨hsound, hacting⟩ := hpost _ _ _ _ _ hidle hanswer
  use trivial
  apply hsound.idle hacting
  rw [flushing_continued hcontinues, hidle.flushing_eq]

theorem runs_aside_idle {call : Call S C K} (haside : call.Aside) :
  ((flushContract machine).judgement (Idle machine)).runs
    (ask call : Engine S C K M ε call.Answer)
  := by
  apply runs_ask_idle
  · intro world history hidle
    rw [pre_of_aside haside]
    apply hidle.sound
  · intro world history answer world' history' hidle hanswer
    have hpassed := post_of_aside haside hanswer
    exact ⟨hpassed.sound, hpassed.acting_eq.trans hidle.acting_eq⟩

theorem runs_apply_idle (action : Action K) :
  ((flushContract machine).judgement (Idle machine)).runs
    (ask (.apply action) : Engine S C K M ε Unit)
  := runs_ask_idle (fun _ _ h => h) fun _ _ _ _ _ _ h => h

theorem runs_drain_idle :
  ((flushContract machine).judgement (Idle machine)).runs (ask .drain : Engine S C K M ε Nat)
  := runs_ask_idle (fun _ _ h => h) fun _ _ _ _ _ _ h => h

theorem runs_settle_idle :
  ((flushContract machine).judgement (Idle machine)).runs (ask .settle : Engine S C K M ε Unit)
  := runs_ask_idle (fun _ _ h => h) fun _ _ _ _ _ _ h => h

theorem queues_idle :
  Queues (flushContract machine) (Idle machine : Invariant S C K M) ε
  where
  mounted _ _ _ h := ⟨h.acting_eq, h.flushing_eq, h.finished⟩
  push _ := runs_aside_idle trivial
  report _ _ := runs_aside_idle trivial

/-- When no state is being flushed the current one may be. -/
theorem runs_flush_idle :
  ((flushContract machine).judgement (Idle machine)).runs (flush : Engine S C K M ε Unit)
  := by
  intro world history hidle
  simp only [flush, Contract.ensures_bind, Contract.ensures_world]
  split
  · exact ⟨trivial, hidle⟩
  · simp only [Contract.ensures_bind, Contract.ensures_update]
    use ⟨rfl, rfl, hidle.acting_eq, hidle.flushing_eq, hidle.finished⟩
    rintro _ world' history' hcontinues ⟨hsound, hacting⟩
    use trivial
    apply hsound.idle hacting
    rw [flushing_continued hcontinues, hidle.flushing_eq]

/-- A part of an outermost call flushes the current state only when no state is being flushed. -/
theorem runs_flush_within (hacting : world.acting = true) :
  ((flushContract machine).judgement (Within machine world history)).runs
    (flush : Engine S C K M ε Unit)
  := by
  rintro world' history' ⟨hcontinues, hpassed⟩
  have hacting' := hpassed.acting_eq.trans hacting
  by_cases hflushing : history.flushing = []
  · have hidle : Idle machine world' history' := by
      apply hpassed.sound.idle hacting'
      rw [flushing_continued hcontinues, hflushing]
    apply (runs_flush_idle _ _ hidle).mono
    rintro _ world'' history'' hcontinues' ⟨-, hidle'⟩
    use trivial, hcontinues.trans hcontinues'
    constructor
    · apply hidle'.sound
    · rw [hidle'.acting_eq, hacting]
    · intro hsome
      cases hsome hflushing
    · intro hsome
      cases hsome hflushing
  · rw [← flushing_continued hcontinues] at hflushing
    have hentered := (hpassed.sound.flushing hflushing).2
    simp only [flush, Contract.ensures_bind, Contract.ensures_world, hentered, if_true]
    exact ⟨trivial, hcontinues, hpassed⟩

/-! ### Bodies that are silent -/

/-- A silent call is carried out when its body is a part of a call. -/
theorem carriesOut_of_within {call : Call S C K} (hsilent : call.Silent)
    {body : Engine S C K M ε call.Answer}
    (hbody : ∀ history : History S C K M,
      ((flushContract machine).judgement (Within machine world history)).runs body)
    (h : Sound machine world history) :
  (flushContract machine).CarriesOut (Bracketed machine) call body
    (fun _ world' history' => Passed machine world history world' history') world history
  := by
  have hcalled := h.called hsilent
  use hcalled.bracketed
  apply (hbody _ _ _ (within_refl hcalled)).mono
  rintro answer world' history' - ⟨-, -, hpassed⟩ hcontinues
  have hpassed := hpassed.answered hsilent hcontinues answer
  exact ⟨hpassed.sound.bracketed, hpassed⟩

/-- A silent call is carried out when its body leaves no state being flushed. -/
theorem carriesOut_of_idle {call : Call S C K} (hsilent : call.Silent)
    {body : Engine S C K M ε call.Answer}
    (hbody : ((flushContract machine).judgement (Idle machine)).runs body)
    (h : Idle machine world history) :
  (flushContract machine).CarriesOut (Bracketed machine) call body
    (fun _ world' history' => Sound machine world' history' ∧ world'.acting = true)
    world history
  := by
  have hcalled : Idle machine world (.called call world :: history) := by
    apply (h.sound.called hsilent).idle h.acting_eq
    rw [flushing_called (flushes?_of_silent hsilent), h.flushing_eq]
  use hcalled.sound.bracketed
  apply (hbody _ _ hcalled).mono
  rintro answer world' history' - ⟨-, hidle⟩ hcontinues
  have hsound : Sound machine world' (.answered call answer world' :: history') := by
    apply sound_of_finished
    · rw [flushing_continued (hcontinues.answered answer world'), h.flushing_eq]
    · rw [log_answered hsilent]
      apply hidle.finished
  exact ⟨hsound.bracketed, hsound, hidle.acting_eq⟩

/-- An ordinary request is served as a part of a call, or as an outermost call that settles. -/
theorem runs_serveRequest_within {request : Request K} (hordinary : request.Ordinary) :
  ((flushContract machine).judgement (Within machine world history)).runs
    (serveRequest request : Engine S C K M ε (request.Answer S C))
  := by
  have hqueues : Queues (flushContract machine) (Within machine world history) ε := queues_within
  cases hacting : world.acting with
  | true =>
    apply hqueues.serveRequest hqueues _ (runs_flush_within hacting) _ hordinary
    · intro program
      apply runs_act_of_acting
      rintro world' history' ⟨-, hpassed⟩
      rw [hpassed.acting_eq, hacting]
    · intro token
      exact runs_ask_within trivial
  | false =>
    have hidle : Queues (flushContract machine) (Idle machine : Invariant S C K M) ε := queues_idle
    apply hqueues.serveRequest hidle _ runs_flush_idle _ hordinary
    · intro program
      have hfalse : ∀ world' history', Within machine world history world' history' →
          world'.acting = false := by
        rintro world' history' ⟨-, hpassed⟩
        rw [hpassed.acting_eq, hacting]
      apply runs_act_of_idle hfalse
      · intro world' history' hwithin
        have hflushing := hwithin.2.sound.flushing_eq (hfalse _ _ hwithin)
        exact ⟨rfl, hflushing, hwithin.2.sound.finished hflushing⟩
      · intro world' history' world'' history'' hwithin hcontinues hidle'
        have hflushing : history.flushing = [] := by
          rw [← flushing_continued hwithin.1, hwithin.2.sound.flushing_eq (hfalse _ _ hwithin)]
        use hwithin.1.trans hcontinues
        constructor
        · exact sound_of_finished hidle'.flushing_eq hidle'.finished
        · exact hacting.symm
        · intro hsome
          cases hsome hflushing
        · intro hsome
          cases hsome hflushing
      · apply runs_settle_idle
    · intro token
      exact runs_aside_idle trivial

/-- Draining runs no effects. -/
theorem runs_drain_body_idle :
  ((flushContract machine).judgement (Idle machine)).runs (drain : Engine S C K M ε Nat)
  := by
  apply runs_drain _ runs_apply_idle runs_drain_idle
  intro world history queue hidle
  exact ⟨hidle.acting_eq, hidle.flushing_eq, hidle.finished⟩

/-- Applying an action runs no effects. -/
theorem runs_apply_body_idle [Context C] (action : Action K) :
  ((flushContract machine).judgement (Idle machine)).runs
    (apply machine action : Engine S C K M ε Unit)
  := by
  apply Judgement.runs_bind Contract.runs_world
  intro world
  apply Judgement.runs_bind
  · apply StepHost.runs_step
    · intro token event context
      exact runs_aside_idle trivial
    · intro token context
      exact runs_aside_idle trivial
    · intro report
      exact runs_aside_idle trivial
  · intro outcome
    cases outcome with
    | unchanged => apply Judgement.runs_pure
    | contextUpdated state =>
      apply Contract.runs_update
      intro world history hidle
      exact ⟨hidle.acting_eq, hidle.flushing_eq, hidle.finished⟩
    | transitioned state =>
      apply Contract.runs_update
      intro world history hidle
      exact ⟨hidle.acting_eq, hidle.flushing_eq, hidle.finished⟩

end GuardedMachine.Synced
