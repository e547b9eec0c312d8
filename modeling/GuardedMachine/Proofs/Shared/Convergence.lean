import GuardedMachine.Proofs.Dispatch.Outcomes
import GuardedMachine.Proofs.Shared.Writes

/-!
# Observers converge

Whatever the callbacks of a shared machine ask of it, the states that an observer is given are in
the order in which they were written, and when no action is being performed every observer that was
subscribed at the last write and still is was given the current state last (`observers_converge`).

Passes nest: an observer may perform an action, whose pass runs before the pass that called the
observer goes on.  The induction rests on `Since`: if anything was written during a call, the
observers are informed of it when the call is answered, so a pass that goes on with an old list of
observers has nothing older to tell.
-/

namespace GuardedMachine.Shared

variable {S C K M ε α : Type} {initial : MachineState S C} {world world' world'' : World S C K M}
  {history history' history'' : History S C K M} {pending : List Nat}

/-! ### Between actions -/

/-- Every action that was answered by `true` has written once, and the observers are informed. -/
structure Rested (world : World S C K M) (history : History S C K M) : Prop where
  counted : history.writes.length = history.accepted.length
  informed : Informed [] world history

theorem Rested.congr (h : Rested world history) (halike : Alike history history') :
  Rested world history'
  where
  counted := by rw [halike.writes_eq, halike.accepted_eq, h.counted]
  informed := h.informed.congr halike

theorem Rested.since (h : Rested world history) (hsound : Sound initial world history)
    (hsince : Since world history world' history') :
  Rested world' history'
  where
  counted := by
    have hcounted := hsince.counted
    have hbefore := h.counted
    omega
  informed := h.informed.since hsound hsince

/-- Observers are given the states in the order in which they were written and, when no action is
being performed, know the current one. -/
structure Converging (initial : MachineState S C) (world : World S C K M)
    (history : History S C K M) : Prop where
  sound : Sound initial world history
  rested : ¬history.Performing → Rested world history

/-- While an action is being performed the observers need not be informed. -/
theorem converging_of_performing (hsound : Sound initial world history)
    (hperforming : history.Performing) :
  Converging initial world history
  := ⟨hsound, fun h => (h hperforming).elim⟩

/-- What was converging is converging after a call. -/
theorem Converging.since (h : Converging initial world history)
    (hcontinues : Moment.Continues history history') (hsound : Sound initial world' history')
    (hsince : Since world history world' history') :
  Converging initial world' history'
  where
  sound := hsound
  rested hperforming := by
    rw [performing_continued hcontinues] at hperforming
    apply (h.rested hperforming).since h.sound hsince

/-- Making a call other than that of an observer changes nothing. -/
theorem Converging.called {call : Call S C K}
    (hcall : ∀ id token state, call ≠ .observe id token state)
    (h : Converging initial world history) :
  Converging initial world (.called call world :: history)
  where
  sound := h.sound.congr (alike_called hcall world)
  rested hperforming := by
    apply (h.rested _).congr (alike_called hcall world)
    intro hbefore
    apply hperforming (performing_called call world hbefore)

/-! ### The contract -/

/-- When calls may be made, and what has happened since when they are answered.  An observer is
told the state at the moment at which it is called. -/
def passContract (initial : MachineState S C) :
    Contract (Call S C K) Call.Answer (World S C K M) where
  pre
    | .observe id token state, world, history =>
      Sound initial world (.called (.observe id token state) world :: history)
        ∧ History.Performing history
    | _, world, history => Converging initial world history
  post
    | .observe id token state, world, history, _, world', history' =>
      Sound initial world' history'
        ∧ Since world (.called (.observe id token state) world :: history) world' history'
        ∧ History.passing history' = true
    | _, world, history, _, world', history' =>
      Sound initial world' history' ∧ Since world history world' history'
        ∧ History.passing history' = false

/-- What a part of a call keeps, from its beginning. -/
structure Within (initial : MachineState S C) (world : World S C K M) (history : History S C K M)
    (world' : World S C K M) (history' : History S C K M) : Prop where
  continues : Moment.Continues history history'
  converging : Converging initial world' history'
  since : Since world history world' history'
  passing_eq : history'.passing = false

theorem within_refl (h : Converging initial world history) (hpassing : history.passing = false) :
  Within initial world history world history
  := ⟨Moment.Continues.refl history, h, Since.refl world history, hpassing⟩

/-- A part of a call may change whatever the state and the numbers of the observers do not depend
on. -/
theorem Within.of_world (h : Within initial world history world' history')
    (hstate : world''.state = world'.state) (hnext : world'.nextId ≤ world''.nextId)
    (hnew : ∀ id ∈ world''.ids, id < world'.nextId → id ∈ world'.ids)
    (hids : ∀ id ∈ world''.ids, id < world''.nextId) :
  Within initial world history world'' history'
  := by
  have hsince : Since world' history' world'' history' :=
    since_of_world history' hstate hnext hnew
  have hsound := h.converging.sound.of_world hstate hnext hids
  have hconverging := h.converging.since (Moment.Continues.refl history') hsound hsince
  exact ⟨h.continues, hconverging, h.since.trans h.converging.sound hsince, h.passing_eq⟩

/-- Calls other than those of observers are parts of a call. -/
theorem runs_ask_within {call : Call S C K}
    (hcall : ∀ id token state, call ≠ .observe id token state) :
  ((passContract initial).judgement (Within initial world history)).runs
    (ask call : Engine S C K M ε call.Answer)
  := by
  intro world' history' hwithin
  have hpre : (passContract initial).pre call world' history' := by
    cases call with
    | observe id token state => cases hcall id token state rfl
    | _ => apply hwithin.converging
  use hpre
  intro answer world'' history'' hcontinues hpost
  have hpost : Sound initial world'' history'' ∧ Since world' history' world'' history''
      ∧ History.passing history'' = false := by
    cases call with
    | observe id token state => cases hcall id token state rfl
    | _ => apply hpost
  obtain ⟨hsound, hsince, hpassing⟩ := hpost
  use trivial
  constructor
  · apply hwithin.continues.trans hcontinues
  · apply hwithin.converging.since hcontinues hsound hsince
  · apply hwithin.since.trans hwithin.converging.sound hsince
  · apply hpassing

/-- So are all requests. -/
theorem runs_serveRequest_within (request : Request K) :
  ((passContract initial).judgement (Within initial world history)).runs
    (serveRequest request : Engine S C K M ε (request.Answer S C))
  := by
  apply runs_serveRequest_of
  · intro world' history' observer hwithin
    have hids : ∀ id ∈ World.ids
        { world' with
          observers := world'.observers ++ [(world'.nextId, observer)]
          nextId := world'.nextId + 1 }, id ∈ world'.ids ∨ id = world'.nextId := by
      intro id hid
      rw [World.ids, List.map_append] at hid
      rcases List.mem_append.mp hid with hold | hnew
      · left
        apply hold
      · right
        apply List.mem_singleton.mp hnew
    refine hwithin.of_world rfl (Nat.le_succ _) ?_ ?_
    · intro id hid hlt
      rcases hids id hid with hold | rfl
      · apply hold
      · cases Nat.lt_irrefl _ hlt
    · intro id hid
      rcases hids id hid with hold | rfl
      · apply Nat.lt_succ_of_lt (hwithin.converging.sound.ids_lt id hold)
      · apply Nat.lt_succ_self
  · intro world' history' gone hwithin
    have hids : ∀ id ∈ World.ids
        { world' with
          observers := world'.observers.filter fun observer => observer.1 ≠ gone },
        id ∈ world'.ids := by
      intro id hid
      obtain ⟨observer, hobserver, rfl⟩ := List.mem_map.mp hid
      apply List.mem_map.mpr
      exact ⟨observer, (List.mem_filter.mp hobserver).1, rfl⟩
    refine hwithin.of_world rfl (Nat.le_refl _) ?_ ?_
    · intro id hid _
      apply hids id hid
    · intro id hid
      apply hwithin.converging.sound.ids_lt id (hids id hid)
  · intro world' history' hwithin
    exact hwithin.of_world rfl (Nat.le_refl _) (fun _ hid _ => hid)
      hwithin.converging.sound.ids_lt
  · intro action _
    apply runs_ask_within
    rintro id token state ⟨⟩

/-- So are the programs of a client. -/
theorem runs_ofCode_within (code : Code S C K M ε α) :
  ((passContract initial).judgement (Within initial world history)).runs (ofCode code)
  := by
  apply holds_ofCode_of _ _ (Program.asks_true code) (Program.yields_true code)
  · intro world' history' memory hwithin
    exact hwithin.of_world rfl (Nat.le_refl _) (fun _ hid _ => hid)
      hwithin.converging.sound.ids_lt
  · intro request _
    apply runs_ask_within
    rintro id token state ⟨⟩

/-! ### Passes -/

/-- A pass has told the state that was written at its beginning, or a later one, to all but those
that are pending. -/
structure Telling (initial : MachineState S C) (pending : List Nat) (world : World S C K M)
    (history : History S C K M) (world' : World S C K M) (history' : History S C K M) :
    Prop where
  sound : Sound initial world' history'
  ahead : Ahead 1 world history world' history'
  grown : history.writes.length < history'.writes.length
  informed : Informed pending world' history'

/-- What is told is told on while an observer runs. -/
theorem Telling.since (h : Telling initial pending world history world' history')
    (hsound : Sound initial world'' history'')
    (hsince : Since world' history' world'' history'') :
  Telling initial pending world history world'' history''
  where
  sound := hsound
  ahead := h.ahead.trans hsince.toAhead
  grown := Nat.lt_of_lt_of_le h.grown hsince.writes_prefix.length_le
  informed := h.informed.since h.sound hsince

section Given

variable {id : Nat} {token : K} {state : MachineState S C}

theorem given_observe_self (world : World S C K M) (history : History S C K M) :
  History.given id (.called (.observe id token state) world :: history)
    = history.given id ++ [state]
  := by simp [History.given, Moment.collect, History.givenAt]

theorem given_observe_of_ne {other : Nat} (h : id ≠ other) (world : World S C K M)
    (history : History S C K M) :
  History.given other (.called (.observe id token state) world :: history)
    = history.given other
  := by simp [History.given, Moment.collect, History.givenAt, h]

/-- At a moment at which an observer is called only that one is given a state. -/
theorem given_observe (world : World S C K M) (history : History S C K M) (other : Nat) :
  History.given other (.called (.observe id token state) world :: history) = history.given other
    ∨ History.given other (.called (.observe id token state) world :: history)
      = history.given other ++ [state]
  := by
  by_cases h : id = other
  · obtain rfl := h
    right
    apply given_observe_self
  · left
    apply given_observe_of_ne h

/-- The first observer of a pass is told what was written. -/
theorem telling_first (h : Sound initial world history) (hpassing : history.passing = false)
    {rest : List Nat} (hids : world.ids = id :: rest) (state : MachineState S C) :
  Telling initial rest { world with state } history { world with state }
    (.called (.observe id token state) { world with state } :: history)
  := by
  have hwrites : History.writes
      (.called (.observe id token state) { world with state } :: history)
      = history.writes ++ [{ world with state }] := by
    simp [History.writes, History.writtenAt, hpassing]
  have haccepted : History.accepted
      (.called (.observe id token state) { world with state } :: history)
      = history.accepted := List.append_nil _
  constructor
  · exact h.written rfl rfl hwrites (given_observe _ _)
  · refine ⟨Nat.le_refl _, fun _ hid _ => hid, ?_, ?_⟩
    · rw [hwrites]
      apply List.prefix_append
    · rw [hwrites, haccepted, List.length_append, List.length_singleton]
      omega
  · rw [hwrites, List.length_append]
    apply Nat.lt_succ_self
  · intro written hwritten other hother _ hpending
    rw [hwrites, List.getLast?_concat] at hwritten
    obtain rfl := Option.some.inj hwritten
    -- Of the observers that were subscribed at the write only the first is not pending.
    have heq : other = id := by
      rcases List.mem_cons.mp (hids ▸ hother) with heq | hrest
      · apply heq
      · cases hpending hrest
    obtain rfl := heq
    rw [given_observe_self, List.getLast?_concat]

/-- A later observer of a pass is told the state that is current then. -/
theorem Telling.next {rest : List Nat}
    (h : Telling initial (id :: rest) world history world' history')
    (hpassing : history'.passing = true) :
  Telling initial rest world history world'
    (.called (.observe id token world'.state) world' :: history')
  := by
  have hwrites : History.writes
      (.called (.observe id token world'.state) world' :: history') = history'.writes := by
    simp [History.writes, History.writtenAt, hpassing]
  have haccepted : History.accepted
      (.called (.observe id token world'.state) world' :: history') = history'.accepted :=
    List.append_nil _
  constructor
  · apply h.sound.told hwrites
    apply given_observe
  · refine ⟨h.ahead.nextId_le, h.ahead.mem_ids, ?_, ?_⟩
    · rw [hwrites]
      apply h.ahead.writes_prefix
    · rw [hwrites, haccepted]
      apply h.ahead.counted
  · rw [hwrites]
    apply h.grown
  · intro written hwritten other hother hother' hpending
    rw [hwrites] at hwritten
    by_cases heq : id = other
    · obtain rfl := heq
      rw [given_observe_self, List.getLast?_concat]
    · rw [given_observe_of_ne heq]
      apply h.informed written hwritten other hother hother'
      intro hmem
      rcases List.mem_cons.mp hmem with rfl | hrest
      · cases heq rfl
      · cases hpending hrest

end Given

/-- An observer that is being told runs, and is told on. -/
theorem ensures_observe {id : Nat} {token : K} {state : MachineState S C}
    (h : Telling initial pending world history world'
      (.called (.observe id token state) world' :: history'))
    (hperforming : history'.Performing) :
  (passContract initial).Ensures
    (ask (.observe id token state) : Engine S C K M ε Unit)
    (fun _ world'' history'' =>
      Telling initial pending world history world'' history''
        ∧ History.passing history'' = true)
    world' history'
  := by
  use ⟨h.sound, hperforming⟩
  rintro _ world'' history'' - ⟨hsound, hsince, hpassing⟩
  exact ⟨h.since hsound hsince, hpassing⟩

/-- The pending observers that are subscribed at their turn are told. -/
theorem ensures_notify (h : Telling initial pending world history world' history')
    (hpassing : history'.passing = true) (hperforming : history'.Performing) :
  (passContract initial).Ensures (notify pending : Engine S C K M ε Unit)
    (fun _ world'' history'' =>
      Telling initial [] world history world'' history''
        ∧ History.passing history'' = true)
    world' history'
  := by
  induction pending generalizing world' history' with
  | nil => exact ⟨h, hpassing⟩
  | cons id rest ih =>
    simp only [notify, Contract.ensures_bind, Contract.ensures_world]
    cases hobserver : world'.observer? id with
    | none =>
      apply ih _ hpassing hperforming
      refine ⟨h.sound, h.ahead, h.grown, ?_⟩
      intro written hwritten other hother hother' hpending
      apply h.informed written hwritten other hother hother'
      intro hmem
      rcases List.mem_cons.mp hmem with rfl | hrest
      · obtain ⟨token, htoken⟩ := exists_observer? hother'
        cases hobserver.symm.trans htoken
      · cases hpending hrest
    | some token =>
      simp only [Contract.ensures_bind]
      apply (ensures_observe (h.next hpassing) hperforming).mono
      rintro _ world'' history'' hcontinues ⟨htelling, hpassing'⟩
      apply ih htelling hpassing'
      rwa [performing_continued hcontinues]

/-- The observers have been told of a write when its action is answered. -/
structure Told (initial : MachineState S C) (action : Action K) (world : World S C K M)
    (history : History S C K M) (world' : World S C K M) (history' : History S C K M) :
    Prop where
  sound : Sound initial world' (.answered (.perform action) true world' :: history')
  since : Since world history world' (.answered (.perform action) true world' :: history')

/-- A pass that has told everyone ends when the action is answered. -/
theorem Telling.told {state : MachineState S C}
    (h : Telling initial [] { world with state } history world' history')
    (hpassing : history'.passing = true) (action : Action K) (running : Nat) :
  Told initial action world history { world' with running } history'
  := by
  have hwrites : History.writes
      (.answered (.perform action) true { world' with running } :: history')
      = history'.writes := by
    simp [History.writes, History.writtenAt, hpassing]
  have haccepted : History.accepted
      (.answered (.perform action) true { world' with running } :: history')
      = history'.accepted ++ [action] := rfl
  have hgiven (id : Nat) : History.given id
      (.answered (.perform action) true { world' with running } :: history')
      = history'.given id := List.append_nil _
  have hsound : Sound initial world'
      (.answered (.perform action) true { world' with running } :: history') := by
    apply h.sound.told hwrites
    intro id
    left
    apply hgiven
  constructor
  · exact hsound.of_world rfl (Nat.le_refl _) h.sound.ids_lt
  · constructor
    · refine ⟨h.ahead.nextId_le, h.ahead.mem_ids, ?_, ?_⟩
      · rw [hwrites]
        apply h.ahead.writes_prefix
      · have hcounted := h.ahead.counted
        rw [hwrites, haccepted, List.length_append, List.length_singleton]
        omega
    · intro heq
      have hgrown := h.grown
      rw [← hwrites, heq] at hgrown
      cases Nat.lt_irrefl _ hgrown
    · intro _ written hwritten id
      rw [hgiven]
      rw [hwrites] at hwritten
      apply h.informed written hwritten

/-- A pass without observers ends when the action is answered. -/
theorem told_none (h : Sound initial world history) (hpassing : history.passing = false)
    (hids : world.ids = []) (state : MachineState S C) (action : Action K) (running : Nat) :
  Told initial action world history { world with state, running } history
  := by
  have hwrites : History.writes
      (.answered (.perform action) true { world with state, running } :: history)
      = history.writes ++ [{ world with state, running }] := by
    simp [History.writes, History.writtenAt, hpassing]
  have haccepted : History.accepted
      (.answered (.perform action) true { world with state, running } :: history)
      = history.accepted ++ [action] := rfl
  constructor
  · refine h.written rfl rfl hwrites ?_
    intro id
    left
    apply List.append_nil
  · constructor
    · refine ⟨Nat.le_refl _, fun _ hid _ => hid, ?_, ?_⟩
      · rw [hwrites]
        apply List.prefix_append
      · rw [hwrites, haccepted, List.length_append, List.length_append]
        simp only [List.length_singleton]
        omega
    · intro heq
      rw [hwrites] at heq
      simp at heq
    · intro _ written hwritten id hid
      rw [hwrites, List.getLast?_concat] at hwritten
      obtain rfl := Option.some.inj hwritten
      have hid : id ∈ world.ids := hid
      rw [hids] at hid
      cases hid

/-- When the state has been written everyone is told, and the action is answered by `true`. -/
theorem ensures_pass (h : Sound initial world history) (hpassing : history.passing = false)
    (hperforming : history.Performing) (state : MachineState S C) (action : Action K) :
  (passContract initial).Ensures (notify world.ids : Engine S C K M ε Unit)
    (fun _ world' history' => ∀ running,
      Told initial action world history { world' with running } history')
    { world with state } history
  := by
  cases hids : world.ids with
  | nil =>
    intro running
    apply told_none h hpassing hids
  | cons id rest =>
    obtain ⟨token, htoken⟩ : ∃ token, World.observer? { world with state } id = some token := by
      apply exists_observer?
      change id ∈ world.ids
      rw [hids]
      apply List.mem_cons_self
    simp only [notify, Contract.ensures_bind, Contract.ensures_world, htoken]
    apply (ensures_observe (telling_first h hpassing hids state) hperforming).mono
    rintro _ world' history' hcontinues ⟨htelling, hpassing'⟩
    have hperforming' : History.Performing history' := by rwa [performing_continued hcontinues]
    apply (ensures_notify htelling hpassing' hperforming').mono
    rintro _ world'' history'' - ⟨htold, hpassing''⟩ running
    apply htold.told hpassing''

/-! ### The bodies -/

/-- A call that is a part of a call is carried out. -/
theorem carriesOut_of_within {call : Call S C K} (hcalls : ∀ id token state,
      call ≠ .observe id token state) (hperforms : ∀ action, call ≠ .perform action)
    {body : Engine S C K M ε call.Answer}
    (hbody : ∀ world (history : History S C K M),
      ((passContract initial).judgement (Within initial world history)).runs body)
    (h : Converging initial world history) :
  (passContract initial).CarriesOut (Converging initial) call body
    (fun _ world' history' =>
      Sound initial world' history' ∧ Since world history world' history'
        ∧ History.passing history' = false)
    world history
  := by
  have hcalled := h.called hcalls
  use hcalled
  apply (hbody _ _ _ _ (within_refl hcalled rfl)).mono
  rintro answer world' history' - ⟨-, hwithin⟩ hcontinues
  have halike : Alike history' (.answered call answer world' :: history') :=
    alike_answered hperforms answer world'
  have hsound := hwithin.converging.sound.congr halike
  have hsince := hwithin.since.congr (alike_called hcalls world).symm halike
  refine ⟨h.since (hcontinues.answered answer world') hsound hsince, hsound, hsince, ?_⟩
  cases call with
  | observe id token state => cases hcalls id token state rfl
  | _ => rfl

/-- An observer that is called is carried out. -/
theorem carriesOut_observe {id : Nat} {token : K} {state : MachineState S C}
    (code : Code S C K M ε Unit)
    (hsound : Sound initial world (.called (.observe id token state) world :: history))
    (hperforming : history.Performing) :
  (passContract initial).CarriesOut (Converging initial) (.observe id token state) (ofCode code)
    (fun _ world' history' =>
      Sound initial world' history'
        ∧ Since world (.called (.observe id token state) world :: history) world' history'
        ∧ History.passing history' = true)
    world history
  := by
  have hcalled := converging_of_performing hsound (performing_called _ world hperforming)
  use hcalled
  apply (runs_ofCode_within code _ _ (within_refl hcalled rfl)).mono
  rintro _ world' history' - ⟨-, hwithin⟩ hcontinues
  have halike : Alike history' (.answered (.observe id token state) () world' :: history') :=
    ⟨List.append_nil _, List.append_nil _, fun _ => List.append_nil _⟩
  have hsound' := hwithin.converging.sound.congr halike
  refine ⟨converging_of_performing hsound' ?_, hsound', ?_, rfl⟩
  · rwa [performing_continued (hcontinues.answered () world')]
  · exact hwithin.since.congr ⟨rfl, rfl, fun _ => rfl⟩ halike

variable [DecidableEq S] [StateValue S] [Context C] {machine : Machine S C K}

/-- A step tells no observer. -/
theorem runs_step_within (state : MachineState S C) (action : Action K) :
  ((passContract initial).judgement (Within initial world history)).runs
    (stepHost.step machine.definition machine.config state action : Engine S C K M ε (Outcome S C))
  := by
  apply StepHost.runs_step
  · intro token event context
    apply runs_ask_within
    rintro id token state ⟨⟩
  · intro token context
    apply runs_ask_within
    rintro id token state ⟨⟩
  · intro report
    apply runs_ask_within
    rintro id token state ⟨⟩

omit [DecidableEq S] [StateValue S] [Context C] in
/-- What holds when an action has been performed, if the observers were told since it was called. -/
theorem Converging.performed (h : Converging initial world history) {action : Action K}
    (answer : Bool)
    (hcontinues : Moment.Continues (.called (.perform action) world :: history) history')
    (hsound : Sound initial world' (.answered (.perform action) answer world' :: history'))
    (hsince : Since world (.called (.perform action) world :: history) world'
      (.answered (.perform action) answer world' :: history')) :
  Converging initial world' (.answered (.perform action) answer world' :: history')
    ∧ Sound initial world' (.answered (.perform action) answer world' :: history')
    ∧ Since world history world' (.answered (.perform action) answer world' :: history')
    ∧ History.passing
      (.answered (.perform action) answer world' :: history' : History S C K M) = false
  := by
  have hcalls : ∀ id token state, (.perform action : Call S C K) ≠ .observe id token state := by
    rintro id token state ⟨⟩
  have hsince := hsince.congr (alike_called hcalls world).symm ⟨rfl, rfl, fun _ => rfl⟩
  exact ⟨h.since (hcontinues.answered answer world') hsound hsince, hsound, hsince, rfl⟩

/-- An action that is performed is carried out. -/
theorem carriesOut_perform (h : Converging initial world history) (action : Action K) :
  (passContract initial).CarriesOut (Converging initial) (.perform action)
    (perform machine action : Engine S C K M ε Bool)
    (fun _ world' history' =>
      Sound initial world' history' ∧ Since world history world' history'
        ∧ History.passing history' = false)
    world history
  := by
  have hcalled : Converging initial world (.called (.perform action) world :: history) := by
    apply h.called
    rintro id token state ⟨⟩
  have hperforming : History.Performing (.called (.perform action) world :: history) :=
    ⟨action, List.mem_cons_self⟩
  use hcalled
  simp only [perform, Contract.ensures_bind, Contract.ensures_world, Contract.ensures_update]
  have hstart : Within initial world (.called (.perform action) world :: history)
      { world with running := world.running + 1 } (.called (.perform action) world :: history) :=
    (within_refl hcalled rfl).of_world rfl (Nat.le_refl _) (fun _ hid _ => hid)
      hcalled.sound.ids_lt
  apply (runs_step_within world.state action _ _ hstart).mono
  rintro outcome world' history' - ⟨-, hwithin⟩
  have hsound := hwithin.converging.sound
  cases outcome.state? with
  | none =>
    simp only [Contract.ensures_bind, Contract.ensures_update, Contract.ensures_pure]
    intro hcontinues
    have hend : Within initial world (.called (.perform action) world :: history)
        { world' with running := world'.running - 1 } history' :=
      hwithin.of_world rfl (Nat.le_refl _) (fun _ hid _ => hid) hsound.ids_lt
    have halike : Alike history' (.answered (.perform action) false
        { world' with running := world'.running - 1 } :: history') :=
      ⟨List.append_nil _, List.append_nil _, fun _ => List.append_nil _⟩
    apply h.performed _ hcontinues
    · apply hend.converging.sound.congr halike
    · exact hend.since.congr ⟨rfl, rfl, fun _ => rfl⟩ halike
  | some state =>
    simp only [Contract.ensures_bind, Contract.ensures_world, Contract.ensures_update]
    have hperforming' : History.Performing history' := by
      rwa [performing_continued hwithin.continues]
    apply (ensures_pass hsound hwithin.passing_eq hperforming' state action).mono
    intro _ world'' history'' hpass htold hcontinues
    obtain ⟨hsound', hsince⟩ := htold (world''.running - 1)
    apply h.performed _ hcontinues hsound'
    apply hwithin.since.trans hsound hsince

/-- Every body keeps the observers converging. -/
theorem fulfils_passContract (machine : Machine S C K) (client : Client S C K M ε) :
  (passContract initial).Fulfils (Converging initial) (body machine client)
  := by
  intro call world history hpre
  cases call with
  | request request =>
    apply carriesOut_of_within (by rintro id token state ⟨⟩) (by rintro action ⟨⟩)
    · intro world history
      apply runs_serveRequest_within
    · apply hpre
  | perform action => apply carriesOut_perform hpre
  | observe id token state => apply carriesOut_observe _ hpre.1 hpre.2
  | guard token event context =>
    apply carriesOut_of_within (by rintro id token state ⟨⟩) (by rintro action ⟨⟩)
    · intro world history
      apply runs_ofCode_within
    · apply hpre
  | reduce token context =>
    apply carriesOut_of_within (by rintro id token state ⟨⟩) (by rintro action ⟨⟩)
    · intro world history
      apply runs_ofCode_within
    · apply hpre
  | report report =>
    apply carriesOut_of_within (by rintro id token state ⟨⟩) (by rintro action ⟨⟩)
    · intro world history
      apply Judgement.runs_pure
    · apply hpre

/-- At every moment of every run, and once it has returned, observers are given states in the
order in which these were written and, when no action is being performed, those that were
subscribed at the last write and still are were given the current state last. -/
theorem observers_converge (machine : Machine S C K) (client : Client S C K M ε)
    (code : Code S C K M ε α) (memory : M) (depth : Nat) :
  (Shared.run machine client depth code (World.initial machine.initialState memory)).Reaches
    (Converging machine.initialState) fun _ world history =>
      Moment.openCalls history = [] ∧ Converging machine.initialState world history
  := by
  have hsound : Sound machine.initialState
      (World.initial machine.initialState memory : World S C K M) [] := by
    constructor
    · rfl
    · intro id
      exact ⟨[], List.Pairwise.nil, rfl⟩
    · rintro id ⟨⟩
    · rintro written ⟨⟩
  have hstart : Converging machine.initialState
      (World.initial machine.initialState memory : World S C K M) [] := by
    use hsound
    intro _
    constructor
    · rfl
    · rintro written ⟨⟩
  have hrun := Contract.reaches_run (fulfils_passContract machine client) (runs_ofCode_within code)
    (within_refl hstart rfl) depth
  use hrun.1
  intro result hresult
  obtain ⟨-, hopen, hwithin⟩ := hrun.2 result hresult
  exact ⟨hopen, hwithin.converging⟩

end GuardedMachine.Shared
