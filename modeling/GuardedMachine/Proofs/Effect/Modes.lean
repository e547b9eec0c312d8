import GuardedMachine.Proofs.Effect.Bodies
import GuardedMachine.Proofs.Effect.Running
import GuardedMachine.Proofs.Program.Nesting

/-!
# Entries that are not synchronous

An owner that runs entry effects itself may enter some states synchronously and others not.  The
lock of an entry that is not synchronous is never closed, whatever happens in between
(`never_locked`): cleanups are run that an entry returned, since nothing else makes some
(`Genuine`).

`Moded` is the invariant: the locks made so far have the modes of the entries that made them, and a
lock that is closed is that of a synchronous entry.
-/

namespace GuardedMachine.Runner

variable {S C K M ε α : Type}

/-! ### Handles of entries that are not synchronous -/

/-- An effect or a cleanup of an entry that is not synchronous was given a handle. -/
inductive Loose (handle : Handle) : History S C K M → Prop where
  | effect {token : K} {params : EffectParams C} {world begun : World M}
    {earlier : History S C K M} {state : MachineState S C} {outer : List (Call S C K × World M)} :
    params.handle = handle →
      Moment.opened earlier = (.request (.enter state false), begun) :: outer →
        Loose handle (.called (.effect token params) world :: earlier)
  | cleanup {token : K} {params : EffectParams C} {world begun : World M}
    {earlier : History S C K M} {left : EffectCleanup K} {event : Event} {context : C}
    {outer : List (Call S C K × World M)} :
    params.handle = handle → left.sync = false →
      Moment.opened earlier = (.request (.leave left event context), begun) :: outer →
        Loose handle (.called (.cleanup token params) world :: earlier)
  | later {earlier : History S C K M} (moment : Moment (Call S C K) Call.Answer (World M)) :
    Loose handle earlier → Loose handle (moment :: earlier)

/-- Cleanups are run only when an entry has returned them. -/
def Genuine (history : History S C K M) : Prop :=
  ∀ left event context world earlier,
    .called (.request (.leave left event context)) world :: earlier <:+ history →
      ∃ state sync entered, .answered (.request (.enter state sync)) (some left) entered ∈ earlier

/-- The locks of the entries that are not synchronous are open. -/
def StaysOpen (world : World M) (history : History S C K M) : Prop :=
  Genuine history → ∀ handle, Loose handle history → world.locks.isLocked handle.lock = false

variable {world world' world'' : World M} {history history' history'' : History S C K M}

/-- What is genuine was genuine before. -/
theorem Genuine.of_suffix (h : Genuine history') (hsuffix : history <:+ history') :
  Genuine history
  := by
  intro left event context world earlier hcalled
  apply h left event context world earlier (hcalled.trans hsuffix)

/-! ### Modes of locks -/

/-- Whether a call enters a state. -/
def Call.enters : Call S C K → Bool
  | .request (.enter _ _) => true
  | _ => false

/-- Entering a state makes a lock if its value has effects. -/
def makesLock [DecidableEq S] (definition : Definition S C) (state : MachineState S C) : Bool :=
  match definition.state? state.value with
  | none => false
  | some entered => !entered.effects.isEmpty

/-- The mode of the lock that is made from a moment on, if one is made. -/
def modeAt [DecidableEq S] (definition : Definition S C) :
    Moment (Call S C K) Call.Answer (World M) → List Bool
  | .called (.request (.enter state sync)) _ => if makesLock definition state then [sync] else []
  | _ => []

/-- Whether the entries that made the locks are synchronous. -/
def modes [DecidableEq S] (definition : Definition S C) (history : History S C K M) : List Bool :=
  Moment.collect (modeAt definition) history

variable [DecidableEq S] {definition : Definition S C} {lock : Nat} {sync : Bool}

/-- The mode of a lock does not change. -/
theorem modes_of_suffix (hsuffix : history <:+ history')
    (h : (modes definition history)[lock]? = some sync) :
  (modes definition history')[lock]? = some sync
  := by
  induction history' with
  | nil =>
    obtain rfl := List.suffix_nil.mp hsuffix
    apply h
  | cons moment earlier ih =>
    rcases List.suffix_cons_iff.mp hsuffix with rfl | hearlier
    · apply h
    · have hbefore := ih hearlier
      obtain ⟨hlt, -⟩ := List.getElem?_eq_some_iff.mp hbefore
      exact (List.getElem?_append_left hlt).trans hbefore

/-! ### The invariant -/

/-- The closed locks are those of synchronous entries, and the handles that were given have the
locks of their entries. -/
structure Moded (definition : Definition S C) (world : World M) (history : History S C K M) :
    Prop where
  length_eq : (modes definition history).length = world.locks.next
  closed : ∀ lock, world.locks.isLocked lock = true →
    (modes definition history)[lock]? = some true
  returned : ∀ state sync left entered,
    .answered (.request (.enter state sync)) (some left) entered ∈ history →
      (modes definition history)[left.handle.lock]? = some left.sync
  loose : ∀ handle, Loose handle history →
    (modes definition history)[handle.lock]? = some false

/-- The lock of an entry that is not synchronous is open. -/
theorem Moded.isLocked_eq_false (h : Moded definition world history)
    (hmode : (modes definition history)[lock]? = some false) :
  world.locks.isLocked lock = false
  := by
  apply eq_false_of_ne_true
  intro hlocked
  cases hmode.symm.trans (h.closed lock hlocked)

/-- Only the locks of a world matter. -/
theorem Moded.of_world (h : Moded definition world history)
    (hlocks : world'.locks = world.locks) :
  Moded definition world' history
  where
  length_eq := by
    rw [hlocks]
    apply h.length_eq
  closed := by
    rw [hlocks]
    apply h.closed
  returned := h.returned
  loose := h.loose

/-- Opening a lock, or closing that of a synchronous entry. -/
theorem Moded.setLocked (h : Moded definition world history)
    (hmode : (modes definition history)[lock]? = some sync) {closed : Bool}
    (hclosed : closed = true → sync = true) :
  Moded definition { world with locks := world.locks.setLocked lock closed } history
  where
  length_eq := by
    rw [Locks.next_setLocked]
    apply h.length_eq
  closed other hother := by
    by_cases hown : lock = other
    · obtain rfl := hown
      obtain ⟨hlt, -⟩ := List.getElem?_eq_some_iff.mp hmode
      rw [h.length_eq] at hlt
      rw [Locks.isLocked_setLocked_self hlt] at hother
      rw [hmode, hclosed hother]
    · rw [Locks.isLocked_setLocked_of_ne hown] at hother
      apply h.closed other hother
  returned := h.returned
  loose := h.loose

/-- A moment at which no lock is made. -/
theorem Moded.moment (h : Moded definition world history)
    (moment : Moment (Call S C K) Call.Answer (World M)) (hmode : modeAt definition moment = [])
    (hreturned : ∀ state sync left entered,
      .answered (.request (.enter state sync)) (some left) entered = moment →
        (modes definition history)[left.handle.lock]? = some left.sync)
    (hloose : ∀ handle, Loose handle (moment :: history) →
      (modes definition history)[handle.lock]? = some false) :
  Moded definition world (moment :: history)
  := by
  have hsame : modes definition (moment :: history) = modes definition history := by
    rw [modes, Moment.collect, hmode, List.append_nil]
    rfl
  constructor
  · rw [hsame]
    apply h.length_eq
  · rw [hsame]
    apply h.closed
  · intro state sync left entered hmem
    rw [hsame]
    rcases List.mem_cons.mp hmem with heq | hbefore
    · apply hreturned state sync left entered heq
    · apply h.returned state sync left entered hbefore
  · rw [hsame]
    apply hloose

/-- Making the lock of an entry. -/
theorem Moded.made (h : Moded definition world history) {state : MachineState S C}
    (hmakes : makesLock definition state = true) (sync : Bool) :
  Moded definition { world with locks := world.locks.add }
      (.called (.request (.enter state sync)) world :: history)
    ∧ (modes definition (.called (.request (.enter state sync)) world :: history))[
        world.locks.next]? = some sync
  := by
  have hmodes : modes definition (.called (.request (.enter state sync)) world :: history)
      = modes definition history ++ [sync] := by
    simp only [modes, Moment.collect, modeAt, hmakes, if_true]
  have hkept {lock : Nat} {mode : Bool} (hmode : (modes definition history)[lock]? = some mode) :
      (modes definition (.called (.request (.enter state sync)) world :: history))[lock]?
        = some mode :=
    modes_of_suffix (List.suffix_cons _ _) hmode
  constructor
  · constructor
    · rw [hmodes, List.length_append, h.length_eq, Locks.next_add]
      rfl
    · intro lock hlocked
      apply hkept
      apply h.closed
      rw [← hlocked, Locks.isLocked_add]
    · intro state' sync' left entered hmem
      rcases List.mem_cons.mp hmem with heq | hbefore
      · cases heq
      · apply hkept (h.returned state' sync' left entered hbefore)
    · rintro handle (_ | _ | ⟨_, hbefore⟩)
      apply hkept (h.loose handle hbefore)
  · rw [hmodes, ← h.length_eq, List.getElem?_concat_length]

/-! ### The contract -/

/-- When effects and cleanups may be run: by the request that enters or leaves their state, and with
a handle of its mode. -/
def Fitting (definition : Definition S C) : Call S C K → History S C K M → Prop
  | .effect _ params, history => ∃ state sync begun outer,
    Moment.opened history = (.request (.enter state sync), begun) :: outer
      ∧ (modes definition history)[params.handle.lock]? = some sync
  | .cleanup _ params, history => ∃ left event context begun outer,
    Moment.opened history = (.request (.leave left event context), begun) :: outer
      ∧ (modes definition history)[params.handle.lock]? = some left.sync
  | _, _ => True

/-- While cleanups are run that an entry returned, locks have their modes. -/
def modeContract (definition : Definition S C) :
    Contract (Call S C K) Call.Answer (World M) where
  pre call world history := Genuine history →
    Moded definition world history ∧ Fitting definition call history
  post _ _ history _ world' history' :=
    Moment.opened history' = Moment.opened history
      ∧ (Genuine history' → Moded definition world' history')

/-- What a part of a call keeps, from its beginning. -/
structure Moding (definition : Definition S C) (history : History S C K M) (world' : World M)
    (history' : History S C K M) : Prop where
  opened_eq : Moment.opened history' = Moment.opened history
  suffix : history <:+ history'
  moded : Genuine history' → Moded definition world' history'

/-- The handles that were given when a call is made have the locks of their entries. -/
theorem Moded.loose_called {call : Call S C K} (h : Moded definition world history)
    (hfitting : Fitting definition call history) {handle : Handle}
    (hloose : Loose handle (.called call world' :: history)) :
  (modes definition history)[handle.lock]? = some false
  := by
  rcases hloose with ⟨rfl, hopened⟩ | ⟨rfl, hsync, hopened⟩ | ⟨_, hbefore⟩
  · obtain ⟨state, sync, begun, outer, hopened', hmode⟩ := hfitting
    cases hopened.symm.trans hopened'
    apply hmode
  · obtain ⟨left, event, context, begun, outer, hopened', hmode⟩ := hfitting
    cases hopened.symm.trans hopened'
    rw [hmode, hsync]
  · apply h.loose handle hbefore

/-- A call that makes no lock is made. -/
theorem Moded.called {call : Call S C K} (h : Moded definition world history)
    (hmode : modeAt definition (.called call world' : Moment _ Call.Answer (World M)) = [])
    (hfitting : Fitting definition call history) :
  Moded definition world (.called call world' :: history)
  := by
  apply h.moment _ hmode
  · rintro state sync left entered ⟨⟩
  · intro handle
    apply h.loose_called hfitting

/-- A call is answered. -/
theorem Moded.answered {call : Call S C K} (h : Moded definition world history)
    (answer : call.Answer) (answered : World M)
    (hreturned : ∀ state sync left entered,
      (.answered (.request (.enter state sync)) (some left) entered
          : Moment (Call S C K) Call.Answer (World M)) = .answered call answer answered →
        (modes definition history)[left.handle.lock]? = some left.sync) :
  Moded definition world (.answered call answer answered :: history)
  := by
  apply h.moment _ rfl hreturned
  rintro handle (_ | _ | ⟨_, hbefore⟩)
  apply h.loose handle hbefore

/-- The locks of the entries that are not synchronous are open when a call is made. -/
theorem stays_open_called {call : Call S C K}
    (hpre : (modeContract definition).pre call world history) :
  StaysOpen world (.called call world :: history)
  := by
  intro hgenuine handle hloose
  obtain ⟨hmoded, hfitting⟩ := hpre (hgenuine.of_suffix (List.suffix_cons _ _))
  apply hmoded.isLocked_eq_false (hmoded.loose_called hfitting hloose)

/-- They are open whenever locks have their modes. -/
theorem stays_open_of_moded (h : Genuine history → Moded definition world history) :
  StaysOpen world history
  := by
  intro hgenuine handle hloose
  apply (h hgenuine).isLocked_eq_false ((h hgenuine).loose handle hloose)

/-! ### Parts of a call -/

/-- What the locks do not depend on may change. -/
theorem Moding.of_world (h : Moding definition history world' history')
    (hlocks : world''.locks = world'.locks) :
  Moding definition history world'' history'
  where
  opened_eq := h.opened_eq
  suffix := h.suffix
  moded hgenuine := (h.moded hgenuine).of_world hlocks

/-- A call that may be made is a part of a call. -/
theorem runs_ask_moding {call : Call S C K}
    (hfitting : ∀ world' history', Moding definition history world' history' →
      Genuine history' → Fitting definition call history') :
  ((modeContract definition).judgement (Moding definition history)).runs
    (ask call : Engine S C K M ε call.Answer)
  := by
  intro world' history' hmoding
  use fun hgenuine => ⟨hmoding.moded hgenuine, hfitting _ _ hmoding hgenuine⟩
  rintro answer world'' history'' hcontinues ⟨hopened, hmoded⟩
  exact ⟨trivial, hopened.trans hmoding.opened_eq, hmoding.suffix.trans hcontinues.suffix, hmoded⟩

/-- The programs of the owner and of the callbacks are parts of a call. -/
theorem runs_ofCode_moding (code : Code S C K M ε α) :
  ((modeContract definition).judgement (Moding definition history)).runs (ofCode code)
  := by
  apply runs_ofCode
  · intro world' history' memory hmoding
    exact hmoding.of_world rfl
  · intro request
    exact runs_ask_moding fun _ _ _ _ => trivial

/-! ### Entering and leaving -/

/-- An entry that makes no lock returns no cleanups, and no lock has another mode. -/
theorem Moded.entered_none {state : MachineState S C}
    (hmoded : Genuine history → Moded definition world history)
    (hmakes : makesLock definition state = false)
    (hgenuine : Genuine (.called (.request (.enter state sync)) world :: history))
    (answered : World M) :
  Moded definition world
    (.answered (.request (.enter state sync)) none answered
      :: .called (.request (.enter state sync)) world :: history)
  := by
  have hcalled : Moded definition world
      (.called (.request (.enter state sync)) world :: history) := by
    apply (hmoded (hgenuine.of_suffix (List.suffix_cons _ _))).called
    · simp only [modeAt, hmakes, Bool.false_eq_true, if_false]
    · trivial
  apply hcalled.answered
  rintro _ _ left entered ⟨⟩

/-- The effects of an entry may be run with the lock that was made for it. -/
theorem runs_runEffects_moding [StateValue S] [Context C] {config : Config K}
    {state : MachineState S C} {handle : Handle}
    (hmode : ∀ world' history',
      Moding definition (.called (.request (.enter state sync)) world :: history) world' history' →
        Genuine history' → (modes definition history')[handle.lock]? = some sync)
    (names : List String) :
  ((modeContract definition).judgement
    (Moding definition (.called (.request (.enter state sync)) world :: history))).runs
      (host.runEffects config state handle names : Engine S C K M ε (List K))
  := by
  apply EffectHost.runs_runEffects_with
  · intro token params hhandle
    apply runs_ask_moding
    intro world' history' hmoding hgenuine
    use state, sync, world, Moment.opened history, hmoding.opened_eq
    rw [hhandle]
    apply hmode _ _ hmoding hgenuine
  · intro _ _ _ _
    exact runs_ask_moding fun _ _ _ _ => trivial

/-- The lock of an entry is made, its effects are run with it, and it is closed if the entry is
synchronous. -/
theorem ensures_enter_moding [StateValue S] [Context C] {config : Config K}
    {state : MachineState S C} (hmoded : Genuine history → Moded definition world history) :
  (modeContract definition).Ensures
    (host.enter definition config state sync : Engine S C K M ε (Option (EffectCleanup K)))
    (fun exit world' history' =>
      Moment.opened history' = (.request (.enter state sync), world) :: Moment.opened history
        ∧ (Genuine history' → ∀ answered, Moded definition world'
          (.answered (.request (.enter state sync)) exit answered :: history')))
    world (.called (.request (.enter state sync)) world :: history)
  := by
  rw [EffectHost.enter]
  split
  · next hstate =>
    refine ⟨rfl, Moded.entered_none hmoded ?_⟩
    simp only [makesLock, hstate]
  · next hstate =>
    refine ⟨rfl, Moded.entered_none hmoded ?_⟩
    simp only [makesLock, hstate, List.isEmpty_nil, Bool.not_true]
  · next names hnames hstate =>
    have hmakes : makesLock definition state = true := by
      simp only [makesLock, hstate]
      cases names with
      | nil => cases hnames rfl
      | cons name rest => rfl
    have hmade (hgenuine : Genuine (.called (.request (.enter state sync)) world :: history)) :=
      (hmoded (hgenuine.of_suffix (List.suffix_cons _ _))).made hmakes sync
    simp only [host, Contract.ensures_bind, Contract.ensures_world, Contract.ensures_update,
      Contract.ensures_pure]
    have hstart : Moding definition (.called (.request (.enter state sync)) world :: history)
        { world with locks := world.locks.add }
        (.called (.request (.enter state sync)) world :: history) :=
      ⟨rfl, List.suffix_refl _, fun hgenuine => (hmade hgenuine).1⟩
    have hmode (world' : World M) (history' : History S C K M)
        (hmoding : Moding definition (.called (.request (.enter state sync)) world :: history)
          world' history') (hgenuine : Genuine history') :
        (modes definition history')[world.locks.next]? = some sync :=
      modes_of_suffix hmoding.suffix (hmade (hgenuine.of_suffix hmoding.suffix)).2
    apply (runs_runEffects_moding hmode names _ _ hstart).mono
    rintro exits world' history' - ⟨-, hmoding⟩
    use hmoding.opened_eq
    intro hgenuine answered
    have hlock := hmode _ _ hmoding hgenuine
    apply ((hmoding.moded hgenuine).setLocked hlock id).answered
    rintro _ _ left entered ⟨⟩
    apply hlock

/-- The lock of cleanups that an entry returned is opened, they are run with it, and it is closed
again if the entry was synchronous. -/
theorem ensures_leave_moding {left : EffectCleanup K} {event : Event} {context : C}
    (hmoded : Genuine history → Moded definition world history) :
  (modeContract definition).Ensures (host.leave left event context : Engine S C K M ε Unit)
    (fun _ world' history' => Moding definition
      (.called (.request (.leave left event context)) world :: history) world' history')
    world (.called (.request (.leave left event context)) world :: history)
  := by
  have hcalled (hgenuine : Genuine
      (.called (.request (.leave left event context)) world :: history)) :
      Moded definition world (.called (.request (.leave left event context)) world :: history) :=
    (hmoded (hgenuine.of_suffix (List.suffix_cons _ _))).called rfl trivial
  -- The cleanups are those of an entry, whose mode they have.
  have hmode {history' : History S C K M}
      (hsuffix : .called (.request (.leave left event context)) world :: history <:+ history')
      (hgenuine : Genuine history') :
      (modes definition history')[left.handle.lock]? = some left.sync := by
    obtain ⟨state, sync, entered, hentered⟩ := hgenuine left event context world history hsuffix
    apply modes_of_suffix hsuffix
    apply (hcalled (hgenuine.of_suffix hsuffix)).returned state sync left entered
    apply List.mem_cons_of_mem _ hentered
  have hset (closed : Bool) (hclosed : closed = true → left.sync = true) :
      ((modeContract definition).judgement (Moding definition
        (.called (.request (.leave left event context)) world :: history))).runs
          (host.setLocked left.handle.lock closed : Engine S C K M ε Unit) := by
    apply Contract.runs_update
    intro world' history' hmoding
    use hmoding.opened_eq, hmoding.suffix
    intro hgenuine
    apply (hmoding.moded hgenuine).setLocked (hmode hmoding.suffix hgenuine) hclosed
  have hleave : ((modeContract definition).judgement (Moding definition
      (.called (.request (.leave left event context)) world :: history))).runs
        (host.leave left event context : Engine S C K M ε Unit) := by
    apply Judgement.runs_bind (hset false nofun)
    intro _
    apply Judgement.runs_bind
    · apply EffectHost.runs_runExits
      intro token
      apply runs_ask_moding
      intro world' history' hmoding hgenuine
      use left, event, context, world, Moment.opened history, hmoding.opened_eq
      apply hmode hmoding.suffix hgenuine
    · intro _
      apply hset left.sync id
  apply (hleave _ _ ⟨rfl, List.suffix_refl _, hcalled⟩).mono
  rintro _ world' history' - ⟨-, hmoding⟩
  apply hmoding

/-! ### Bodies -/

/-- A call that enters no state is carried out by a part of a call. -/
theorem carriesOut_of_moding {call : Call S C K}
    (hcall : call.enters = false)
    {body : Engine S C K M ε call.Answer}
    (hbody : (modeContract definition).Ensures body
      (fun _ world' history' =>
        Moding definition (.called call world :: history) world' history')
      world (.called call world :: history))
    (hpre : (modeContract definition).pre call world history) :
  (modeContract definition).CarriesOut StaysOpen call body
    ((modeContract definition).post call world history) world history
  := by
  use stays_open_called hpre
  apply hbody.mono
  rintro answer world' history' - hmoding -
  have hmoded (hgenuine : Genuine (.answered call answer world' :: history')) :
      Moded definition world' (.answered call answer world' :: history') := by
    apply (hmoding.moded (hgenuine.of_suffix (List.suffix_cons _ _))).answered
    intro state sync left entered heq
    injection heq with heq
    obtain rfl := heq
    cases hcall
  use stays_open_of_moded hmoded
  constructor
  · rw [Moment.opened, hmoding.opened_eq]
    rfl
  · apply hmoded

/-- The beginning of a call that enters no state. -/
theorem moding_called {call : Call S C K}
    (hcall : call.enters = false)
    (hpre : (modeContract definition).pre call world history) :
  Moding definition (.called call world :: history) world (.called call world :: history)
  where
  opened_eq := rfl
  suffix := List.suffix_refl _
  moded hgenuine := by
    obtain ⟨hmoded, hfitting⟩ := hpre (hgenuine.of_suffix (List.suffix_cons _ _))
    apply hmoded.called _ hfitting
    cases call with
    | request asked =>
      cases asked with
      | enter state sync => cases hcall
      | _ => rfl
    | _ => rfl

/-- A call that enters no state is carried out when its body is a part of a call. -/
theorem carriesOut_of_runs {call : Call S C K}
    (hcall : call.enters = false)
    {body : Engine S C K M ε call.Answer}
    (hbody : ((modeContract definition).judgement
      (Moding definition (.called call world :: history))).runs body)
    (hpre : (modeContract definition).pre call world history) :
  (modeContract definition).CarriesOut StaysOpen call body
    ((modeContract definition).post call world history) world history
  := by
  apply carriesOut_of_moding hcall _ hpre
  apply (hbody _ _ (moding_called hcall hpre)).mono
  rintro answer world' history' - ⟨-, hmoding⟩
  apply hmoding

variable [StateValue S] [Context C]

/-- Effects are run with a new lock, of the mode of their entry. -/
theorem carriesOut_enter_moding {config : Config K} {state : MachineState S C} {sync : Bool}
    (hpre : (modeContract definition).pre (.request (.enter state sync)) world history) :
  (modeContract definition).CarriesOut StaysOpen (.request (.enter state sync))
    (host.enter definition config state sync : Engine S C K M ε (Option (EffectCleanup K)))
    ((modeContract definition).post (.request (.enter state sync)) world history) world history
  := by
  have hmoded (hgenuine : Genuine history) := (hpre hgenuine).1
  use stays_open_called hpre
  apply (ensures_enter_moding hmoded).mono
  rintro exit world' history' - ⟨hopened, hentered⟩ -
  have hmoded' (hgenuine : Genuine
      (.answered (.request (.enter state sync)) exit world' :: history')) :=
    hentered (hgenuine.of_suffix (List.suffix_cons _ _)) world'
  use stays_open_of_moded hmoded'
  constructor
  · rw [Moment.opened, hopened]
    rfl
  · apply hmoded'

/-- The body of a call that neither enters nor leaves a state is a part of it. -/
theorem runs_body_moding (config : Config K) (client : Client S C K M ε) {call : Call S C K}
    (henter : ∀ state sync, call ≠ .request (.enter state sync))
    (hleave : ∀ left event context, call ≠ .request (.leave left event context)) :
  ((modeContract definition).judgement (Moding definition history)).runs
    (body definition config client call)
  := by
  have hlocked (lock : Nat) : ((modeContract definition).judgement
      (Moding definition history)).runs (host.isLocked lock : Engine S C K M ε Bool) := by
    apply Judgement.runs_bind Contract.runs_world
    intro _
    apply Judgement.runs_pure
  have hask {call : Call S C K} (hfitting : ∀ history' : History S C K M,
      Fitting definition call history') : ((modeContract definition).judgement
        (Moding definition history)).runs (ask call : Engine S C K M ε call.Answer) :=
    runs_ask_moding fun _ history' _ _ => hfitting history'
  cases call with
  | request asked =>
    cases asked with
    | enter state sync => cases henter state sync rfl
    | leave left event context => cases hleave left event context rfl
    | setMounted mounted =>
      apply Contract.runs_update
      intro world' history' hmoding
      exact hmoding.of_world rfl
    | isMounted =>
      apply Judgement.runs_bind Contract.runs_world
      intro _
      apply Judgement.runs_pure
    | send handle event =>
      apply EffectHost.runs_send (hlocked _)
      · intro _ _
        exact hask fun _ => trivial
      · exact hask fun _ => trivial
    | setContext handle reducer =>
      apply EffectHost.runs_setContext (hlocked _)
      · intro _ _
        exact hask fun _ => trivial
      · exact hask fun _ => trivial
    | isLocked handle => apply hlocked
  | effect token params => apply runs_ofCode_moding
  | cleanup token params => apply runs_ofCode_moding
  | dispatch action => apply runs_ofCode_moding
  | report report => apply Judgement.runs_pure

/-- Every body keeps the modes of locks. -/
theorem fulfils_modeContract (config : Config K) (client : Client S C K M ε) :
  (modeContract definition).Fulfils StaysOpen (body definition config client)
  := by
  intro call world history hpre
  have haside (hcall : call.enters = false)
      (hleave : ∀ left event context, call ≠ .request (.leave left event context)) :
      (modeContract definition).CarriesOut StaysOpen call (body definition config client call)
        ((modeContract definition).post call world history) world history := by
    apply carriesOut_of_runs hcall _ hpre
    apply runs_body_moding config client _ hleave
    rintro state sync rfl
    cases hcall
  cases call with
  | request asked =>
    cases asked with
    | enter state sync => apply carriesOut_enter_moding hpre
    | leave left event context =>
      apply carriesOut_of_moding rfl _ hpre
      apply ensures_leave_moding fun hgenuine => (hpre hgenuine).1
    | _ => exact haside rfl (by rintro _ _ _ ⟨⟩)
  | _ => exact haside rfl (by rintro _ _ _ ⟨⟩)

/-- In every run the locks of the entries that are not synchronous are open. -/
theorem reaches_stays_open (definition : Definition S C) (config : Config K)
    (client : Client S C K M ε) (code : Code S C K M ε α) (memory : M) (depth : Nat) :
  (Runner.run definition config client depth code (World.initial memory)).Reaches StaysOpen
    fun _ => StaysOpen
  := by
  have hstart : Moding definition [] (World.initial memory : World M) ([] : History S C K M) := by
    use rfl, List.suffix_refl _
    intro _
    constructor
    · rfl
    · rintro lock ⟨⟩
    · rintro state sync left entered ⟨⟩
    · rintro handle ⟨⟩
  have hrun := Contract.reaches_run (fulfils_modeContract config client)
    (runs_ofCode_moding code) hstart depth
  use hrun.1
  intro result hresult
  obtain ⟨-, -, hmoding⟩ := hrun.2 result hresult
  apply stays_open_of_moded hmoding.moded

end GuardedMachine.Runner
