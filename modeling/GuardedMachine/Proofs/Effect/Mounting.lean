import GuardedMachine.Definition.Builder
import GuardedMachine.Proofs.Effect.Bodies
import GuardedMachine.Proofs.Effect.Running
import GuardedMachine.Proofs.Program.Nesting
import GuardedMachine.Proofs.Synced.Handles

/-!
# Owners that are not mounted

A handle looks at its lock and not at whether the owner is mounted: what is asked through it
reaches the owner once if the lock is open, and not at all otherwise, and nothing else reaches
the owner (`handles_pass_when_open`).  So an owner that is no longer mounted still receives what is
sent through handles whose locks are open (`received_unmounted`).  A synchronous machine looks at it
before it queues an action, and drops what arrives when it is not mounted.
-/

namespace GuardedMachine

namespace Runner

variable {S C K M ε α : Type}

/-- What a request through a handle does, given the world in which it is made: the world and its own
moments when it is answered. -/
inductive Passage (handle : Handle) (action : Action K) (called : World M) :
    World M → History S C K M → Prop where
  /-- It is dropped with a report, which changes nothing. -/
  | dropped (report : Report) :
    called.locks.isLocked handle.lock = true →
      Passage handle action called called
        [.called (.report report) called, .answered (.report report) () called]
  /-- The owner receives its action. -/
  | received (world : World M) :
    called.locks.isLocked handle.lock = false →
      Passage handle action called world
        [.called (.dispatch action) called, .answered (.dispatch action) () world]

/-- The owner receives an action: it is that of a request which is just made through a handle whose
lock is open. -/
def Asked (action : Action K) (world : World M) (history : History S C K M) : Prop :=
  ∃ asked handle before, history = .called (.request asked) world :: before
    ∧ asked.through? = some (handle, action) ∧ world.locks.isLocked handle.lock = false

/-- The owner receives what is asked through open handles and nothing else, whether it is mounted
or not. -/
structure PassedOn (world : World M) (history : History S C K M) : Prop where
  passage : ∀ asked handle action answer later, asked.through? = some (handle, action) →
    history = .answered (.request asked) answer world :: later →
      ∃ called before own, Passage handle action called world own
        ∧ Moment.Nested (.called (.request asked) called :: before) own later
  asked : ∀ action earlier, history = .called (.dispatch action) world :: earlier →
    Asked action world earlier

variable {world world' : World M} {history history' : History S C K M}
  {asked : Request S C K} {handle : Handle} {action : Action K}

/-! ### The contract -/

/-- The owner receives what is asked for, and reports change nothing. -/
def mountContract : Contract (Call S C K) Call.Answer (World M) where
  pre
    | .dispatch action, world, history => Asked action world history
    | _, _, _ => True
  post
    | .report report, world, history, _, world', history' =>
      world' = world
        ∧ history' = .answered (.report report) () world :: .called (.report report) world :: history
    | _, _, _, _, _, _ => True

/-- A request through a handle reads the lock, and writes a report or passes the action on. -/
theorem ensures_passage (hthrough : asked.through? = some (handle, action)) (report : Report) :
  mountContract.nested.Ensures
    (do
      if ← host.isLocked handle.lock then ask (.report report) else ask (.dispatch action) :
        Engine S C K M ε Unit)
    (fun _ world' history' => ∃ own, Passage handle action world world' own
      ∧ Moment.Nested (.called (.request asked) world :: history) own history')
    world (.called (.request asked) world :: history)
  := by
  simp only [host, Contract.ensures_bind, Contract.ensures_world, Contract.ensures_pure]
  cases hlocked : world.locks.isLocked handle.lock with
  | true =>
    use trivial
    rintro _ world' history' - ⟨⟨rfl, -⟩, moments, later, hnested, rfl⟩
    exact ⟨_, .dropped report hlocked, .call (.refl _) hnested⟩
  | false =>
    use ⟨asked, handle, history, rfl, hthrough, hlocked⟩
    rintro _ world' history' - ⟨-, moments, later, hnested, rfl⟩
    exact ⟨_, .received world' hlocked, .call (.refl _) hnested⟩

/-! ### Bodies -/

/-- At the moment of a call only an action that the owner receives has to be asked for. -/
theorem passed_on_called {call : Call S C K} (hpre : mountContract.pre call world history) :
  PassedOn world (.called call world :: history)
  where
  passage := by
    rintro asked handle action answer later - ⟨⟩
  asked := by
    rintro action earlier ⟨⟩
    apply hpre

/-- A request through a handle is carried out by its passage. -/
theorem carriesOut_passage (hthrough : asked.through? = some (handle, action))
    {body : Engine S C K M ε asked.Answer}
    (hbody : mountContract.nested.Ensures body
      (fun _ world' history' => ∃ own, Passage handle action world world' own
        ∧ Moment.Nested (.called (.request asked) world :: history) own history')
      world (.called (.request asked) world :: history)) :
  mountContract.nested.CarriesOut PassedOn (.request asked) body (fun _ _ _ => True) world history
  := by
  use passed_on_called trivial
  apply hbody.mono
  rintro answer world' history' - ⟨own, hpassage, hnested⟩ -
  refine ⟨?_, trivial⟩
  constructor
  · intro asked' handle' action' answer' later hthrough' heq
    cases heq
    cases hthrough.symm.trans hthrough'
    exact ⟨world, history, own, hpassage, hnested⟩
  · rintro action earlier ⟨⟩

/-- Of other calls nothing is said but that they may be made. -/
theorem carriesOut_apart {call : Call S C K}
    (hcall : ∀ asked handle action, call = .request asked →
      asked.through? ≠ some (handle, action))
    (hpre : mountContract.pre call world history) {body : Engine S C K M ε call.Answer}
    (hbody : (mountContract.nested.judgement fun _ _ => True).runs body) :
  mountContract.nested.CarriesOut PassedOn call body (fun _ _ _ => True) world history
  := by
  use passed_on_called hpre
  apply (hbody world _ trivial).mono
  intro answer world' history' _ _ _
  refine ⟨?_, trivial⟩
  constructor
  · intro asked handle action answer' later hthrough heq
    cases (List.cons.inj heq).1
    cases hcall asked handle action rfl hthrough
  · rintro action earlier ⟨⟩

/-- A report changes nothing. -/
theorem carriesOut_report (report : Report) :
  mountContract.nested.CarriesOut PassedOn (.report report) (pure () : Engine S C K M ε Unit)
    (mountContract.post (.report report) world history) world history
  := by
  use passed_on_called trivial
  intro _
  refine ⟨?_, rfl, rfl⟩
  constructor
  · rintro asked handle action answer later - ⟨⟩
  · rintro action earlier ⟨⟩

/-- Calls that may be made at any time keep to the contract. -/
theorem runs_ask_apart {call : Call S C K}
    (hpre : ∀ (world : World M) history, mountContract.pre call world history) :
  (mountContract.nested.judgement fun _ _ => True).runs
    (ask call : Engine S C K M ε call.Answer)
  := by
  intro world history _
  use hpre world history
  intro _ _ _ _ _
  exact ⟨trivial, trivial⟩

/-- The programs of the owner and of the callbacks make requests only. -/
theorem runs_ofCode_apart (code : Code S C K M ε α) :
  (mountContract.nested.judgement fun _ _ => True).runs (ofCode code)
  := by
  apply runs_ofCode
  · intro _ _ _ _
    trivial
  · intro request
    exact runs_ask_apart fun _ _ => trivial

variable [DecidableEq S] [StateValue S] [Context C]

/-- The body of a call other than a request through a handle keeps to the contract. -/
theorem runs_body_apart (definition : Definition S C) (config : Config K)
    (client : Client S C K M ε) {call : Call S C K}
    (hcall : ∀ asked handle action, call = .request asked →
      asked.through? ≠ some (handle, action)) :
  (mountContract.nested.judgement fun _ _ => True).runs (body definition config client call)
  := by
  have hupdate (change : World M → World M) : (mountContract.nested.judgement
      fun _ (_ : History S C K M) => True).runs (Program.update change : Engine S C K M ε Unit) := by
    apply Contract.runs_update
    intro _ _ _
    trivial
  cases call with
  | request asked =>
    cases asked with
    | send handle event => cases hcall _ handle (.send event) rfl rfl
    | setContext handle reducer => cases hcall _ handle (.setContext reducer) rfl rfl
    | enter state sync =>
      apply EffectHost.runs_enter
      · apply Judgement.runs_bind Contract.runs_world
        intro _
        apply Judgement.runs_bind (hupdate _)
        intro _
        apply Judgement.runs_pure
      · intro _ _
        apply hupdate
      · intro token params
        exact runs_ask_apart fun _ _ => trivial
      · intro _ _ _ _ _ _
        exact runs_ask_apart fun _ _ => trivial
    | leave left event context =>
      apply EffectHost.runs_leave
      · intro _
        apply hupdate
      · intro token params
        exact runs_ask_apart fun _ _ => trivial
    | setMounted mounted => apply hupdate
    | isMounted | isLocked =>
      apply Judgement.runs_bind Contract.runs_world
      intro _
      apply Judgement.runs_pure
  | effect token params => apply runs_ofCode_apart
  | cleanup token params => apply runs_ofCode_apart
  | dispatch action => apply runs_ofCode_apart
  | report report => apply Judgement.runs_pure

/-- Every body passes on what is asked through open handles. -/
theorem fulfils_mountContract (definition : Definition S C) (config : Config K)
    (client : Client S C K M ε) :
  mountContract.nested.Fulfils PassedOn (body definition config client)
  := by
  apply Contract.fulfils_nested
  intro call world history hpre
  have hapart (hcall : ∀ asked handle action, call = .request asked →
      asked.through? ≠ some (handle, action)) : mountContract.nested.CarriesOut PassedOn call
        (body definition config client call) (fun _ _ _ => True) world history :=
    carriesOut_apart hcall hpre (runs_body_apart definition config client hcall)
  cases call with
  | request asked =>
    cases asked with
    | send handle event =>
      apply carriesOut_passage rfl
      apply ensures_passage rfl
    | setContext handle reducer =>
      apply carriesOut_passage rfl
      apply ensures_passage rfl
    | enter | leave | setMounted | isMounted | isLocked =>
      apply hapart
      rintro asked handle action ⟨⟩ ⟨⟩
  | effect | cleanup | dispatch =>
    apply hapart
    rintro asked handle action ⟨⟩
  | report report => apply carriesOut_report

/-- In every run the owner receives what is asked through open handles and nothing else. -/
theorem throughout_passed_on (definition : Definition S C) (config : Config K)
    (client : Client S C K M ε) (code : Code S C K M ε α) (world : World M) (depth : Nat) :
  Moment.Throughout PassedOn (Runner.run definition config client depth code world).history
  := (Contract.reaches_run (fulfils_mountContract definition config client)
    (runs_ofCode_apart code) trivial depth).1

end Runner

namespace Synced

variable {S C K M : Type} {world : World S C K M} {history : History S C K M}

/-- A request through a handle of a machine that is not mounted has changed nothing when it is
answered. -/
def DropsUnmounted (world : World S C K M) (history : History S C K M) : Prop :=
  ∀ asked handle action answer later, asked.through? = some (handle, action) →
    history = .answered (.request asked) answer world :: later →
      ∃ called before, Delivery asked handle action called before world later
        ∧ (called.mounted = false → world = called)

theorem Handled.drops_unmounted (h : Handled world history) :
  DropsUnmounted world history
  := by
  intro asked handle action answer later hthrough hanswered
  obtain ⟨called, before, hdelivery⟩ := h asked handle action answer later hthrough hanswered
  refine ⟨called, before, hdelivery, ?_⟩
  intro hunmounted
  apply hdelivery.world_eq (Or.inr hunmounted)

end Synced

variable {S C K M ε α β : Type} [DecidableEq S] [StateValue S] [Context C]

/-- In every run of an owner of effects, what is asked through a handle is received by the owner
once if the lock is open when it is asked, and dropped if not, whether the owner is mounted or not;
and nothing else is received.  In every run of a synchronous machine, what is asked through a handle
while the machine is not mounted is dropped. -/
theorem handles_pass_when_open (definition : Definition S C) (config : Config K)
    (owner : Runner.Client S C K M ε) (program : Runner.Code S C K M ε α) (machine : Machine S C K)
    (client : Synced.Client S C K M ε) (code : Synced.Code S C K M ε β) (memory : M)
    (depth : Nat) :
  Moment.Throughout Runner.PassedOn
      (Runner.run definition config owner depth program (Runner.World.initial memory)).history
    ∧ Moment.Throughout Synced.DropsUnmounted
      (Synced.run machine client depth code
        (Synced.World.initial machine.initialState memory)).history
  := by
  constructor
  · apply Runner.throughout_passed_on
  · intro moment earlier hmoment
    apply Synced.Handled.drops_unmounted
    apply Synced.throughout_handled machine client code memory depth _ _ hmoment

/-! ### An owner that is not mounted -/

namespace Runner

namespace History

variable {S C K M : Type}

/-- The action that the owner receives at a moment, if it is not mounted. -/
def unmountedAt : Moment (Call S C K) Call.Answer (World M) → List (Action K)
  | .called (.dispatch action) world => if world.mounted then [] else [action]
  | _ => []

/-- The actions that the owner received while it was not mounted. -/
def unmounted (history : History S C K M) : List (Action K) :=
  Moment.collect unmountedAt history

end History

/-- A definition whose state has an effect. -/
def bellDefinition : Definition String Int64 :=
  Definition.build "on" 0 [.state "on" [.effects ["keep"]]]

def bellConfig : Config String :=
  { (Config.default : Config String) with effects := Table.ofList [("keep", "keep")] }

/-- The effect keeps its handle. -/
def bellClient : Client String Int64 String (Option Handle) Empty where
  effect _ params := do
    Program.update fun _ => some params.handle
    return none
  cleanup _ _ := return ()
  dispatch _ := return ()

/-- The owner enters the state, is no longer mounted, and sends an event through the handle. -/
def bellOwner : Code String Int64 String (Option Handle) Empty Unit := do
  let _ ← Program.ask (Request.enter bellDefinition.initialState false)
  Program.ask (Request.setMounted false)
  match ← Program.world with
  | none => return ()
  | some handle => Program.ask (Request.send handle (Event.ofKind "RING"))

/-- The run of the owner. -/
def bellRun : Run (Call String Int64 String) Call.Answer (World (Option Handle)) Empty Unit :=
  Runner.run bellDefinition bellConfig bellClient 6 bellOwner (World.initial none)

/-- The owner receives the event although it is not mounted any more. -/
theorem received_unmounted :
  bellRun.ending = .returned () ∧ bellRun.world.mounted = false
    ∧ History.unmounted bellRun.history = [.send (Event.ofKind "RING")]
  := ⟨rfl, rfl, rfl⟩

end Runner

end GuardedMachine
