import GuardedMachine.Proofs.Machine.Steps
import GuardedMachine.Proofs.Program.Keeping
import GuardedMachine.Proofs.Synced.Bodies

/-!
# Stopping unmounts

Nothing but a request to do so mounts a synchronous machine again.  So in every run, once a stop has
begun, the machine is unmounted when the stop is answered and later on, unless somebody set the flag
in between (`stops_unmounted`).
-/

namespace GuardedMachine.Synced

variable {S C K M ε α : Type} {world world' : World S C K M} {history history' : History S C K M}

/-- Nobody set the mount flag during some moments. -/
def Unset (moments : History S C K M) : Prop :=
  ∀ moment ∈ moments, ∀ mounted, moment.made? ≠ some (.request (.setMounted mounted))

/-- If the machine began to stop and nobody has set the flag since, it is unmounted. -/
def Dismounted (world : World S C K M) (history : History S C K M) : Prop :=
  ∀ during begun before, history = during ++ .called (.request .stop) begun :: before →
    Unset during → world.mounted = false

/-- The flag alone matters. -/
theorem Dismounted.of_mounted (h : Dismounted world history)
    (hmounted : world'.mounted = world.mounted) :
  Dismounted world' history
  := by
  intro during begun before heq hunset
  rw [hmounted]
  apply h during begun before heq hunset

/-- A moment at which no stop begins leaves the flag to what was before. -/
theorem Dismounted.cons {moment : Moment (Call S C K) Call.Answer (World S C K M)}
    (hmoment : ∀ world, moment ≠ .called (.request .stop) world) (h : Dismounted world history) :
  Dismounted world (moment :: history)
  := by
  rintro (_ | ⟨_, during⟩) begun before heq hunset
  · cases hmoment _ (List.cons.inj heq).1
  · apply h during begun before (List.cons.inj heq).2
    intro later hlater
    apply hunset later (List.mem_cons_of_mem _ hlater)

/-- While the flag is being set it does not matter. -/
theorem dismounted_of_set {call : Call S C K} {mounted : Bool}
    (hcall : call = .request (.setMounted mounted)) (begun : World S C K M) :
  Dismounted world (.called call begun :: history)
  := by
  subst hcall
  rintro (_ | ⟨_, during⟩) _ before heq hunset
  · cases (List.cons.inj heq).1
  · obtain ⟨rfl, -⟩ := List.cons.inj heq
    cases hunset _ List.mem_cons_self mounted rfl

/-! ### Bodies -/

/-- The contract that allows every call and keeps a stopped machine unmounted. -/
abbrev mountContract : Contract (Call S C K) Call.Answer (World S C K M) :=
  Contract.keeping (fun _ => True) Dismounted

theorem runs_ask_dismounted (call : Call S C K) :
  (mountContract.judgement Dismounted).runs (ask call : Engine S C K M ε call.Answer)
  := Contract.runs_ask_keeping trivial

/-- A change of the world that leaves the flag keeps a stopped machine unmounted. -/
theorem runs_update_dismounted {change : World S C K M → World S C K M}
    (h : ∀ world, (change world).mounted = world.mounted) :
  (mountContract.judgement Dismounted).runs (Program.update change : Engine S C K M ε Unit)
  := by
  apply Contract.runs_update
  intro world history hworld
  apply hworld.of_mounted (h world)

theorem runs_act_dismounted {program : Engine S C K M ε Unit}
    (h : (mountContract.judgement Dismounted).runs program) :
  (mountContract.judgement Dismounted).runs (act program)
  := by
  apply Judgement.runs_bind Contract.runs_world
  intro world
  split
  · apply h
  · refine Judgement.runs_bind (runs_update_dismounted fun _ => rfl) ?_
    intro _
    apply Judgement.runs_bind h
    intro _
    apply Judgement.runs_bind (runs_ask_dismounted _)
    intro _
    exact runs_update_dismounted fun _ => rfl

theorem runs_runExit_dismounted :
  (mountContract.judgement Dismounted).runs (runExit : Engine S C K M ε Unit)
  := by
  apply runs_runExit
  · intro world history exit h
    exact h.of_mounted rfl
  · intro cleanup event context
    apply runs_ask_dismounted

theorem runs_ofCode_dismounted (code : Code S C K M ε α) :
  (mountContract.judgement Dismounted).runs (ofCode code)
  := by
  apply runs_ofCode _ _ (Program.asks_true code)
  · intro world history memory h
    exact h.of_mounted rfl
  · intro request _
    apply runs_ask_dismounted

/-- Stopping unmounts whatever was before. -/
theorem ensures_stop :
  mountContract.Ensures (stop : Engine S C K M ε Unit) (fun _ => Dismounted) world history
  := by
  simp only [stop, Contract.ensures_bind, Contract.ensures_update]
  have hunmounted : Dismounted { world with mounted := false } history := fun _ _ _ _ _ => rfl
  apply (runs_runExit_dismounted _ _ hunmounted).mono
  rintro _ world' history' - ⟨-, hworld'⟩
  exact hworld'.of_mounted rfl

variable [DecidableEq S]

theorem runs_flush_dismounted :
  (mountContract.judgement Dismounted).runs (flush : Engine S C K M ε Unit)
  := by
  apply runs_flush
  · intro world history entered h
    exact h.of_mounted rfl
  · intro state
    apply runs_ask_dismounted

/-- A request that does not set the flag keeps a stopped machine unmounted. -/
theorem runs_serveRequest_dismounted {request : Request K} (hstop : request ≠ .stop)
    (hset : ∀ mounted, request ≠ .setMounted mounted) :
  (mountContract.judgement Dismounted).runs
    (serveRequest request : Engine S C K M ε (request.Answer S C))
  := by
  have hdispatch (action : Action K) :
      (mountContract.judgement Dismounted).runs (dispatch action : Engine S C K M ε Unit) := by
    apply Judgement.runs_bind Contract.runs_world
    intro world
    split
    · apply runs_ask_dismounted
    · apply runs_ask_dismounted
  have hordinary : request.Ordinary → (mountContract.judgement Dismounted).runs
      (serveRequest request : Engine S C K M ε (request.Answer S C)) := by
    intro hordinary
    apply runs_serveRequest_of hordinary hdispatch
    · intro action _
      apply runs_ask_dismounted
    · intro report _
      apply runs_ask_dismounted
    · intro mounted hrequest
      cases hset mounted hrequest
    · intro program
      apply runs_act_dismounted
    · exact runs_flush_dismounted
    · exact hdispatch
    · intro token
      apply runs_ask_dismounted
  cases request with
  | drain => apply runs_ask_dismounted
  | flush => apply runs_flush_dismounted
  | stop => cases hstop rfl
  | _ => exact hordinary trivial

variable [StateValue S] [Context C] {machine : Machine S C K} {client : Client S C K M ε}

theorem runs_apply_dismounted (action : Action K) :
  (mountContract.judgement Dismounted).runs (apply machine action : Engine S C K M ε Unit)
  := by
  apply Judgement.runs_bind Contract.runs_world
  intro world
  apply Judgement.runs_bind
  · apply StepHost.runs_step
    · intro token event context
      apply runs_ask_dismounted
    · intro token context
      apply runs_ask_dismounted
    · intro report
      apply runs_ask_dismounted
  · intro outcome
    split
    · apply Judgement.runs_pure
    · exact runs_update_dismounted fun _ => rfl
    · exact runs_update_dismounted fun _ => rfl

/-- Every other body keeps a stopped machine unmounted. -/
theorem runs_body_dismounted {call : Call S C K} (hcall : ∀ asked, call ≠ .request asked) :
  (mountContract.judgement Dismounted).runs (body machine client call)
  := by
  have hlocks (world : World S C K M) (history : History S C K M) (locks : Locks)
      (h : Dismounted world history) : Dismounted { world with locks } history :=
    h.of_mounted rfl
  cases call with
  | request asked => cases hcall asked rfl
  | settle =>
    apply runs_settle _ runs_flush_dismounted
    · apply runs_ask_dismounted
    · apply runs_ask_dismounted
  | drain =>
    apply runs_drain
    · intro world history queue h
      exact h.of_mounted rfl
    · intro action
      apply runs_ask_dismounted
    · apply runs_ask_dismounted
  | push action => exact runs_update_dismounted fun _ => rfl
  | apply action => apply runs_apply_dismounted
  | renew state =>
    apply runs_renew
    · intro world history exit h
      exact h.of_mounted rfl
    · intro cleanup event context
      apply runs_ask_dismounted
    · apply runs_ask_dismounted
  | leave cleanup event context =>
    apply EffectHost.runs_leave
    · apply runs_setLocked hlocks
    · intro token params
      apply runs_ask_dismounted
  | enter state =>
    apply machine.runs_enter
    · apply runs_newLock hlocks
    · apply runs_setLocked hlocks
    · intro token params
      apply runs_ask_dismounted
  | guard token event context => apply runs_ofCode_dismounted
  | reduce token context => apply runs_ofCode_dismounted
  | effect token params => apply runs_ofCode_dismounted
  | cleanup token params => apply runs_ofCode_dismounted
  | callback token => apply runs_ofCode_dismounted
  | report report => apply Judgement.runs_pure

/-- Whatever is called, a stopped machine is unmounted at the end unless the flag was set. -/
theorem ensures_body_dismounted (h : Dismounted world history) (call : Call S C K) :
  mountContract.Ensures (body machine client call) (fun _ => Dismounted) world
    (.called call world :: history)
  := by
  by_cases hset : ∃ mounted, call = .request (.setMounted mounted)
  · obtain ⟨mounted, rfl⟩ := hset
    exact dismounted_of_set rfl world
  by_cases hstop : call = .request .stop
  · subst hstop
    exact ensures_stop
  have hbody : (mountContract.judgement Dismounted).runs (body machine client call) := by
    cases call with
    | request asked =>
      apply runs_serveRequest_dismounted
      · rintro rfl
        exact hstop rfl
      · rintro mounted rfl
        exact hset ⟨mounted, rfl⟩
    | _ =>
      apply runs_body_dismounted
      rintro asked ⟨⟩
  have hcalled : Dismounted world (.called call world :: history) := by
    apply h.cons
    rintro _ heq
    exact hstop (Moment.called.inj heq).1
  apply (hbody _ _ hcalled).mono
  rintro answer world' history' - ⟨-, hworld'⟩
  exact hworld'

/-! ### Runs -/

/-- When a stop is answered, the machine is unmounted unless the flag was set meanwhile. -/
def StopsUnmounted (world : World S C K M) (history : History S C K M) : Prop :=
  ∀ earlier, history = .answered (.request .stop) () world :: earlier → Dismounted world history

/-- In every run a stop leaves the machine unmounted, unless the flag is set meanwhile. -/
theorem stops_unmounted (machine : Machine S C K) (client : Client S C K M ε)
    (code : Code S C K M ε α) (world : World S C K M) (depth : Nat) :
  Moment.Throughout StopsUnmounted (Synced.run machine client depth code world).history
  := by
  have hbody : mountContract.Fulfils StopsUnmounted (body machine client) := by
    rintro call world history ⟨-, hworld⟩
    constructor
    · rintro earlier ⟨⟩
    · apply (ensures_body_dismounted hworld call).mono
      rintro answer world' history' - hworld' -
      have hanswered : Dismounted world' (.answered call answer world' :: history') := by
        apply hworld'.cons
        rintro _ ⟨⟩
      exact ⟨fun _ _ => hanswered, hanswered⟩
  have hstart : Dismounted world [] := by
    intro during begun before heq
    cases during <;> cases heq
  exact (Contract.reaches_run hbody (runs_ofCode_dismounted code) hstart depth).1

end GuardedMachine.Synced
