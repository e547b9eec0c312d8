import GuardedMachine.Proofs.Synced.Dropping
import GuardedMachine.Proofs.Synced.Stopped

/-!
# A stopped machine drops what it is given

After its owner stopped it, a synchronous machine stays as it is, runs none of its callbacks and
reports each action that it is given as unmounted, as long as nobody queues actions unconditionally,
drains, flushes, starts or mounts it (`drops_after_stop`).  Whatever happened before the stop does
not matter.
-/

namespace GuardedMachine.Synced

variable {S C K M ε α : Type} {world world' : World S C K M} {history history' : History S C K M}

/-! ### The contract -/

/-- A machine that was stopped makes passive calls only.  A call that is made while others are open
does not count as the owner's stop, nor does what it calls. -/
def dropContract : Contract (Call S C K) Call.Answer (World S C K M) where
  pre call world history :=
    Keeps call.unmountedReports world history ∧ (IsStilled history → call.Passive)
  post _ _ history _ world' history' :=
    Keeps [] world' history'
      ∧ (Moment.openCalls history ≠ [] → IsStilled history' → IsStilled history)

/-- The report that is due right after a moment. -/
def dueAt : History S C K M → List Report
  | [] => []
  | moment :: _ => (givenAt moment).map unmountedReport

/-- At a moment of a run everything is dropped and accounted for, but for the action that is given
at this moment. -/
def KeepsDue (world : World S C K M) (history : History S C K M) : Prop :=
  Keeps (dueAt history) world history

/-! ### Machines that were not stopped -/

/-- Inside a call, nothing that a program does counts as the owner's stop. -/
theorem ensures_unstilled {program : Engine S C K M ε α} (hopen : Moment.openCalls history ≠ [])
    (h : ¬ IsStilled history) :
  dropContract.Ensures program
    (fun _ _ history' => ¬ IsStilled history' ∧ Moment.Continues history history') world history
  := by
  induction program generalizing world history with
  | done result => exact ⟨h, .refl history⟩
  | fail error => trivial
  | read next ih => exact ih _ hopen h
  | write world' next ih => exact ih hopen h
  | call call next ih =>
    use ⟨keeps_of_not h _ _, fun hstilled => (h hstilled).elim⟩
    rintro answer world' history' hcontinues ⟨-, hinside⟩
    have hopen' : Moment.openCalls history' ≠ [] := by rwa [hcontinues.openCalls_eq]
    apply (ih answer hopen' fun hstilled => h (hinside hopen hstilled)).mono
    rintro result world'' history'' - ⟨hunstilled, hcontinues'⟩
    exact ⟨hunstilled, hcontinues.trans hcontinues'⟩

/-- A call other than a stop is carried out by any program while the machine is not stopped. -/
theorem carriesOut_unstilled {call : Call S C K} {program : Engine S C K M ε call.Answer}
    (hcall : call ≠ .request .stop) (hpre : dropContract.pre call world history)
    (h : ¬ IsStilled (.called call world :: history)) :
  dropContract.CarriesOut KeepsDue call program (dropContract.post call world history) world history
  := by
  have hopen : Moment.openCalls (.called call world :: history) ≠ [] := List.cons_ne_nil _ _
  use hpre.1.called hpre.2
  apply (ensures_unstilled hopen h).mono
  rintro answer world' history' - ⟨hunstilled, -⟩ -
  have hkeeps : Keeps [] world' (.answered call answer world' :: history') :=
    (keeps_of_not hunstilled [] world').answered hcall answer
  refine ⟨hkeeps, hkeeps, ?_⟩
  rintro - ⟨stopped, later, hstilled⟩
  rcases hstilled.of_answered with ⟨-, hstop, -⟩ | ⟨rest, -, hrest⟩
  · cases hcall hstop
  · cases hunstilled ⟨stopped, rest, hrest⟩

/-- When the owner's stop is answered, nothing is queued. -/
theorem carriesOut_stop_drop (hpre : dropContract.pre (.request .stop) world history) :
  dropContract.CarriesOut KeepsDue (.request .stop) (stop : Engine S C K M ε Unit)
    (dropContract.post (.request .stop) world history) world history
  := by
  have hcalled : ¬ IsStilled (.called (.request .stop) world :: history) := by
    rintro ⟨stopped, later, hstilled⟩
    obtain ⟨-, -, -, htame⟩ := hstilled.of_called
    cases htame .stop rfl
  have hopen : Moment.openCalls (.called (.request .stop) world :: history) ≠ [] :=
    List.cons_ne_nil _ _
  use hpre.1.called hpre.2
  simp only [stop, Contract.ensures_bind, Contract.ensures_update]
  apply (ensures_unstilled hopen hcalled).mono
  rintro _ world' history' - ⟨hunstilled, hcontinues⟩ -
  have hkeeps : Keeps [] { world' with queue := [] }
      (.answered (.request .stop) () { world' with queue := [] } :: history') := by
    intro stopped later hstilled
    rcases hstilled.of_answered with ⟨rfl, -, rfl, hmounted, -⟩ | ⟨rest, -, hrest⟩
    · refine ⟨⟨rfl, rfl, rfl, rfl, rfl, hmounted, ?_⟩, rfl⟩
      rintro _ ⟨⟩
    · cases hunstilled ⟨stopped, rest, hrest⟩
  refine ⟨hkeeps, hkeeps, ?_⟩
  rintro hopen ⟨stopped, later, hstilled⟩
  rcases hstilled.of_answered with ⟨-, -, -, -, hstop⟩ | ⟨rest, -, hrest⟩
  · cases hopen (List.cons.inj (hcontinues.openCalls_eq.symm.trans hstop)).2
  · cases hunstilled ⟨stopped, rest, hrest⟩

/-! ### Machines that were stopped -/

/-- A passive call that reports nothing of being unmounted. -/
theorem ensures_ask_keeps {call : Call S C K} (hpassive : call.Passive)
    (h : Keeps call.unmountedReports world history) :
  dropContract.Ensures (ask call : Engine S C K M ε call.Answer) (fun _ => Keeps []) world history
  := by
  use ⟨h, fun _ => hpassive⟩
  rintro answer world' history' - ⟨hkeeps, -⟩
  exact hkeeps

/-- An action that an unmounted machine is given is reported. -/
theorem ensures_dispatch_unmounted {action : Action K} (hmounted : world.mounted = false)
    (h : Keeps [unmountedReport action] world history) :
  dropContract.Ensures (dispatch action : Engine S C K M ε Unit) (fun _ => Keeps []) world history
  := by
  simp only [dispatch, Contract.ensures_bind, Contract.ensures_world, hmounted, Bool.false_eq_true,
    if_false]
  exact ensures_ask_keeps trivial h

/-- What settles has nothing to apply. -/
theorem ensures_act_keeps {program : Engine S C K M ε Unit}
    (h : ∀ acting, dropContract.Ensures program (fun _ => Keeps []) { world with acting } history) :
  dropContract.Ensures (act program) (fun _ => Keeps []) world history
  := by
  simp only [act, Contract.ensures_bind, Contract.ensures_world]
  split
  · exact h world.acting
  · simp only [Contract.ensures_bind, Contract.ensures_update]
    apply (h true).mono
    rintro _ world' history' - hkeeps
    have hsettle : dropContract.Ensures (ask .settle : Engine S C K M ε Unit) (fun _ => Keeps [])
        world' history' := ensures_ask_keeps trivial hkeeps
    apply hsettle.mono
    rintro _ world'' history'' - hkeeps'
    exact hkeeps'.of_world rfl rfl rfl rfl rfl rfl

theorem runs_ofCode_keeps (code : Code S C K M ε α) :
  (dropContract.judgement (Keeps [])).runs (ofCode code)
  := by
  apply runs_ofCode _ _ (Program.asks_true code)
  · intro world history memory h
    exact h.of_world rfl rfl rfl rfl rfl rfl
  · intro request _ world history h
    have hask : dropContract.Ensures
        (ask (.request request) : Engine S C K M ε (request.Answer S C)) (fun _ => Keeps []) world
        history := ensures_ask_keeps trivial h
    apply hask.mono
    rintro _ world' history' - hkeeps
    exact ⟨trivial, hkeeps⟩

variable [DecidableEq S]

/-- A tame request is reported if it gives an action, and does nothing otherwise but run the
callback of an `act`. -/
theorem ensures_serveRequest_keeps {asked : Request K} (htame : asked.tame)
    (hmounted : world.mounted = false)
    (h : Keeps ((givenAt (.called (.request asked) world
      : Moment (Call S C K) Call.Answer (World S C K M))).map unmountedReport) world history) :
  dropContract.Ensures (serveRequest asked : Engine S C K M ε (asked.Answer S C))
    (fun _ => Keeps []) world history
  := by
  have hacting {owed : List Report} (h : Keeps owed world history) (acting : Bool) :
      Keeps owed { world with acting } history := h.of_world rfl rfl rfl rfl rfl rfl
  cases asked with
  | start | enqueue | drain | flush | stop | setMounted => cases htame
  | send event =>
    apply ensures_act_keeps
    intro acting
    exact ensures_dispatch_unmounted hmounted (hacting h acting)
  | setContext reducer =>
    apply ensures_act_keeps
    intro acting
    exact ensures_dispatch_unmounted hmounted (hacting h acting)
  | dispatch action => exact ensures_dispatch_unmounted hmounted h
  | act token =>
    apply ensures_act_keeps
    intro acting
    exact ensures_ask_keeps trivial (hacting h acting)
  | isMounted | pending | state | isLocked => exact h
  | handleSend handle event =>
    simp only [serveRequest, EffectHost.send, effectHost, Contract.ensures_bind,
      Contract.ensures_world, Contract.ensures_pure]
    cases hlocked : world.locks.isLocked handle.lock with
    | true =>
      simp only [givenAt, hlocked, if_true, List.map_nil] at h
      exact ensures_ask_keeps trivial h
    | false =>
      simp only [givenAt, hlocked, Bool.false_eq_true, if_false] at h
      exact ensures_dispatch_unmounted hmounted h
  | handleSetContext handle reducer =>
    simp only [serveRequest, EffectHost.setContext, effectHost, Contract.ensures_bind,
      Contract.ensures_world, Contract.ensures_pure]
    cases hlocked : world.locks.isLocked handle.lock with
    | true =>
      simp only [givenAt, hlocked, if_true, List.map_nil] at h
      exact ensures_ask_keeps trivial h
    | false =>
      simp only [givenAt, hlocked, Bool.false_eq_true, if_false] at h
      exact ensures_dispatch_unmounted hmounted h

variable [StateValue S] [Context C] {machine : Machine S C K} {client : Client S C K M ε}

/-- The calls of a stopped machine keep it as it is. -/
theorem ensures_body_keeps {call : Call S C K} (hpassive : call.Passive)
    (htame : ∀ asked, call = .request asked → asked.tame) (hqueue : world.queue = [])
    (hmounted : world.mounted = false)
    (h : Keeps ((givenAt (.called call world : Moment (Call S C K) Call.Answer
      (World S C K M))).map unmountedReport) world history) :
  dropContract.Ensures (body machine client call) (fun _ => Keeps []) world history
  := by
  cases call with
  | request asked => exact ensures_serveRequest_keeps (htame asked rfl) hmounted h
  | settle =>
    simp only [body, settle, Contract.ensures_bind, Contract.ensures_world, hqueue,
      List.isEmpty_nil, if_true, Contract.ensures_pure]
    exact h
  | callback token =>
    apply (runs_ofCode_keeps _ world history h).mono
    rintro _ world' history' - ⟨-, hkeeps⟩
    exact hkeeps
  | report report => exact h
  | drain | push | apply | renew | leave | enter | guard | reduce | effect | cleanup =>
    cases hpassive

/-- Every body keeps a machine that was stopped as it is. -/
theorem fulfils_dropContract :
  (dropContract : Contract (Call S C K) Call.Answer (World S C K M)).Fulfils KeepsDue
    (body machine client)
  := by
  intro call world history hpre
  by_cases hstilled : IsStilled (.called call world :: history)
  · obtain ⟨stopped, later, hstilled⟩ := hstilled
    obtain ⟨rest, -, hrest, htame⟩ := hstilled.of_called
    have hcall : call ≠ .request .stop := by
      rintro rfl
      cases htame .stop rfl
    have hcalled := hpre.1.called hpre.2
    obtain ⟨hdropped, -⟩ := hcalled stopped later hstilled
    use hcalled
    apply (ensures_body_keeps (hpre.2 ⟨stopped, rest, hrest⟩) htame hdropped.queue_eq
      hdropped.mounted_eq hcalled).mono
    rintro answer world' history' - hkeeps -
    exact ⟨hkeeps.answered hcall answer, hkeeps.answered hcall answer,
      fun _ _ => ⟨stopped, rest, hrest⟩⟩
  · by_cases hcall : call = .request .stop
    · subst hcall
      exact carriesOut_stop_drop hpre
    · exact carriesOut_unstilled hcall hpre hstilled

/-! ### Runs -/

/-- Since its owner stopped the machine, and nobody mounted it meanwhile, everything was dropped,
and it is accounted for but for the reports that are still due. -/
def DropsAll (due : List Report) (world : World S C K M) (history : History S C K M) : Prop :=
  ∀ stopped later, SinceStop stopped later history →
    Dropped stopped world later ∧ Accounted due later

omit [DecidableEq S] [StateValue S] [Context C] in
/-- A stop leaves the machine unmounted, and so it drops everything since. -/
theorem Keeps.dropsAll {due : List Report} (h : Keeps due world history)
    (hstops : Moment.Throughout StopsUnmounted history) :
  DropsAll due world history
  := by
  rintro stopped later ⟨during, earlier, rfl, ⟨begun, before, rfl, hstop⟩, hunset, htame⟩
  apply h stopped later
  refine ⟨?_, during, _, rfl, ⟨begun, before, rfl, hstop⟩, htame⟩
  apply hstops _ _ (List.suffix_append later _) _ rfl
    (.answered (.request .stop) () stopped :: during) begun before rfl
  intro moment hmoment mounted
  rcases List.mem_cons.mp hmoment with rfl | hmoment
  · exact Option.some_ne_none _ ∘ Eq.symm
  · exact hunset moment hmoment mounted

omit [DecidableEq S] [StateValue S] [Context C] in
/-- Nothing was stopped at the beginning. -/
theorem keeps_nil (world : World S C K M) :
  Keeps [] world []
  := by
  apply keeps_of_not
  rintro ⟨stopped, later, -, during, earlier, heq, ⟨begun, before, rfl, -⟩, -⟩
  cases List.append_eq_nil_iff.mp heq.symm |>.2

/-- Whatever happened before, once the owner has stopped a synchronous machine and nobody queues
actions unconditionally, runs effects out of turn or mounts it, everything is dropped: state, epoch,
key and stored cleanups stay as the stop left them, nothing is queued, and no guard, reducer, effect
or cleanup is run.  Each action that it is given is reported as unmounted at the next moment, once,
and unless the reporter is silent the report is written. -/
theorem drops_after_stop (machine : Machine S C K) (client : Client S C K M ε)
    (code : Code S C K M ε α) (memory : M) (depth : Nat) :
  (Synced.run machine client depth code (World.initial machine.initialState memory)).Reaches
      (fun world history => DropsAll (dueAt history) world history) (fun _ => DropsAll [])
    ∧ ∀ action : Action K, machine.config.reporter.lines (unmountedReport action)
        = if machine.config.reporter.verbosity = .silent then []
          else machine.config.reporter.console.record
            (Reporter.layout machine.config.reporter.console.groups (unmountedReport action))
  := by
  have hstops := stops_unmounted machine client code (World.initial machine.initialState memory)
    depth
  obtain ⟨hmoments, hresult⟩ := Contract.reaches_run
    (fulfils_dropContract : dropContract.Fulfils KeepsDue (body machine client))
    (runs_ofCode_keeps code) (keeps_nil (World.initial machine.initialState memory)) depth
  refine ⟨⟨?_, ?_⟩, ?_⟩
  · intro moment earlier hmoment
    apply (hmoments moment earlier hmoment).dropsAll
    intro moment' earlier' hmoment'
    exact hstops moment' earlier' (hmoment'.trans hmoment)
  · intro result hreturned
    exact (hresult result hreturned).2.2.dropsAll hstops
  · intro action
    rw [Reporter.lines, Reporter.enabled]
    cases machine.config.reporter.verbosity <;> rfl

/-! ### Example -/

/-- The effect of the lamp keeps its handle, and a callback dispatches. -/
def lampKeeper : Client String Int64 String (Option Handle) Empty where
  guard _ _ _ := return true
  reduce _ context := return context
  effect _ params := do
    Program.update fun _ => some params.handle
    return none
  cleanup _ _ := return ()
  callback _ := Code.ask (.dispatch (.send (Event.ofKind "CALLED")))

/-- The owner starts the lamp and queues an action, stops the lamp, and then gives it actions in all
ways, through the handle of its effect as well. -/
def lampKeeperOwner : Code String Int64 String (Option Handle) Empty Unit := do
  Code.ask .start
  Code.ask (.dispatch (.send (Event.ofKind "PRESS")))
  Code.ask .stop
  Code.ask (.send (Event.ofKind "PRESS"))
  Code.ask (.setContext "dim")
  Code.ask (.dispatch (.send (Event.ofKind "PRESS")))
  Code.ask (.act "call")
  match ← Program.world with
  | none => return ()
  | some handle => Code.ask (.handleSend handle (Event.ofKind "PRESS"))

def lampKeeperRun : Run (Call String Int64 String) Call.Answer
    (World String Int64 String (Option Handle)) Empty Unit :=
  Synced.run lamp lampKeeper 16 lampKeeperOwner (World.initial lamp.initialState none)

/-- Whether a stop is answered at a moment. -/
def stoppedAt : Moment (Call S C K) Call.Answer (World S C K M) → Bool
  | .answered (.request .stop) _ _ => true
  | _ => false

/-- Whether a stop is called at a moment. -/
def stopsAt : Moment (Call S C K) Call.Answer (World S C K M) → Bool
  | .called (.request .stop) _ => true
  | _ => false

/-- Once it is stopped the lamp stays on and reports what it is given; the handle is closed. -/
theorem lamp_drops :
  ∃ stopped later, SinceStop stopped later lampKeeperRun.history
    ∧ Dropped stopped lampKeeperRun.world later
    ∧ Moment.collect unmountedAt later = List.map unmountedReport
        [.send (Event.ofKind "PRESS"), .setContext "dim", .send (Event.ofKind "PRESS"),
          .send (Event.ofKind "CALLED")]
  := by
  have hsince : ∃ stopped, SinceStop stopped (lampKeeperRun.history.takeWhile (!stoppedAt ·))
      lampKeeperRun.history := by
    have hstops : ∃ stopped, OwnerStops stopped
        ((lampKeeperRun.history.dropWhile (!stoppedAt ·)).tail.takeWhile (!stopsAt ·))
        (lampKeeperRun.history.dropWhile (!stoppedAt ·)) := ⟨_, _, _, rfl, rfl, rfl⟩
    obtain ⟨stopped, hstops⟩ := hstops
    refine ⟨stopped, _, _, List.takeWhile_append_dropWhile.symm, hstops, ?_, by decide +kernel⟩
    apply unset_of_tame
    decide +kernel
  have hgiven : Moment.collect givenAt (lampKeeperRun.history.takeWhile (!stoppedAt ·))
      = [.send (Event.ofKind "PRESS"), .setContext "dim", .send (Event.ofKind "PRESS"),
        .send (Event.ofKind "CALLED")] := by rfl
  obtain ⟨stopped, hsince⟩ := hsince
  obtain ⟨-, hresult⟩ := (drops_after_stop lamp lampKeeper lampKeeperOwner none 16).1
  obtain ⟨hdropped, haccounted⟩ := hresult () rfl _ _ hsince
  refine ⟨stopped, _, hsince, hdropped, ?_⟩
  rw [← hgiven, ← haccounted, List.append_nil]

end GuardedMachine.Synced
