import GuardedMachine.Definition.Builder
import GuardedMachine.Proofs.Dispatch.Choices
import GuardedMachine.Proofs.Shared.Writes
import Mathlib.Data.List.Perm.Subperm

/-!
# Updates of a shared machine

A shared machine applies an action to the state that it reads when the action is performed, and
writes the outcome once guards and reducers have answered.  An action that a guard or a reducer
performs in between may be overwritten, even if it was answered by `true`.

No other update is lost (`updates_reflected`): whenever no action is being performed the state is
one to which some of the accepted actions lead in some order, each accepted at the state that the
previous one led to, and all those are among them that were accepted while no step was waiting for
an answer, the `History.firm` ones.
-/

namespace GuardedMachine.Shared

variable {S C K M ε α : Type}

/-! ### Firm actions -/

/-- Whether a call is made by a step: it asks a guard, runs a reducer or writes a report. -/
def Call.ofStep : Call S C K → Bool
  | .guard _ _ _ => true
  | .reduce _ _ => true
  | .report _ => true
  | _ => false

namespace History

/-- Whether a step is waiting for an answer. -/
def stepping (history : History S C K M) : Bool :=
  (Moment.openCalls history).any Call.ofStep

/-- The action that is answered by `true` at a moment, unless a step is waiting for an answer. -/
def firmAt (moment : Moment (Call S C K) Call.Answer (World S C K M))
    (earlier : History S C K M) : List (Action K) :=
  if earlier.stepping then [] else acceptedAt moment

/-- The actions that were answered by `true` while no step was waiting for an answer. -/
def firm : History S C K M → List (Action K)
  | [] => []
  | moment :: earlier => firm earlier ++ firmAt moment earlier

end History

variable {world world' world'' : World S C K M} {history history' history'' : History S C K M}

theorem stepping_continued (h : Moment.Continues history history') :
  history'.stepping = history.stepping
  := by rw [History.stepping, History.stepping, h.openCalls_eq]

/-- A moment at which no action is answered by `true` is silent. -/
theorem firm_silent {moment : Moment (Call S C K) Call.Answer (World S C K M)}
    (h : History.acceptedAt moment = []) (history : History S C K M) :
  History.firm (moment :: history) = history.firm
  := by simp [History.firm, History.firmAt, h]

theorem accepted_silent {moment : Moment (Call S C K) Call.Answer (World S C K M)}
    (h : History.acceptedAt moment = []) (history : History S C K M) :
  History.accepted (moment :: history) = history.accepted
  := by simp [History.accepted, Moment.collect, h]

theorem acceptedAt_answered {call : Call S C K} (hcall : ∀ action, call ≠ .perform action)
    (answer : call.Answer) (world : World S C K M) :
  History.acceptedAt (.answered call answer world) = []
  := by
  cases call with
  | perform action => cases hcall action rfl
  | _ => rfl

/-! ### Orders of actions -/

/-- What a client's guards may answer and its reducers may make. -/
def Client.choices (client : Client S C K M ε) : Choices C K where
  guard token event context allow := (client.guard token event context).May allow
  reduce token context context' := (client.reduce token context).May context'

section Choices

variable [DecidableEq S] [StateValue S] {machine : Machine S C K} {choices : Choices C K}

/-- Some of the accepted actions, the firm ones among them, lead in some order to the state. -/
def Reflected (machine : Machine S C K) (choices : Choices C K) (world : World S C K M)
    (history : History S C K M) : Prop :=
  ∃ order, machine.Takes choices machine.initialState order world.state
    ∧ order.Subperm history.accepted ∧ history.firm.Subperm order

/-- From one moment to another some of the actions accepted in between, the firm ones among them,
lead in some order to the state, and none is firm while a step is waiting for an answer. -/
structure Advanced (machine : Machine S C K) (choices : Choices C K) (world : World S C K M)
    (history : History S C K M) (world' : World S C K M) (history' : History S C K M) :
    Prop where
  order : ∃ order, machine.Takes choices world.state order world'.state
    ∧ (history.accepted ++ order).Subperm history'.accepted
    ∧ history'.firm.Subperm (history.firm ++ order)
  firm_eq : history.stepping = true → history'.firm = history.firm

theorem Advanced.refl (world : World S C K M) (history : History S C K M) :
  Advanced machine choices world history world history
  where
  order := by
    refine ⟨[], .nil, ?_, ?_⟩
    · rw [List.append_nil]
    · rw [List.append_nil]
  firm_eq _ := rfl

theorem Advanced.trans (hcontinues : Moment.Continues history history')
    (h : Advanced machine choices world history world' history')
    (h' : Advanced machine choices world' history' world'' history'') :
  Advanced machine choices world history world'' history''
  where
  order := by
    obtain ⟨order, htakes, haccepted, hfirm⟩ := h.order
    obtain ⟨order', htakes', haccepted', hfirm'⟩ := h'.order
    refine ⟨order ++ order', htakes.append htakes', ?_, ?_⟩
    · rw [← List.append_assoc]
      apply List.Subperm.trans _ haccepted'
      apply haccepted.append (List.Subperm.refl order')
    · rw [← List.append_assoc]
      apply hfirm'.trans
      apply hfirm.append (List.Subperm.refl order')
  firm_eq hstepping := by
    rw [h'.firm_eq (stepping_continued hcontinues ▸ hstepping), h.firm_eq hstepping]

/-- What has been accepted stays accepted. -/
theorem Advanced.accepted_subperm (h : Advanced machine choices world history world' history') :
  history.accepted.Subperm history'.accepted
  := by
  obtain ⟨order, -, haccepted, -⟩ := h.order
  apply List.Subperm.trans _ haccepted
  apply (List.sublist_append_left _ _).subperm

/-- Only the state of the world matters. -/
theorem Advanced.of_state (h : Advanced machine choices world history world' history')
    (hstate : world''.state = world'.state) :
  Advanced machine choices world history world'' history'
  where
  order := by
    rw [hstate]
    apply h.order
  firm_eq := h.firm_eq

/-- What has happened since a call was made has happened since the moment before. -/
theorem Advanced.of_called {call : Call S C K}
    (h : Advanced machine choices world (.called call world'' :: history) world' history') :
  Advanced machine choices world history world' history'
  where
  order := by
    have horder := h.order
    rwa [accepted_silent rfl, firm_silent rfl] at horder
  firm_eq hstepping := by
    rw [h.firm_eq, firm_silent rfl]
    simp only [History.stepping, Moment.openCalls, List.any_cons, Bool.or_eq_true]
    right
    apply hstepping

/-- A silent moment changes nothing. -/
theorem Advanced.silent {moment : Moment (Call S C K) Call.Answer (World S C K M)}
    (h : Advanced machine choices world history world' history')
    (hmoment : History.acceptedAt moment = []) :
  Advanced machine choices world history world' (moment :: history')
  where
  order := by
    rw [accepted_silent hmoment, firm_silent hmoment]
    apply h.order
  firm_eq hstepping := by rw [firm_silent hmoment, h.firm_eq hstepping]

/-- What is reflected is reflected after a call. -/
theorem Reflected.advanced (h : Reflected machine choices world history)
    (hadvanced : Advanced machine choices world history world' history') :
  Reflected machine choices world' history'
  := by
  obtain ⟨order, htakes, haccepted, hfirm⟩ := h
  obtain ⟨order', htakes', haccepted', hfirm'⟩ := hadvanced.order
  refine ⟨order ++ order', htakes.append htakes', ?_, ?_⟩
  · apply List.Subperm.trans _ haccepted'
    apply haccepted.append (List.Subperm.refl order')
  · apply hfirm'.trans
    apply hfirm.append (List.Subperm.refl order')

/-! ### The contract -/

/-- Updates are reflected, unless an action is being performed. -/
def Accounted (machine : Machine S C K) (choices : Choices C K) (world : World S C K M)
    (history : History S C K M) : Prop :=
  ¬history.Performing → Reflected machine choices world history

theorem Accounted.continued (h : Accounted machine choices world history)
    (hcontinues : Moment.Continues history history')
    (hadvanced : Advanced machine choices world history world' history') :
  Accounted machine choices world' history'
  := by
  intro hperforming
  rw [performing_continued hcontinues] at hperforming
  apply (h hperforming).advanced hadvanced

theorem Accounted.called (h : Accounted machine choices world history) (call : Call S C K) :
  Accounted machine choices world (.called call world :: history)
  := by
  intro hperforming
  have hbefore : ¬history.Performing := by
    intro hbefore
    apply hperforming (performing_called call world hbefore)
  apply (h hbefore).advanced
  apply (Advanced.refl world history).silent rfl

/-- Guards answer, and reducers make, what they may. -/
def Said (choices : Choices C K) : (call : Call S C K) → call.Answer → Prop
  | .guard token event context, allow => choices.guard token event context allow
  | .reduce token context, made => choices.reduce token context made
  | _, _ => True

/-- Actions are accounted for whenever a call is made, and again when it is answered. -/
def updateContract (machine : Machine S C K) (choices : Choices C K) :
    Contract (Call S C K) Call.Answer (World S C K M) where
  pre _ world history := Accounted machine choices world history
  post call world history answer world' history' :=
    Advanced machine choices world history world' history' ∧ Said choices call answer
      ∧ (call.ofStep = true → History.firm history' = History.firm history)

/-- What a part of a call keeps, from its beginning. -/
structure Accounting (machine : Machine S C K) (choices : Choices C K) (world : World S C K M)
    (history : History S C K M) (world' : World S C K M) (history' : History S C K M) :
    Prop where
  continues : Moment.Continues history history'
  advanced : Advanced machine choices world history world' history'
  accounted : Accounted machine choices world' history'

theorem accounting_refl (h : Accounted machine choices world history) :
  Accounting machine choices world history world history
  := ⟨Moment.Continues.refl history, Advanced.refl world history, h⟩

/-- A part of a call may change the world except for the state. -/
theorem Accounting.of_state (h : Accounting machine choices world history world' history')
    (hstate : world''.state = world'.state) :
  Accounting machine choices world history world'' history'
  where
  continues := h.continues
  advanced := h.advanced.of_state hstate
  accounted := by
    apply h.accounted.continued (Moment.Continues.refl history')
    apply (Advanced.refl world' history').of_state hstate

/-- It may make calls. -/
theorem Accounting.continued (h : Accounting machine choices world history world' history')
    (hcontinues : Moment.Continues history' history'')
    (hadvanced : Advanced machine choices world' history' world'' history'') :
  Accounting machine choices world history world'' history''
  where
  continues := h.continues.trans hcontinues
  advanced := h.advanced.trans h.continues hadvanced
  accounted := h.accounted.continued hcontinues hadvanced

theorem runs_ask_accounting (call : Call S C K) :
  ((updateContract machine choices).judgement (Accounting machine choices world history)).runs
    (ask call : Engine S C K M ε call.Answer)
  := by
  intro world' history' haccounting
  use haccounting.accounted
  rintro answer world'' history'' hcontinues ⟨hadvanced, -⟩
  exact ⟨trivial, haccounting.continued hcontinues hadvanced⟩

/-- A program of a client only makes requests. -/
theorem holds_ofCode_accounting {allowed : α → Prop} {code : Code S C K M ε α}
    (hyields : code.Yields allowed) :
  ((updateContract machine choices).judgement
    (Accounting machine choices world history)).holds allowed (ofCode code)
  := by
  apply holds_ofCode_of _ _ (Program.asks_true code) hyields
  · intro world' history' memory haccounting
    exact haccounting.of_state rfl
  · intro request _
    apply runs_ask_accounting

/-! ### The bodies -/

/-- A call other than that of an action is carried out by a part of a call. -/
theorem carriesOut_of_accounting {call : Call S C K} (hcall : ∀ action, call ≠ .perform action)
    {body : Engine S C K M ε call.Answer}
    (hbody : ∀ world (history : History S C K M),
      ((updateContract machine choices).judgement
        (Accounting machine choices world history)).holds (Said choices call) body)
    (h : Accounted machine choices world history) :
  (updateContract machine choices).CarriesOut (Accounted machine choices) call body
    ((updateContract machine choices).post call world history) world history
  := by
  have hcalled := h.called call
  use hcalled
  apply (hbody _ _ _ _ (accounting_refl hcalled)).mono
  rintro answer world' history' - ⟨hsaid, haccounting⟩ hcontinues
  have hsilent := acceptedAt_answered hcall answer world'
  have hadvanced : Advanced machine choices world history world'
      (.answered call answer world' :: history') :=
    haccounting.advanced.of_called.silent hsilent
  refine ⟨h.continued (hcontinues.answered answer world') hadvanced, hadvanced, hsaid, ?_⟩
  intro hofStep
  have hstepping : History.stepping (.called call world :: history) = true := by
    simp [History.stepping, Moment.openCalls, hofStep]
  rw [firm_silent hsilent, haccounting.advanced.firm_eq hstepping, firm_silent rfl]

/-- Until the outcome of a step is written nothing is firm. -/
structure StepAccounting (machine : Machine S C K) (choices : Choices C K) (world : World S C K M)
    (history : History S C K M) (world' : World S C K M) (history' : History S C K M) : Prop
    extends Accounting machine choices world history world' history' where
  firm_eq : history'.firm = history.firm

/-- A step that is accepted leads to a state to which its action may lead. -/
theorem holds_step_stepping [Context C] (state : MachineState S C) (action : Action K) :
  ((updateContract machine choices).judgement (StepAccounting machine choices world history)).holds
    (fun outcome => ∀ next, outcome.state? = some next →
      machine.Accepts choices state action next)
    (stepHost.step machine.definition machine.config state action :
      Engine S C K M ε (Outcome S C))
  := by
  apply machine.holds_step_accepts
  · intro token event context world' history' haccounting
    use haccounting.accounted
    rintro allow world'' history'' hcontinues ⟨hadvanced, hmay, hfirm⟩
    use hmay, haccounting.toAccounting.continued hcontinues hadvanced
    apply (hfirm rfl).trans haccounting.firm_eq
  · intro token context world' history' haccounting
    use haccounting.accounted
    rintro made world'' history'' hcontinues ⟨hadvanced, hmay, hfirm⟩
    use hmay, haccounting.toAccounting.continued hcontinues hadvanced
    apply (hfirm rfl).trans haccounting.firm_eq
  · intro report world' history' haccounting
    use haccounting.accounted
    rintro _ world'' history'' hcontinues ⟨hadvanced, -, hfirm⟩
    use trivial, haccounting.toAccounting.continued hcontinues hadvanced
    apply (hfirm rfl).trans haccounting.firm_eq

/-- The outcome of a step is written, and all that was accepted since the step began is lost. -/
theorem advanced_perform {state : MachineState S C} {action : Action K}
    (hstep : StepAccounting machine choices world history world' history')
    (haccepts : machine.Accepts choices world.state action state)
    (hpass : Accounting machine choices { world' with state } history' world'' history'')
    (running : Nat) :
  Advanced machine choices world history { world'' with running }
    (.answered (.perform action) true { world'' with running } :: history'')
  := by
  have hcontinues := hstep.continues.trans hpass.continues
  have haccepted : History.accepted
      (.answered (.perform action) true { world'' with running } :: history'')
      = history''.accepted ++ [action] := rfl
  have hfirm : History.firm
      (.answered (.perform action) true { world'' with running } :: history'')
      = history''.firm ++ if history.stepping then [] else [action] := by
    rw [History.firm, History.firmAt, stepping_continued hcontinues]
    rfl
  obtain ⟨order, htakes, haccepted', hfirm'⟩ := hpass.advanced.order
  rw [hstep.firm_eq] at hfirm'
  -- The action is taken before those of the pass, and answered after them.
  have hlast (actions : List (Action K)) :
      (actions ++ action :: order).Perm ((actions ++ order) ++ [action]) := by
    rw [List.append_assoc]
    apply List.Perm.append_left
    apply (List.perm_append_singleton action order).symm
  constructor
  · refine ⟨action :: order, .cons haccepts htakes, ?_, ?_⟩
    · rw [haccepted]
      apply (hlast history.accepted).subperm.trans
      apply List.Subperm.append _ (List.Subperm.refl [action])
      apply List.Subperm.trans _ haccepted'
      apply hstep.advanced.accepted_subperm.append (List.Subperm.refl order)
    · rw [hfirm]
      apply List.Subperm.trans _ (hlast history.firm).symm.subperm
      apply hfirm'.append
      split
      · apply List.nil_subperm
      · apply List.Subperm.refl
  · intro hstepping
    rw [hfirm, if_pos hstepping, List.append_nil,
      hpass.advanced.firm_eq (stepping_continued hstep.continues ▸ hstepping), hstep.firm_eq]

/-- An action that is performed is carried out. -/
theorem carriesOut_perform_accounting [Context C] (h : Accounted machine choices world history)
    (action : Action K) :
  (updateContract machine choices).CarriesOut (Accounted machine choices) (.perform action)
    (perform machine action : Engine S C K M ε Bool)
    ((updateContract machine choices).post (.perform action) world history) world history
  := by
  have hcalled := h.called (.perform action)
  use hcalled
  simp only [perform, Contract.ensures_bind, Contract.ensures_world, Contract.ensures_update]
  have hstart : StepAccounting machine choices world (.called (.perform action) world :: history)
      { world with running := world.running + 1 }
      (.called (.perform action) world :: history) :=
    ⟨(accounting_refl hcalled).of_state rfl, rfl⟩
  apply (holds_step_stepping world.state action _ _ hstart).mono
  rintro outcome world' history' - ⟨haccepts, hstep⟩
  cases houtcome : outcome.state? with
  | none =>
    simp only [Contract.ensures_bind, Contract.ensures_update, Contract.ensures_pure]
    intro hcontinues
    have hrest : Advanced machine choices world (.called (.perform action) world :: history)
        { world' with running := world'.running - 1 } history' := hstep.advanced.of_state rfl
    have hadvanced : Advanced machine choices world history
        { world' with running := world'.running - 1 }
        (.answered (.perform action) false { world' with running := world'.running - 1 }
          :: history') := by
      apply hrest.of_called.silent
      rfl
    refine ⟨h.continued (hcontinues.answered _ _) hadvanced, hadvanced, trivial, ?_⟩
    rintro ⟨⟩
  | some state =>
    simp only [Contract.ensures_bind, Contract.ensures_world, Contract.ensures_update]
    have hwritten : Accounted machine choices { world' with state } history' := by
      intro hperforming
      rw [performing_continued hstep.continues] at hperforming
      cases hperforming ⟨action, List.mem_cons_self⟩
    have hnotify : ((updateContract machine choices).judgement
        (Accounting machine choices { world' with state } history')).runs
          (notify world'.ids : Engine S C K M ε Unit) := by
      apply runs_notify_of
      intro id token state
      apply runs_ask_accounting
    apply (hnotify _ _ (accounting_refl hwritten)).mono
    rintro _ world'' history'' - ⟨-, hpass⟩ hcontinues
    have hadvanced := (advanced_perform hstep (haccepts state houtcome) hpass
      (world''.running - 1)).of_called
    refine ⟨h.continued (hcontinues.answered _ _) hadvanced, hadvanced, trivial, ?_⟩
    rintro ⟨⟩

end Choices

variable [DecidableEq S] [StateValue S] [Context C]

/-- Every body accounts for the updates. -/
theorem fulfils_updateContract (machine : Machine S C K) (client : Client S C K M ε) :
  (updateContract machine client.choices).Fulfils (Accounted machine client.choices)
    (body machine client)
  := by
  intro call world history hpre
  cases call with
  | request request =>
    apply carriesOut_of_accounting (by rintro action ⟨⟩) _ hpre
    intro world history
    apply runs_serveRequest_of
    · intro world' history' observer haccounting
      exact haccounting.of_state rfl
    · intro world' history' id haccounting
      exact haccounting.of_state rfl
    · intro world' history' haccounting
      exact haccounting.of_state rfl
    · intro action _
      apply runs_ask_accounting
  | perform action => apply carriesOut_perform_accounting hpre
  | guard token event context =>
    apply carriesOut_of_accounting (by rintro action ⟨⟩) _ hpre
    intro world history
    apply holds_ofCode_accounting (Program.yields_may _)
  | reduce token context =>
    apply carriesOut_of_accounting (by rintro action ⟨⟩) _ hpre
    intro world history
    apply holds_ofCode_accounting (Program.yields_may _)
  | observe id token state =>
    apply carriesOut_of_accounting (by rintro action ⟨⟩) _ hpre
    intro world history
    apply holds_ofCode_accounting (Program.yields_true _)
  | report report =>
    apply carriesOut_of_accounting (by rintro action ⟨⟩) _ hpre
    intro world history
    apply Judgement.runs_pure

/-- In every run, whenever no action is being performed, some of the accepted actions lead in some
order to the state, each accepted at the state that the previous one led to, and the firm ones are
among them. -/
theorem updates_reflected (machine : Machine S C K) (client : Client S C K M ε)
    (code : Code S C K M ε α) (memory : M) (depth : Nat) :
  (Shared.run machine client depth code (World.initial machine.initialState memory)).Reaches
    (Accounted machine client.choices) fun _ world history =>
      Moment.openCalls history = [] ∧ Reflected machine client.choices world history
  := by
  have hinitial : Reflected machine client.choices
      (World.initial machine.initialState memory : World S C K M) [] :=
    ⟨[], .nil, List.Subperm.refl [], List.Subperm.refl []⟩
  have hrun := Contract.reaches_run (fulfils_updateContract machine client)
    (holds_ofCode_accounting (Program.yields_true code)) (accounting_refl fun _ => hinitial) depth
  use hrun.1
  intro result hresult
  obtain ⟨-, hopen, haccounting⟩ := hrun.2 result hresult
  use hopen
  apply haccounting.accounted
  rintro ⟨action, haction⟩
  rw [hopen] at haction
  cases haction

/-! ### A lost update -/

/-- A machine that only has a context. -/
def tally : Machine String Int64 String where
  definition := Definition.build "on" 0 [.state "on" []]
  config := Config.default
  resolved := by decide +kernel

/-- It adds ten, and it adds one after ten has been added. -/
def tallyClient : Client String Int64 String Unit Empty where
  guard _ _ _ := return true
  reduce token context :=
    if token = "one" then do
      let _ ← Program.ask (Request.dispatch (.setContext "ten"))
      return context + 1
    else return context + 10
  observe _ _ := return ()

/-- What it adds. -/
def tallied : Action String → Int64
  | .send _ => 0
  | .setContext token => if token = "one" then 1 else 10

/-- The run in which one is added. -/
def tallyRun : Run (Call String Int64 String) Call.Answer (World String Int64 String Unit)
    Empty Bool :=
  Shared.run tally tallyClient 6 (Program.ask (Request.dispatch (.setContext "one")))
    (World.initial tally.initialState ())

/-- Actions that are taken one after the other add what each of them adds. -/
theorem context_eq_of_takes {state state' : MachineState String Int64}
    {order : List (Action String)}
    (h : tally.Takes tallyClient.choices state order state') :
  state'.context = order.foldl (fun context action => context + tallied action) state.context
  := by
  induction h with
  | nil => rfl
  | cons haccepts _ ih =>
    rw [ih, List.foldl_cons]
    congr 1
    cases haccepts with
    | event => exact (Int64.add_zero _).symm
    | @context reducer context hmay =>
      simp only [Client.choices, tallyClient, tallied] at hmay ⊢
      split at hmay
      · next hone =>
        obtain ⟨_, rfl⟩ := hmay
        rw [if_pos hone]
      · next hten =>
        obtain rfl := hmay
        rw [if_neg hten]

/-- Both updates are answered by `true` and no call is open, but no order of them leads to the
state. -/
theorem update_lost :
  tallyRun.ending = .returned true ∧ Moment.openCalls tallyRun.history = []
    ∧ History.accepted tallyRun.history = [.setContext "ten", .setContext "one"]
    ∧ ¬∃ order, order.Perm (History.accepted tallyRun.history)
      ∧ tally.Takes tallyClient.choices tally.initialState order tallyRun.world.state
  := by
  refine ⟨rfl, rfl, rfl, ?_⟩
  rintro ⟨order, hperm, htakes⟩
  have hcontext := context_eq_of_takes htakes
  have : RightCommutative fun (context : Int64) action => context + tallied action :=
    ⟨fun context action action' => by
      rw [Int64.add_assoc, Int64.add_comm (tallied action), ← Int64.add_assoc]⟩
  rw [hperm.foldl_eq] at hcontext
  revert hcontext
  decide +kernel

end GuardedMachine.Shared
