import GuardedMachine.Proofs.Shared.Updates

/-!
# Guards and reducers that perform no actions

If the guards and reducers of a shared machine perform no actions, every accepted action is firm
(`firm_eq_accepted`), however the observers call the machine.  So no update is lost then.
-/

namespace GuardedMachine.Shared

variable {S C K M ε α : Type} {world : World S C K M} {history : History S C K M}

/-- Guards and reducers perform no actions. -/
structure Client.Passive (client : Client S C K M ε) : Prop where
  guard : ∀ token event context,
    (client.guard token event context).Asks fun request => request.performs? = none
  reduce : ∀ token context,
    (client.reduce token context).Asks fun request => request.performs? = none

/-- A call that may be made while a step is waiting for an answer. -/
def Call.Passive : Call S C K → Prop
  | .request asked => asked.performs? = none
  | .perform _ => False
  | .observe _ _ _ => False
  | _ => True

/-- All accepted actions are firm. -/
def AllFirm (_ : World S C K M) (history : History S C K M) : Prop :=
  history.firm = history.accepted

/-- While a step is waiting for an answer only passive calls are made. -/
def passiveContract : Contract (Call S C K) Call.Answer (World S C K M) where
  pre call world history := (History.stepping history = true → call.Passive) ∧ AllFirm world history
  post _ _ _ _ world' history' := AllFirm world' history'

/-- What a part of a call keeps. -/
structure Firmly (stepping : Bool) (world : World S C K M) (history : History S C K M) :
    Prop where
  allFirm : AllFirm world history
  stepping_eq : history.stepping = stepping

theorem runs_ask_firmly {stepping : Bool} {call : Call S C K}
    (hpassive : stepping = true → call.Passive) :
  (passiveContract.judgement (Firmly stepping)).runs (ask call : Engine S C K M ε call.Answer)
  := by
  intro world history hfirmly
  refine ⟨⟨?_, hfirmly.allFirm⟩, ?_⟩
  · rw [hfirmly.stepping_eq]
    apply hpassive
  · intro answer world' history' hcontinues hallFirm
    refine ⟨trivial, hallFirm, ?_⟩
    rw [stepping_continued hcontinues, hfirmly.stepping_eq]

theorem runs_ofCode_firmly {stepping : Bool} {admits : Request K → Prop} {code : Code S C K M ε α}
    (hasks : code.Asks admits)
    (hpassive : stepping = true → ∀ request, admits request → request.performs? = none) :
  (passiveContract.judgement (Firmly stepping)).runs (ofCode code)
  := by
  apply holds_ofCode_of _ _ hasks (Program.yields_true code)
  · intro world history memory hfirmly
    exact ⟨hfirmly.allFirm, hfirmly.stepping_eq⟩
  · intro request hrequest
    apply runs_ask_firmly
    intro hstepping
    exact hpassive hstepping request hrequest

/-- A call is carried out if its body runs, and if it is made by a step, is answered or is no
action. -/
theorem carriesOut_firmly {call : Call S C K} {body : Engine S C K M ε call.Answer}
    (hbody : (passiveContract.judgement (Firmly (call.ofStep || history.stepping))).runs body)
    (hperform : ∀ action, call = .perform action → history.stepping = false)
    (h : AllFirm world history) :
  passiveContract.CarriesOut AllFirm call body (fun _ => AllFirm) world history
  := by
  have hcalled : Firmly (call.ofStep || history.stepping) world (.called call world :: history) := by
    constructor
    · rw [AllFirm, firm_silent rfl, accepted_silent rfl, h]
    · rfl
  use hcalled.allFirm
  apply (hbody _ _ hcalled).mono
  rintro answer world' history' - ⟨-, hfirmly⟩ hcontinues
  have hanswered : AllFirm world' (.answered call answer world' :: history') := by
    cases call with
    | perform action =>
      have hquiet : History.stepping history' = false := by
        rw [hfirmly.stepping_eq]
        apply hperform action rfl
      rw [AllFirm, History.firm, History.firmAt, hquiet, hfirmly.allFirm]
      rfl
    | _ => rw [AllFirm, firm_silent rfl, accepted_silent rfl, hfirmly.allFirm]
  exact ⟨hanswered, hanswered⟩

variable [DecidableEq S] [StateValue S] [Context C] {machine : Machine S C K}
  {client : Client S C K M ε}

theorem fulfils_passiveContract (hclient : client.Passive) :
  passiveContract.Fulfils AllFirm (body machine client)
  := by
  rintro call world history ⟨hpassive, hallFirm⟩
  apply carriesOut_firmly _ _ hallFirm
  · cases call with
    | request request =>
      apply runs_serveRequest_of
      · intro world' history' observer hfirmly
        exact ⟨hfirmly.allFirm, hfirmly.stepping_eq⟩
      · intro world' history' id hfirmly
        exact ⟨hfirmly.allFirm, hfirmly.stepping_eq⟩
      · intro world' history' hfirmly
        exact ⟨hfirmly.allFirm, hfirmly.stepping_eq⟩
      · intro action hperforms
        apply runs_ask_firmly
        intro hstepping
        have hnone : request.performs? = none := hpassive hstepping
        cases hnone.symm.trans hperforms
    | perform action =>
      have hquiet : ∀ call : Call S C K, History.stepping history = true → call.Passive := by
        intro call hstepping
        cases hpassive hstepping
      apply runs_perform_of
      · intro world' history' state hfirmly
        exact ⟨hfirmly.allFirm, hfirmly.stepping_eq⟩
      · intro world' history' running hfirmly
        exact ⟨hfirmly.allFirm, hfirmly.stepping_eq⟩
      · intro token event context
        apply runs_ask_firmly (hquiet _)
      · intro token context
        apply runs_ask_firmly (hquiet _)
      · intro report
        apply runs_ask_firmly (hquiet _)
      · intro id token state
        apply runs_ask_firmly (hquiet _)
    | guard token event context =>
      apply runs_ofCode_firmly (hclient.guard token event context)
      intro _ request hrequest
      apply hrequest
    | reduce token context =>
      apply runs_ofCode_firmly (hclient.reduce token context)
      intro _ request hrequest
      apply hrequest
    | observe id token state =>
      apply runs_ofCode_firmly (Program.asks_true _)
      intro hstepping
      cases hpassive hstepping
    | report report => apply Judgement.runs_pure
  · rintro action rfl
    rw [← Bool.not_eq_true]
    intro hstepping
    cases hpassive hstepping

/-- If guards and reducers perform no actions, all accepted actions are firm. -/
theorem firm_eq_accepted (machine : Machine S C K) {client : Client S C K M ε}
    (hclient : client.Passive) (code : Code S C K M ε α) (memory : M) (depth : Nat) :
  (Shared.run machine client depth code (World.initial machine.initialState memory)).Reaches
    AllFirm fun _ => AllFirm
  := by
  have hcode : (passiveContract.judgement (Firmly false)).runs
      (ofCode code : Engine S C K M ε α) := by
    apply runs_ofCode_firmly (Program.asks_true code)
    rintro ⟨⟩
  have hbody : passiveContract.Fulfils AllFirm (body machine client) :=
    fulfils_passiveContract hclient
  have hstart : Firmly false (World.initial machine.initialState memory : World S C K M) [] :=
    ⟨rfl, rfl⟩
  have hrun := Contract.reaches_run hbody hcode hstart depth
  use hrun.1
  intro result hresult
  obtain ⟨-, -, hfirmly⟩ := hrun.2 result hresult
  apply hfirmly.allFirm

end GuardedMachine.Shared
