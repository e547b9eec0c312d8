import GuardedMachine.Proofs.Program.Ends
import GuardedMachine.Proofs.Program.Keeping
import GuardedMachine.Proofs.Shared.Books

/-!
# Subscriptions

Whatever the owner and the callbacks of a shared machine ask of it, and however deep the calls are
nested, the machine keeps its books on subscriptions right (`subscriptions_kept`).  A subscription
gets a number above all earlier ones.  It is removed by the first request to do so that finds the
machine alive; that request alone is answered by `true`, and no other observer is touched.

Between the call of a request and its answer the history is behind the world.  The requests that
change the observers make no calls meanwhile, so nobody sees it: the books are settled whenever a
call is made and whenever one is answered.
-/

namespace GuardedMachine.Shared

variable {S C K M ε α : Type} {world world' : World S C K M} {history history' : History S C K M}

/-! ### Bodies -/

/-- A call that neither changes the observers nor counts them. -/
def Call.Silent : Call S C K → Prop
  | .request (.subscribe _) => False
  | .request (.unsubscribe _) => False
  | .request .observerCount => False
  | _ => True

/-- Nothing need be known of the answer to a silent call. -/
theorem truthful_silent {call : Call S C K} (hcall : call.Silent) (answer : call.Answer) :
  Truthful world (.answered call answer world' :: history)
  := by
  cases call with
  | request request =>
    cases request with
    | subscribe | unsubscribe | observerCount => cases hcall
    | _ => trivial
  | _ => trivial

/-- A silent call that is answered leaves the books as they are. -/
theorem Settled.answered (h : Settled world history) {call : Call S C K} (hcall : call.Silent)
    (answer : call.Answer) :
  Settled world (.answered call answer world' :: history)
  := by
  cases call with
  | request request =>
    cases request with
    | subscribe | unsubscribe | observerCount => cases hcall
    | _ => exact h.cons rfl rfl (by rintro _ _ ⟨⟩)
  | _ => exact h.cons rfl rfl (by rintro _ _ ⟨⟩)

/-- The books are right, and so is what is answered. -/
def BooksKept (world : World S C K M) (history : History S C K M) : Prop :=
  Booked world history ∧ Truthful world history

/-- The contract that allows all calls and keeps the books. -/
abbrev bookkeeping : Contract (Call S C K) Call.Answer (World S C K M) :=
  Contract.keeping (fun _ => True) Settled

/-- A call is carried out if its answer is true and the books are settled then. -/
theorem carriesOut_settled {call : Call S C K} {body : Engine S C K M ε call.Answer}
    (h : Settled world history)
    (hbody : bookkeeping.Ensures body
      (fun answer world' history' =>
        Truthful world' (.answered call answer world' :: history')
          ∧ Settled world' (.answered call answer world' :: history'))
      world (.called call world :: history)) :
  bookkeeping.CarriesOut BooksKept call body (fun _ => Settled) world history
  := by
  constructor
  · constructor
    · exact h.toBooked.congr rfl rfl (List.append_nil _) (List.append_nil _)
    · trivial
  apply hbody.mono
  rintro answer world' history' - ⟨htruthful, hsettled⟩ -
  exact ⟨⟨hsettled.toBooked, htruthful⟩, hsettled⟩

/-- A silent call is carried out by whatever keeps the books settled. -/
theorem carriesOut_silent {call : Call S C K} (hcall : call.Silent)
    {body : Engine S C K M ε call.Answer} (hbody : (bookkeeping.judgement Settled).runs body)
    (h : Settled world history) :
  bookkeeping.CarriesOut BooksKept call body (fun _ => Settled) world history
  := by
  apply carriesOut_settled h
  have hcalled : Settled world (.called call world :: history) := by
    apply h.called
    rintro id rfl
    cases hcall
  apply (hbody _ _ hcalled).mono
  rintro answer world' history' - ⟨-, hsettled⟩
  exact ⟨truthful_silent hcall answer, hsettled.answered hcall answer⟩

/-- A subscription is carried out. -/
theorem carriesOut_subscribe (h : Settled world history) (observer : K) :
  bookkeeping.CarriesOut BooksKept (.request (.subscribe observer))
    (serveRequest (.subscribe observer) : Engine S C K M ε Nat) (fun _ => Settled) world history
  := by
  apply carriesOut_settled h
  constructor
  · constructor
    · intro other hother
      rw [History.subscribed_called] at hother
      apply h.lt_nextId hother
    · exact ⟨world, history, rfl, rfl⟩
  · apply h.subscribe

/-- A request to remove an observer is served by a removal, and nothing is called meanwhile. -/
theorem ensures_unsubscribe (h : Settled world history) (id : Nat) :
  bookkeeping.Ensures (Shared.unsubscribe id : Engine S C K M ε Bool)
    (fun answer world' later => later = history' ∧ Removal id world history answer world')
    world history'
  := by
  simp only [Shared.unsubscribe, Contract.ensures_bind, Contract.ensures_world]
  split
  · next halive =>
    rw [Contract.ensures_bind, Contract.ensures_update, Contract.ensures_pure]
    use rfl
    apply h.removal
    · rw [isSome_observer?_iff]
      exact (and_iff_right halive).symm
    · intro _
      rfl
    · intro hnone
      rw [← Bool.not_eq_true, isSome_observer?_iff] at hnone
      rw [filter_ne_eq_self hnone]
  · next hdead =>
    rw [Contract.ensures_pure]
    use rfl
    apply h.removal
    · simp [hdead]
    · rintro ⟨⟩
    · intro _
      rfl

/-- A request to remove an observer is carried out. -/
theorem carriesOut_unsubscribe (h : Settled world history) (id : Nat) :
  bookkeeping.CarriesOut BooksKept (.request (.unsubscribe id))
    (serveRequest (.unsubscribe id) : Engine S C K M ε Bool) (fun _ => Settled) world history
  := by
  apply carriesOut_settled h
  apply (ensures_unsubscribe h id).mono
  rintro answer world' _ - ⟨rfl, hremoval⟩
  constructor
  · exact ⟨world, history, rfl, hremoval⟩
  · apply h.unsubscribe hremoval

/-- A request for the number of observers is carried out. -/
theorem carriesOut_observerCount (h : Settled world history) :
  bookkeeping.CarriesOut BooksKept (.request .observerCount)
    (serveRequest .observerCount : Engine S C K M ε Nat) (fun _ => Settled) world history
  := by
  apply carriesOut_settled h
  have hcalled : Settled world (.called (.request .observerCount) world :: history) := by
    apply h.called
    rintro id ⟨⟩
  constructor
  · apply hcalled.length_observers
  · apply hcalled.cons rfl rfl
    rintro id _ ⟨⟩

/-- A program of a client keeps the books settled. -/
theorem runs_ofCode_settled (code : Code S C K M ε α) :
  (bookkeeping.judgement Settled).runs (ofCode code)
  := by
  apply holds_ofCode_of _ _ (Program.asks_true code) (Program.yields_true code)
  · intro world history memory h
    exact h.of_world rfl rfl
  · intro request _
    apply Contract.runs_ask_keeping trivial

/-- So do the requests that are silent. -/
theorem runs_serveRequest_settled {request : Request K}
    (hsilent : (Call.request request : Call S C K).Silent) :
  (bookkeeping.judgement Settled).runs
    (serveRequest request : Engine S C K M ε (request.Answer S C))
  := by
  cases request with
  | subscribe | unsubscribe | observerCount => cases hsilent
  | send | setContext =>
    apply Judgement.runs_bind (Contract.runs_ask_keeping trivial)
    intro _
    apply Judgement.runs_pure
  | dispatch action => apply Contract.runs_ask_keeping trivial
  | release =>
    apply Contract.runs_update
    intro world history h
    exact h.of_world rfl rfl
  | state =>
    apply Judgement.runs_bind Contract.runs_world
    intro world
    apply Judgement.runs_pure

variable [DecidableEq S] [StateValue S] [Context C]

/-- So do the bodies of all calls that are silent. -/
theorem runs_body_settled (machine : Machine S C K) (client : Client S C K M ε) {call : Call S C K}
    (hsilent : call.Silent) :
  (bookkeeping.judgement Settled).runs (body machine client call)
  := by
  cases call with
  | request request => apply runs_serveRequest_settled hsilent
  | perform action =>
    apply runs_perform_of
    · intro world history state h
      exact h.of_world rfl rfl
    · intro world history running h
      exact h.of_world rfl rfl
    · intro token event context
      apply Contract.runs_ask_keeping trivial
    · intro token context
      apply Contract.runs_ask_keeping trivial
    · intro report
      apply Contract.runs_ask_keeping trivial
    · intro id token state
      apply Contract.runs_ask_keeping trivial
  | guard | reduce | observe => apply runs_ofCode_settled
  | report report => apply Judgement.runs_pure

/-- Every body keeps the books. -/
theorem fulfils_bookkeeping (machine : Machine S C K) (client : Client S C K M ε) :
  bookkeeping.Fulfils BooksKept (body machine client)
  := by
  rintro call world history ⟨-, h⟩
  by_cases hsilent : call.Silent
  · apply carriesOut_silent hsilent (runs_body_settled machine client hsilent) h
  cases call with
  | request request =>
    cases request with
    | subscribe observer => apply carriesOut_subscribe h
    | unsubscribe id => apply carriesOut_unsubscribe h
    | observerCount => apply carriesOut_observerCount h
    | _ => cases hsilent trivial
  | _ => cases hsilent trivial

/-! ### Answers -/

/-- Wherever a request is made it is answered, and nothing else happens in between. -/
def AnsweredAtOnce (machine : Machine S C K) (client : Client S C K M ε) (request : Request K) :
    Prop :=
  ∀ world (history : History S C K M), ∃ answer world',
    (ask (.request request) : Engine S C K M ε (request.Answer S C)).Ends (body machine client)
      world history answer world'
      (.answered (.request request) answer world' :: .called (.request request) world :: history)

section AnsweredAtOnce

variable {machine : Machine S C K} {client : Client S C K M ε}

theorem answeredAtOnce_of_body {request : Request K}
    (h : ∀ world (history : History S C K M), ∃ answer world',
      (serveRequest request : Engine S C K M ε (request.Answer S C)).Ends (body machine client)
        world history answer world' history) :
  AnsweredAtOnce machine client request
  := by
  intro world history
  obtain ⟨answer, world', hends⟩ := h world (.called (.request request) world :: history)
  use answer, world'
  apply Program.ends_ask.mpr
  exact ⟨_, hends, rfl⟩

theorem answeredAtOnce_subscribe (observer : K) :
  AnsweredAtOnce machine client (.subscribe observer)
  := by
  apply answeredAtOnce_of_body
  intro world history
  exact ⟨_, _, 0, rfl⟩

theorem answeredAtOnce_unsubscribe (id : Nat) :
  AnsweredAtOnce machine client (.unsubscribe id)
  := by
  apply answeredAtOnce_of_body
  intro world history
  change ∃ answer world',
    (if world.alive then _ else _ : Engine S C K M ε Bool).Ends _ world history answer world' history
  split
  · exact ⟨_, _, 0, rfl⟩
  · exact ⟨_, _, 0, rfl⟩

theorem answeredAtOnce_observerCount :
  AnsweredAtOnce machine client (.observerCount : Request K)
  := by
  apply answeredAtOnce_of_body
  intro world history
  exact ⟨_, _, 0, rfl⟩

end AnsweredAtOnce

/-! ### Runs -/

/-- In every run subscriptions are numbered one after the other, and the observers are those that
were subscribed and have not been removed, in the order of their subscriptions.  Each subscription
is answered by a number above all earlier ones.  A request to remove an observer is answered by
`true` if it is the first for its subscription that finds the machine alive, and then removes this
observer and changes nothing else; otherwise it is answered by `false` and changes nothing.  The
number of observers is that of the subscriptions less that of the requests that were answered by
`true`.  All these requests are answered wherever they are made. -/
theorem subscriptions_kept (machine : Machine S C K) (client : Client S C K M ε)
    (code : Code S C K M ε α) (memory : M) (depth : Nat) :
  (Shared.run machine client depth code (World.initial machine.initialState memory)).Reaches
    BooksKept (fun _ => Booked)
  ∧ (∀ observer, AnsweredAtOnce machine client (.subscribe observer))
  ∧ (∀ id, AnsweredAtOnce machine client (.unsubscribe id))
  ∧ AnsweredAtOnce machine client .observerCount
  := by
  refine ⟨?_, answeredAtOnce_subscribe, answeredAtOnce_unsubscribe, answeredAtOnce_observerCount⟩
  have hstart : Settled (World.initial machine.initialState memory : World S C K M) [] := by
    constructor
    · constructor
      · rfl
      · rfl
      · apply List.nodup_nil
      · apply List.nil_subset
    · intro id
      constructor
      · rintro ⟨_, _, hsuffix, -⟩
        cases List.suffix_nil.mp hsuffix
      · rintro ⟨⟩
  have hrun := Contract.reaches_run (fulfils_bookkeeping machine client) (runs_ofCode_settled code)
    hstart depth
  use hrun.1
  intro result hresult
  obtain ⟨-, -, hsettled⟩ := hrun.2 result hresult
  apply hsettled.toBooked

end GuardedMachine.Shared
