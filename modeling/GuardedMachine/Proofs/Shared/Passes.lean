import GuardedMachine.Proofs.Program.Nesting
import GuardedMachine.Proofs.Shared.Convergence
import GuardedMachine.Proofs.Shared.Updates

/-!
# Passes and numbers of observers

What an action that is performed does itself is read off the history of a run: its step asks guards,
reducers and the console, and if the state changes a pass follows, in which every observer that was
subscribed right after the write has a turn.  `Pass` says what happens in a pass, turn by turn, and
`Performed` what happens between the call of an action and its answer.

Observers are numbered in the order of their subscriptions, and no number is used twice, which
`World.Joined` and `History.NumbersFrom` say of two moments of a run.  `Attended` says that an
observer that is subscribed at both has been called once for every action that was answered by
`true` in between.
-/

namespace GuardedMachine.Shared

variable {S C K M : Type} {world world' world'' : World S C K M}
  {history history' history'' : History S C K M}

/-! ### Numbers -/

/-- The numbers that observers are given when a call is answered. -/
def Call.numbers : (call : Call S C K) → call.Answer → List Nat
  | .request (.subscribe _), id => [id]
  | _, _ => []

/-- The numbers that observers are given at a moment. -/
def History.subscribedAt : Moment (Call S C K) Call.Answer (World S C K M) → List Nat
  | .called _ _ => []
  | .answered call answer _ => call.numbers answer

/-- The numbers that observers were given, in the order of time. -/
def History.subscribed (history : History S C K M) : List Nat :=
  Moment.collect History.subscribedAt history

/-- The observers are numbered in the order of their subscriptions, below the next number. -/
structure World.Numbered (world : World S C K M) : Prop where
  sorted : world.ids.Pairwise (· < ·)
  lt_nextId : ∀ id ∈ world.ids, id < world.nextId

/-- Only the observers and the next number matter. -/
theorem World.Numbered.of_ids (h : world.Numbered) (hids : world'.ids = world.ids)
    (hnext : world'.nextId = world.nextId) :
  world'.Numbered
  where
  sorted := by
    rw [hids]
    apply h.sorted
  lt_nextId := by
    rw [hids, hnext]
    apply h.lt_nextId

/-- An observer that is subscribed gets the next number. -/
theorem ids_subscribe (world : World S C K M) (observer : K) :
  World.ids
      { world with
        observers := world.observers ++ [(world.nextId, observer)]
        nextId := world.nextId + 1 }
    = world.ids ++ [world.nextId]
  := by rw [World.ids, List.map_append, List.map_singleton, World.ids]

theorem World.Numbered.subscribe (h : world.Numbered) (observer : K) :
  World.Numbered
    { world with
      observers := world.observers ++ [(world.nextId, observer)]
      nextId := world.nextId + 1 }
  where
  sorted := by
    rw [ids_subscribe]
    apply List.pairwise_append.mpr
    use h.sorted, List.pairwise_singleton _ _
    intro id hid next hnext
    obtain rfl := List.mem_singleton.mp hnext
    apply h.lt_nextId id hid
  lt_nextId id hid := by
    rw [ids_subscribe] at hid
    rcases List.mem_append.mp hid with hold | hnew
    · apply Nat.lt_succ_of_lt (h.lt_nextId id hold)
    · obtain rfl := List.mem_singleton.mp hnew
      apply Nat.lt_succ_self

/-- Observers that leave do not change the order of the others. -/
theorem ids_unsubscribe_sublist (world : World S C K M) (gone : Nat) :
  (World.ids
      { world with
        observers := world.observers.filter fun observer => observer.1 ≠ gone }).Sublist world.ids
  := List.filter_sublist.map _

theorem World.Numbered.unsubscribe (h : world.Numbered) (gone : Nat) :
  World.Numbered
    { world with observers := world.observers.filter fun observer => observer.1 ≠ gone }
  where
  sorted := h.sorted.sublist (ids_unsubscribe_sublist world gone)
  lt_nextId id hid := h.lt_nextId id ((ids_unsubscribe_sublist world gone).subset hid)

/-! ### Passes -/

/-- The world in which an action has begun to be performed. -/
def World.begun (world : World S C K M) : World S C K M :=
  { world with running := world.running + 1 }

/-- From one world to another nobody who has left comes back, and whoever comes has a new number. -/
structure World.Joined (world world' : World S C K M) : Prop where
  numbered : world.Numbered
  nextId_le : world.nextId ≤ world'.nextId
  mem_ids : ∀ id ∈ world'.ids, id < world.nextId → id ∈ world.ids

theorem World.Numbered.joined (h : world.Numbered) :
  world.Joined world
  := ⟨h, Nat.le_refl _, fun _ hid _ => hid⟩

theorem World.Joined.trans (h : world.Joined world') (h' : world'.Joined world'') :
  world.Joined world''
  where
  numbered := h.numbered
  nextId_le := Nat.le_trans h.nextId_le h'.nextId_le
  mem_ids id hid hlt :=
    h.mem_ids id (h'.mem_ids id hid (Nat.lt_of_lt_of_le hlt h.nextId_le)) hlt

/-- Whoever was subscribed and is subscribed again was subscribed in between. -/
theorem World.Joined.mem_ids_between (h : world.Joined world') (h' : world'.Joined world'')
    {id : Nat} (hid : id ∈ world.ids) (hid' : id ∈ world''.ids) :
  id ∈ world'.ids
  := by
  apply h'.mem_ids id hid'
  apply Nat.lt_of_lt_of_le (h.numbered.lt_nextId id hid) h.nextId_le

/-- From one moment to another, moreover, whoever is subscribed at both has been called once for
every action that was answered by `true`. -/
structure Attended (world : World S C K M) (history : History S C K M) (world' : World S C K M)
    (history' : History S C K M) : Prop extends world.Joined world' where
  calls_eq : ∀ id ∈ world.ids, id ∈ world'.ids →
    (history'.given id).length + history.accepted.length
      = (history.given id).length + history'.accepted.length

theorem Attended.refl (h : world.Numbered) (history : History S C K M) :
  Attended world history world history
  := ⟨h.joined, fun _ _ _ => rfl⟩

theorem Attended.trans (h : Attended world history world' history')
    (h' : Attended world' history' world'' history'') :
  Attended world history world'' history''
  where
  toJoined := h.toJoined.trans h'.toJoined
  calls_eq id hid hid'' := by
    have hid' := h.mem_ids_between h'.toJoined hid hid''
    have hfirst := h.calls_eq id hid hid'
    have hsecond := h'.calls_eq id hid' hid''
    omega

/-- A moment at which no observer is called and no action is answered adds nothing. -/
theorem attended_of_alike (h : world.Numbered) (halike : Alike history history') :
  Attended world history world history'
  where
  toJoined := h.joined
  calls_eq _ _ _ := by rw [halike.given_eq, halike.accepted_eq]

/-- Only the observers and the next number matter. -/
theorem attended_of_ids (h : world.Numbered) (hids : world'.ids = world.ids)
    (hnext : world'.nextId = world.nextId) :
  Attended world history world' history
  where
  numbered := h
  nextId_le := Nat.le_of_eq hnext.symm
  mem_ids _ hid _ := hids ▸ hid
  calls_eq _ _ _ := rfl

/-- The numbers that observers were given since are not below the given one. -/
def History.NumbersFrom (next : Nat) (history history' : History S C K M) : Prop :=
  ∃ new, history'.subscribed = history.subscribed ++ new ∧ ∀ id ∈ new, next ≤ id

theorem History.NumbersFrom.refl (next : Nat) (history : History S C K M) :
  History.NumbersFrom next history history
  := by
  use [], (List.append_nil _).symm
  rintro id ⟨⟩

theorem History.NumbersFrom.trans {next next' : Nat} (h : History.NumbersFrom next history history')
    (hle : next ≤ next') (h' : History.NumbersFrom next' history' history'') :
  History.NumbersFrom next history history''
  := by
  obtain ⟨new, heq, hnew⟩ := h
  obtain ⟨new', heq', hnew'⟩ := h'
  use new ++ new'
  constructor
  · rw [heq', heq, List.append_assoc]
  · intro id hid
    rcases List.mem_append.mp hid with hid | hid
    · apply hnew id hid
    · apply Nat.le_trans hle (hnew' id hid)

/-- Answering one gives the numbers of the answer. -/
theorem History.NumbersFrom.answered {next : Nat} (h : History.NumbersFrom next history history')
    {call : Call S C K} {answer : call.Answer} (hanswer : ∀ id ∈ call.numbers answer, next ≤ id)
    (world : World S C K M) :
  History.NumbersFrom next history (.answered call answer world :: history')
  := by
  obtain ⟨new, heq, hnew⟩ := h
  use new ++ call.numbers answer
  constructor
  · rw [← List.append_assoc, ← heq]
    rfl
  · intro id hid
    rcases List.mem_append.mp hid with hid | hid
    · apply hnew id hid
    · apply hanswer id hid

/-! ### Since every moment -/

/-- Whoever is subscribed now has, since any moment at which it was subscribed and no action was
being performed, been called once for every action that was answered by `true`. -/
def Counted (world : World S C K M) (history : History S C K M) : Prop :=
  ∀ moment earlier, moment :: earlier <:+ history → ¬History.Performing (moment :: earlier) →
    Attended moment.world (moment :: earlier) world history

/-- Numbers are used once, and calls of observers are counted unless an action is being
performed. -/
structure Registered (world : World S C K M) (history : History S C K M) : Prop where
  numbered : world.Numbered
  counted : ¬history.Performing → Counted world history

theorem Counted.attended (h : Counted world history)
    (hattended : Attended world history world' history')
    {moment : Moment (Call S C K) Call.Answer (World S C K M)} {earlier : History S C K M}
    (hmoment : moment :: earlier <:+ history)
    (hperforming : ¬History.Performing (moment :: earlier)) :
  Attended moment.world (moment :: earlier) world' history'
  := (h moment earlier hmoment hperforming).trans hattended

/-- What is counted is counted at the next moment. -/
theorem Counted.next {moment : Moment (Call S C K) Call.Answer (World S C K M)}
    (h : Counted world history) (hnumbered : moment.world.Numbered)
    (hattended : Attended world history moment.world (moment :: history)) :
  Counted moment.world (moment :: history)
  := by
  intro moment' earlier hmoment hperforming
  rcases List.suffix_cons_iff.mp hmoment with heq | hbefore
  · obtain ⟨rfl, rfl⟩ := List.cons.inj heq
    apply Attended.refl hnumbered
  · apply h.attended hattended hbefore hperforming

/-- Observers may come and go. -/
theorem Registered.of_world (h : Registered world history) (hnumbered : world'.Numbered)
    (hnext : world.nextId ≤ world'.nextId)
    (hids : ∀ id ∈ world'.ids, id < world.nextId → id ∈ world.ids) :
  Registered world' history
  where
  numbered := hnumbered
  counted hperforming := by
    intro moment earlier hmoment hbefore
    apply (h.counted hperforming).attended _ hmoment hbefore
    exact ⟨⟨h.numbered, hnext, hids⟩, fun _ _ _ => rfl⟩

/-- What the numbers do not depend on may change. -/
theorem Registered.of_ids (h : Registered world history) (hids : world'.ids = world.ids)
    (hnext : world'.nextId = world.nextId) :
  Registered world' history
  where
  numbered := h.numbered.of_ids hids hnext
  counted hperforming _ _ hmoment hbefore :=
    (h.counted hperforming).attended (attended_of_ids h.numbered hids hnext) hmoment hbefore

/-- A call other than that of an observer may be made. -/
theorem Registered.called {call : Call S C K}
    (hcall : ∀ id token state, call ≠ .observe id token state) (h : Registered world history) :
  Registered world (.called call world :: history)
  where
  numbered := h.numbered
  counted hperforming := by
    have hbefore : ¬history.Performing := by
      intro hbefore
      apply hperforming (performing_called call world hbefore)
    exact (h.counted hbefore).next h.numbered
      (attended_of_alike h.numbered (alike_called hcall world))

end GuardedMachine.Shared
