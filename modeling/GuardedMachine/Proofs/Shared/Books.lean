import GuardedMachine.Proofs.Shared.Passes
import Mathlib.Data.List.Nodup

/-!
# The books on subscriptions

What was subscribed and removed on a shared machine is read off the history of a run
(`History.subscriptions`, `History.removed`), and so is what should have been removed
(`History.Tried`).  The books are right (`Booked`) when the numbers of subscriptions were given one
after the other and the observers are those that were subscribed and have not been removed, in the
order of their subscriptions.  So there are as many as subscriptions less removals
(`Booked.length_observers`), and an observer that is removed is never taken for a later one.

`Truthful` says how the requests that read and change the books are answered, and `Settled` is the
invariant that they keep.
-/

namespace GuardedMachine.Shared

variable {S C K M : Type} {world world' : World S C K M} {history history' : History S C K M}

/-! ### Reading a history -/

namespace History

/-- The observer that is given a number at a moment, with the number. -/
def subscriptionAt : Moment (Call S C K) Call.Answer (World S C K M) → List (Nat × K)
  | .answered (.request (.subscribe observer)) id _ => [(id, observer)]
  | _ => []

/-- The observers that were given numbers, in the order of time. -/
def subscriptions (history : History S C K M) : List (Nat × K) :=
  Moment.collect subscriptionAt history

/-- The number for which a request to remove the observer is answered by `true` at a moment. -/
def removedAt : Moment (Call S C K) Call.Answer (World S C K M) → List Nat
  | .answered (.request (.unsubscribe id)) true _ => [id]
  | _ => []

/-- The numbers of the observers that were removed, in the order of time. -/
def removed (history : History S C K M) : List Nat :=
  Moment.collect removedAt history

/-- After a number was given a request to remove its observer has found the machine alive. -/
def Tried (history : History S C K M) (id : Nat) : Prop :=
  ∃ world earlier, .called (.request (.unsubscribe id)) world :: earlier <:+ history
    ∧ world.alive = true ∧ id ∈ History.subscribed earlier

/-- The numbers of the subscriptions are those that were given. -/
theorem map_fst_subscriptions (history : History S C K M) :
  history.subscriptions.map Prod.fst = history.subscribed
  := by
  induction history with
  | nil => rfl
  | cons moment earlier ih =>
    have hmoment : (subscriptionAt moment).map Prod.fst = subscribedAt moment := by
      cases moment with
      | called => rfl
      | answered call answer world =>
        cases call with
        | request request => cases request <;> rfl
        | _ => rfl
    change List.map _ (subscriptions earlier ++ subscriptionAt moment) = _
    rw [List.map_append, ih, hmoment]
    rfl

/-- The same subscriptions have the same numbers. -/
theorem subscribed_congr (h : history'.subscriptions = history.subscriptions) :
  history'.subscribed = history.subscribed
  := by rw [← map_fst_subscriptions, h, map_fst_subscriptions]

/-- Making a call gives no number. -/
theorem subscribed_called (call : Call S C K) (world : World S C K M) (history : History S C K M) :
  History.subscribed (.called call world :: history) = history.subscribed
  := List.append_nil _

theorem tried_cons {moment : Moment (Call S C K) Call.Answer (World S C K M)} {id : Nat} :
  Tried (moment :: history) id
    ↔ (∃ world, moment = .called (.request (.unsubscribe id)) world ∧ world.alive = true
        ∧ id ∈ history.subscribed) ∨ history.Tried id
  := by
  constructor
  · rintro ⟨world, earlier, hsuffix, halive, hid⟩
    rcases List.suffix_cons_iff.mp hsuffix with heq | hsuffix
    · obtain ⟨rfl, rfl⟩ := List.cons.inj heq
      exact .inl ⟨world, rfl, halive, hid⟩
    · exact .inr ⟨world, earlier, hsuffix, halive, hid⟩
  · rintro (⟨world, rfl, halive, hid⟩ | ⟨world, earlier, hsuffix, halive, hid⟩)
    · exact ⟨world, history, List.suffix_refl _, halive, hid⟩
    · exact ⟨world, earlier, hsuffix.trans (List.suffix_cons _ _), halive, hid⟩

/-- A request to remove an observer of a machine that is alive tries to, if the number was given. -/
theorem tried_unsubscribe {id other : Nat} {answer : Bool} :
  Tried (.answered (.request (.unsubscribe id)) answer world'
      :: .called (.request (.unsubscribe id)) world :: history) other
    ↔ (id = other ∧ world.alive = true ∧ id ∈ history.subscribed) ∨ history.Tried other
  := by
  rw [tried_cons, tried_cons]
  constructor
  · rintro (⟨_, ⟨⟩, -⟩ | ⟨_, ⟨⟩, halive, hid⟩ | htried)
    · exact .inl ⟨rfl, halive, hid⟩
    · exact .inr htried
  · rintro (⟨rfl, halive, hid⟩ | htried)
    · exact .inr (.inl ⟨world, rfl, halive, hid⟩)
    · exact .inr (.inr htried)

end History

/-- Nobody leaves if the one who should is not subscribed. -/
theorem filter_ne_eq_self {id : Nat} (hid : id ∉ world.ids) :
  (world.observers.filter fun observer => observer.1 ≠ id) = world.observers
  := by
  apply List.filter_eq_self.mpr
  intro observer hobserver
  apply decide_eq_true
  rintro rfl
  apply hid (List.mem_map.mpr ⟨observer, hobserver, rfl⟩)

/-! ### The books -/

/-- Subscriptions are numbered one after the other, and the observers are those that have not been
removed. -/
structure Booked (world : World S C K M) (history : History S C K M) : Prop where
  subscribed_eq : history.subscribed = List.range world.nextId
  observers_eq : world.observers
    = history.subscriptions.filter fun subscription => subscription.1 ∉ history.removed
  /-- Nothing is removed twice. -/
  removed_nodup : history.removed.Nodup
  removed_subset : history.removed ⊆ history.subscribed

/-- What a request to remove an observer does, from the world and the history in which it is made to
its answer. -/
structure Removal (id : Nat) (world : World S C K M) (history : History S C K M) (answer : Bool)
    (world' : World S C K M) : Prop where
  /-- The first request for a subscription that finds the machine alive is answered by `true`. -/
  answer_iff : answer = true ↔ world.alive = true ∧ id ∈ history.subscribed ∧ ¬history.Tried id
  /-- It removes the observer and leaves the others. -/
  removed : answer = true →
    world' = { world with observers := world.observers.filter fun observer => observer.1 ≠ id }
  /-- Any other changes nothing. -/
  kept : answer = false → world' = world

/-- A request that is answered right now is answered as the books say. -/
def Truthful (world : World S C K M) : History S C K M → Prop
  | .answered (.request (.subscribe observer)) id _ :: later =>
    (∀ other ∈ History.subscribed later, other < id)
      ∧ ∃ called before, later = .called (.request (.subscribe observer)) called :: before
        ∧ world = { called with
            observers := called.observers ++ [(id, observer)]
            nextId := id + 1 }
  | .answered (.request (.unsubscribe id)) answer _ :: later =>
    ∃ called before, later = .called (.request (.unsubscribe id)) called :: before
      ∧ Removal id called before answer world
  | .answered (.request .observerCount) answer _ :: later =>
    answer + (History.removed later).length = (History.subscribed later).length
  | _ => True

namespace Booked

/-- What the books do not depend on may change. -/
theorem congr (h : Booked world history) (hobservers : world'.observers = world.observers)
    (hnext : world'.nextId = world.nextId)
    (hsubscriptions : history'.subscriptions = history.subscriptions)
    (hremoved : history'.removed = history.removed) :
  Booked world' history'
  := by
  have hsubscribed := History.subscribed_congr hsubscriptions
  constructor
  · rw [hsubscribed, hnext, h.subscribed_eq]
  · rw [hobservers, h.observers_eq, hsubscriptions, hremoved]
  · rw [hremoved]
    apply h.removed_nodup
  · rw [hremoved, hsubscribed]
    apply h.removed_subset

/-- Whoever was given a number and has not been removed is subscribed. -/
theorem mem_ids_iff (h : Booked world history) {id : Nat} :
  id ∈ world.ids ↔ id ∈ history.subscribed ∧ id ∉ history.removed
  := by
  rw [World.ids, h.observers_eq, ← History.map_fst_subscriptions]
  simp only [List.mem_map, List.mem_filter, decide_eq_true_eq]
  constructor
  · rintro ⟨subscription, ⟨hmem, hkept⟩, rfl⟩
    exact ⟨⟨subscription, hmem, rfl⟩, hkept⟩
  · rintro ⟨⟨subscription, hmem, rfl⟩, hkept⟩
    exact ⟨subscription, ⟨hmem, hkept⟩, rfl⟩

/-- A number that has been given is below the next one. -/
theorem lt_nextId (h : Booked world history) {id : Nat} (hid : id ∈ history.subscribed) :
  id < world.nextId
  := by
  rw [h.subscribed_eq] at hid
  exact List.mem_range.mp hid

/-- As many observers are left as were subscribed and not removed. -/
theorem length_observers (h : Booked world history) :
  world.observers.length + history.removed.length = history.subscribed.length
  := by
  have hnodup : history.subscribed.Nodup := by
    rw [h.subscribed_eq]
    exact List.nodup_range
  have hgone : (history.subscribed.filter (· ∈ history.removed)).Perm history.removed := by
    apply (List.perm_ext_iff_of_nodup (hnodup.filter _) h.removed_nodup).mpr
    intro id
    simp only [List.mem_filter, decide_eq_true_eq, and_iff_right_iff_imp]
    apply h.removed_subset
  have hleft : world.observers.length
      = (history.subscribed.filter (· ∉ history.removed)).length := by
    rw [h.observers_eq, ← History.map_fst_subscriptions, List.filter_map, List.length_map]
    rfl
  rw [hleft, ← hgone.length_eq, Nat.add_comm]
  simp only [decide_not]
  exact (List.length_eq_length_filter_add _).symm

/-- An observer is subscribed under the next number. -/
theorem subscribe (h : Booked world history) {observer : K}
    (hsubscriptions : history'.subscriptions = history.subscriptions ++ [(world.nextId, observer)])
    (hremoved : history'.removed = history.removed) :
  Booked
    { world with
      observers := world.observers ++ [(world.nextId, observer)]
      nextId := world.nextId + 1 } history'
  := by
  have hsubscribed : history'.subscribed = history.subscribed ++ [world.nextId] := by
    rw [← History.map_fst_subscriptions, hsubscriptions, List.map_append,
      History.map_fst_subscriptions, List.map_singleton]
  have hnew : world.nextId ∉ history.removed := by
    intro hmem
    exact Nat.lt_irrefl _ (h.lt_nextId (h.removed_subset hmem))
  constructor
  · rw [hsubscribed, h.subscribed_eq, List.range_succ]
  · rw [hsubscriptions, hremoved, List.filter_append, h.observers_eq,
      List.filter_singleton, decide_eq_true hnew]
    rfl
  · rw [hremoved]
    apply h.removed_nodup
  · rw [hremoved, hsubscribed]
    intro id hid
    apply List.mem_append_left _ (h.removed_subset hid)

/-- An observer that is subscribed is removed. -/
theorem unsubscribe (h : Booked world history) {id : Nat} (hid : id ∈ world.ids)
    (hsubscriptions : history'.subscriptions = history.subscriptions)
    (hremoved : history'.removed = history.removed ++ [id]) :
  Booked { world with observers := world.observers.filter fun observer => observer.1 ≠ id } history'
  := by
  have hsubscribed := History.subscribed_congr hsubscriptions
  obtain ⟨hgiven, hkept⟩ := h.mem_ids_iff.mp hid
  constructor
  · rw [hsubscribed, h.subscribed_eq]
  · rw [hsubscriptions, hremoved, h.observers_eq, List.filter_filter]
    apply List.filter_congr
    intro subscription _
    simp [and_comm]
  · rw [hremoved]
    apply h.removed_nodup.append (List.nodup_singleton id)
    rwa [List.disjoint_singleton]
  · rw [hremoved, hsubscribed]
    intro other hother
    rcases List.mem_append.mp hother with hother | hother
    · apply h.removed_subset hother
    · obtain rfl := List.mem_singleton.mp hother
      apply hgiven

end Booked

/-! ### Moments -/

/-- The books are right, and those observers have been removed that should have been. -/
structure Settled (world : World S C K M) (history : History S C K M) : Prop
    extends Booked world history where
  tried_iff : ∀ id, history.Tried id ↔ id ∈ history.removed

namespace Settled

variable {call : Call S C K}

/-- What the books do not depend on may change. -/
theorem of_world (h : Settled world history) (hobservers : world'.observers = world.observers)
    (hnext : world'.nextId = world.nextId) :
  Settled world' history
  where
  toBooked := h.toBooked.congr hobservers hnext rfl rfl
  tried_iff := h.tried_iff

/-- A moment at which nothing is subscribed or removed, and nothing is tried to be, leaves the books
as they are. -/
theorem cons (h : Settled world history)
    {moment : Moment (Call S C K) Call.Answer (World S C K M)}
    (hsubscriptions : History.subscriptionAt moment = []) (hremoved : History.removedAt moment = [])
    (htried : ∀ id world, moment ≠ .called (.request (.unsubscribe id)) world) :
  Settled world (moment :: history)
  := by
  have hremoved : History.removed (moment :: history) = history.removed := by
    rw [History.removed, Moment.collect, hremoved, List.append_nil, History.removed]
  constructor
  · apply h.toBooked.congr rfl rfl _ hremoved
    rw [History.subscriptions, Moment.collect, hsubscriptions, List.append_nil,
      History.subscriptions]
  · intro id
    rw [hremoved, ← h.tried_iff, History.tried_cons]
    apply or_iff_right
    rintro ⟨world, hmoment, -⟩
    apply htried id world hmoment

theorem called (h : Settled world history) (hcall : ∀ id, call ≠ .request (.unsubscribe id)) :
  Settled world (.called call world :: history)
  := by
  apply h.cons rfl rfl
  rintro id _ ⟨⟩
  apply hcall id rfl

/-- An observer is subscribed under the next number. -/
theorem subscribe (h : Settled world history) (observer : K) :
  Settled
    { world with
      observers := world.observers ++ [(world.nextId, observer)]
      nextId := world.nextId + 1 }
    (.answered (.request (.subscribe observer)) world.nextId world'
      :: .called (.request (.subscribe observer)) world :: history)
  := by
  have hcalled : Settled world (.called (.request (.subscribe observer)) world :: history) := by
    apply h.called
    rintro id ⟨⟩
  constructor
  · apply hcalled.toBooked.subscribe rfl (List.append_nil _)
  · intro id
    have htried := hcalled.tried_iff id
    rw [History.tried_cons, htried]
    constructor
    · rintro (⟨_, ⟨⟩, -⟩ | hid)
      exact List.mem_append_left _ hid
    · intro hid
      right
      rcases List.mem_append.mp hid with hid | ⟨⟨⟩⟩
      exact hid

/-- A request that is answered by `true` if it finds the machine alive and the observer subscribed
is the first for its subscription then. -/
theorem removal (h : Settled world history) {id : Nat} {answer : Bool}
    (hanswer : answer = true ↔ world.alive = true ∧ id ∈ world.ids)
    (hremoved : answer = true →
      world' = { world with observers := world.observers.filter fun observer => observer.1 ≠ id })
    (hkept : answer = false → world' = world) :
  Removal id world history answer world'
  where
  answer_iff := by rw [hanswer, h.mem_ids_iff, h.tried_iff]
  removed := hremoved
  kept := hkept

/-- A request to remove an observer is answered. -/
theorem unsubscribe (h : Settled world history) {id : Nat} {answer : Bool}
    (hremoval : Removal id world history answer world') :
  Settled world' (.answered (.request (.unsubscribe id)) answer world'
    :: .called (.request (.unsubscribe id)) world :: history)
  := by
  have hsubscriptions : History.subscriptions (.answered (.request (.unsubscribe id)) answer world'
      :: .called (.request (.unsubscribe id)) world :: history) = history.subscriptions := by
    simp [History.subscriptions, Moment.collect, History.subscriptionAt]
  cases answer with
  | true =>
    obtain ⟨halive, hid, hfirst⟩ := hremoval.answer_iff.mp rfl
    have hremoved : History.removed (.answered (.request (.unsubscribe id)) true world'
        :: .called (.request (.unsubscribe id)) world :: history) = history.removed ++ [id] := by
      simp [History.removed, Moment.collect, History.removedAt]
    have hids : id ∈ world.ids := by
      rw [h.mem_ids_iff, ← h.tried_iff]
      exact ⟨hid, hfirst⟩
    have hbooked := h.toBooked.unsubscribe hids hsubscriptions hremoved
    rw [← hremoval.removed rfl] at hbooked
    use hbooked
    intro other
    rw [hremoved, History.tried_unsubscribe, h.tried_iff, List.mem_append, List.mem_singleton]
    constructor
    · rintro (⟨rfl, -⟩ | hother)
      · exact .inr rfl
      · exact .inl hother
    · rintro (hother | rfl)
      · exact .inr hother
      · exact .inl ⟨rfl, halive, hid⟩
  | false =>
    have hworld : world' = world := hremoval.kept rfl
    have hremoved : History.removed (.answered (.request (.unsubscribe id)) false world'
        :: .called (.request (.unsubscribe id)) world :: history) = history.removed := by
      simp [History.removed, Moment.collect, History.removedAt]
    -- If the machine is alive and the number was given, the request is not the first of its kind.
    have htried : world.alive = true ∧ id ∈ history.subscribed → history.Tried id := by
      rintro ⟨halive, hid⟩
      by_contra hfirst
      cases hremoval.answer_iff.mpr ⟨halive, hid, hfirst⟩
    constructor
    · apply h.toBooked.congr _ _ hsubscriptions hremoved
      · rw [hworld]
      · rw [hworld]
    · intro other
      rw [hremoved, History.tried_unsubscribe, ← h.tried_iff]
      apply or_iff_right_of_imp
      rintro ⟨rfl, hgiven⟩
      apply htried hgiven

end Settled

end GuardedMachine.Shared
