import GuardedMachine.Proofs.Shared.Bodies

/-!
# Writes and what observers are given

The writes of the state of a shared machine are read off the history of a run: the state is written
right before the first observer of a pass is called, or, when there is no observer, right before
the action is answered.  `History.states` lists the initial state and the states that were written,
and `History.given` what an observer was given.  `InOrderOf` says that an observer was given states
that were written and never went back to an earlier write.

`Sound` is the invariant of a run, `Since` says how two moments of it are related, and `Informed`
that the observers know the current state.
-/

namespace GuardedMachine.Shared

variable {S C K M β : Type}

/-! ### Reading a history -/

namespace History

/-- Whether an observer has just returned to the pass that called it. -/
def passing : History S C K M → Bool
  | .answered (.observe _ _ _) _ _ :: _ => true
  | _ => false

/-- The world that a write of the state left right before a moment, if there was one. -/
def writtenAt (moment : Moment (Call S C K) Call.Answer (World S C K M))
    (earlier : History S C K M) : List (World S C K M) :=
  match moment with
  | .called (.observe _ _ _) world => if earlier.passing then [] else [world]
  | .answered (.perform _) true world => if earlier.passing then [] else [world]
  | _ => []

/-- The worlds that the writes of the state left, the first one first. -/
def writes : History S C K M → List (World S C K M)
  | [] => []
  | moment :: earlier => writes earlier ++ writtenAt moment earlier

/-- The initial state and the states that were written, in the order of time. -/
def states (initial : MachineState S C) (history : History S C K M) : List (MachineState S C) :=
  initial :: history.writes.map World.state

/-- The state that an observer is given at a moment. -/
def givenAt (id : Nat) :
    Moment (Call S C K) Call.Answer (World S C K M) → List (MachineState S C)
  | .called (.observe called _ state) _ => if called = id then [state] else []
  | _ => []

/-- The states that an observer was given, in the order of time. -/
def given (id : Nat) (history : History S C K M) : List (MachineState S C) :=
  Moment.collect (givenAt id) history

/-- The action that is answered by `true` at a moment. -/
def acceptedAt : Moment (Call S C K) Call.Answer (World S C K M) → List (Action K)
  | .answered (.perform action) true _ => [action]
  | _ => []

/-- The actions that were answered by `true`, in the order of the answers. -/
def accepted (history : History S C K M) : List (Action K) :=
  Moment.collect acceptedAt history

/-- Whether an action is being performed. -/
def Performing (history : History S C K M) : Prop :=
  ∃ action, .perform action ∈ Moment.openCalls history

end History

/-- Two histories tell the same of writes, answers and observers. -/
structure Alike (history history' : History S C K M) : Prop where
  writes_eq : history'.writes = history.writes
  accepted_eq : history'.accepted = history.accepted
  given_eq : ∀ id, history'.given id = history.given id

theorem Alike.symm {history history' : History S C K M} (h : Alike history history') :
  Alike history' history
  := ⟨h.writes_eq.symm, h.accepted_eq.symm, fun id => (h.given_eq id).symm⟩

section Moments

variable {call : Call S C K} {history history' : History S C K M}

/-- Making a call tells nothing new, unless it is that of an observer. -/
theorem alike_called (hcall : ∀ id token state, call ≠ .observe id token state)
    (world : World S C K M) :
  Alike history (.called call world :: history)
  := by
  cases call with
  | observe id token state => cases hcall id token state rfl
  | _ => exact ⟨List.append_nil _, List.append_nil _, fun _ => List.append_nil _⟩

/-- Answering a call tells nothing new, unless it is that of an action. -/
theorem alike_answered (hcall : ∀ action, call ≠ .perform action) (answer : call.Answer)
    (world : World S C K M) :
  Alike history (.answered call answer world :: history)
  := by
  cases call with
  | perform action => cases hcall action rfl
  | _ => exact ⟨List.append_nil _, List.append_nil _, fun _ => List.append_nil _⟩

theorem performing_continued (h : Moment.Continues history history') :
  history'.Performing ↔ history.Performing
  := by rw [History.Performing, History.Performing, h.openCalls_eq]

/-- An action that is being performed is still being performed when a call is made. -/
theorem performing_called (call : Call S C K) (world : World S C K M)
    (h : history.Performing) :
  History.Performing (.called call world :: history)
  := by
  obtain ⟨action, haction⟩ := h
  exact ⟨action, List.mem_cons_of_mem _ haction⟩

end Moments

/-! ### What observers are given -/

/-- All of `given` stands in `states`, in the order of `states`. -/
def InOrderOf (states given : List β) : Prop :=
  ∃ numbers : List Nat, numbers.Pairwise (· ≤ ·)
    ∧ numbers.map (fun number => states[number]?) = given.map some

section InOrderOf

variable {states given : List β}

/-- What is given is found at its number. -/
theorem lt_length_of_map_eq {numbers : List Nat}
    (h : numbers.map (fun number => states[number]?) = given.map some) {number : Nat}
    (hnumber : number ∈ numbers) :
  number < states.length
  := by
  have hmem : states[number]? ∈ given.map some := by
    rw [← h]
    exact List.mem_map.mpr ⟨number, hnumber, rfl⟩
  obtain ⟨state, -, hstate⟩ := List.mem_map.mp hmem
  exact (List.getElem?_eq_some_iff.mp hstate.symm).1

/-- More may be written. -/
theorem InOrderOf.append (h : InOrderOf states given) (more : List β) :
  InOrderOf (states ++ more) given
  := by
  obtain ⟨numbers, hsorted, hmap⟩ := h
  use numbers, hsorted
  rw [← hmap]
  apply List.map_congr_left
  intro number hnumber
  apply List.getElem?_append_left (lt_length_of_map_eq hmap hnumber)

/-- What was written last may be given next. -/
theorem InOrderOf.give (h : InOrderOf states given) {state : β}
    (hlast : states.getLast? = some state) :
  InOrderOf states (given ++ [state])
  := by
  obtain ⟨numbers, hsorted, hmap⟩ := h
  use numbers ++ [states.length - 1]
  constructor
  · apply List.pairwise_append.mpr
    use hsorted, List.pairwise_singleton _ _
    intro number hnumber last hlast
    obtain rfl := List.mem_singleton.mp hlast
    have hlt := lt_length_of_map_eq hmap hnumber
    omega
  · rw [List.map_append, List.map_append, hmap, List.map_singleton, List.map_singleton,
      ← List.getLast?_eq_getElem?, hlast]

end InOrderOf

/-- The observers that were subscribed at the last write, and still are, were given the current
state last, except those that are pending. -/
def Informed (pending : List Nat) (world : World S C K M) (history : History S C K M) : Prop :=
  ∀ written, history.writes.getLast? = some written → ∀ id ∈ written.ids, id ∈ world.ids →
    id ∉ pending → (history.given id).getLast? = some world.state

/-! ### The invariant -/

/-- The state is the one that was written last, and observers are given states in the order in
which they were written. -/
structure Sound (initial : MachineState S C) (world : World S C K M) (history : History S C K M) :
    Prop where
  state_eq : (history.states initial).getLast? = some world.state
  inOrder : ∀ id, InOrderOf (history.states initial) (history.given id)
  /-- The number of the next observer is new. -/
  ids_lt : ∀ id ∈ world.ids, id < world.nextId
  writes_lt : ∀ written ∈ history.writes, ∀ id ∈ written.ids, id < world.nextId

/-- From one moment to another `count` more writes than answers of `true` have happened, and those
who are new among the observers have new numbers. -/
structure Ahead (count : Nat) (world : World S C K M) (history : History S C K M)
    (world' : World S C K M) (history' : History S C K M) : Prop where
  nextId_le : world.nextId ≤ world'.nextId
  mem_ids : ∀ id ∈ world'.ids, id < world.nextId → id ∈ world.ids
  writes_prefix : history.writes <+: history'.writes
  counted : history'.writes.length + history.accepted.length
    = history.writes.length + history'.accepted.length + count

/-- From one moment to another either nothing was written, and nobody was given a state, or the
observers are informed. -/
structure Since (world : World S C K M) (history : History S C K M) (world' : World S C K M)
    (history' : History S C K M) : Prop extends Ahead 0 world history world' history' where
  still : history'.writes = history.writes →
    world'.state = world.state ∧ ∀ id, history'.given id = history.given id
  informed : history'.writes ≠ history.writes → Informed [] world' history'

variable {initial : MachineState S C} {world world' world'' : World S C K M}
  {history history' history'' : History S C K M} {count count' : Nat} {pending : List Nat}

theorem Ahead.trans (h : Ahead count world history world' history')
    (h' : Ahead count' world' history' world'' history'') :
  Ahead (count + count') world history world'' history''
  where
  nextId_le := Nat.le_trans h.nextId_le h'.nextId_le
  mem_ids id hid hlt :=
    h.mem_ids id (h'.mem_ids id hid (Nat.lt_of_lt_of_le hlt h.nextId_le)) hlt
  writes_prefix := h.writes_prefix.trans h'.writes_prefix
  counted := by
    have hcounted := h.counted
    have hcounted' := h'.counted
    omega

theorem Since.refl (world : World S C K M) (history : History S C K M) :
  Since world history world history
  where
  nextId_le := Nat.le_refl _
  mem_ids _ hid _ := hid
  writes_prefix := List.prefix_refl _
  counted := rfl
  still _ := ⟨rfl, fun _ => rfl⟩
  informed hne := (hne rfl).elim

/-- Those who are informed stay so. -/
theorem Informed.since (h : Informed pending world history) (hsound : Sound initial world history)
    (hsince : Since world history world' history') :
  Informed pending world' history'
  := by
  by_cases hwrites : history'.writes = history.writes
  · obtain ⟨hstate, hgiven⟩ := hsince.still hwrites
    intro written hwritten id hid hid' hpending
    rw [hwrites] at hwritten
    have hlt := hsound.writes_lt written (List.mem_of_getLast? hwritten) id hid
    rw [hgiven, hstate]
    apply h written hwritten id hid (hsince.mem_ids id hid' hlt) hpending
  · intro written hwritten id hid hid' _
    apply hsince.informed hwrites written hwritten id hid hid' List.not_mem_nil

theorem Since.trans (hsound : Sound initial world' history')
    (h : Since world history world' history') (h' : Since world' history' world'' history'') :
  Since world history world'' history''
  where
  toAhead := h.toAhead.trans h'.toAhead
  still heq := by
    have hfirst : history'.writes = history.writes := by
      apply List.IsPrefix.eq_of_length_le _ _ |>.symm
      · apply h.writes_prefix
      · rw [← heq]
        apply h'.writes_prefix.length_le
    obtain ⟨hstate, hgiven⟩ := h.still hfirst
    obtain ⟨hstate', hgiven'⟩ := h'.still (heq.trans hfirst.symm)
    use hstate'.trans hstate
    intro id
    rw [hgiven', hgiven]
  informed hne := by
    by_cases hfirst : history'.writes = history.writes
    · apply h'.informed
      rwa [hfirst]
    · apply (h.informed hfirst).since hsound h'

/-- Soundness depends on what a history tells. -/
theorem Sound.congr (h : Sound initial world history) (halike : Alike history history') :
  Sound initial world history'
  where
  state_eq := by rw [History.states, halike.writes_eq, ← h.state_eq, History.states]
  inOrder id := by
    rw [History.states, halike.writes_eq, halike.given_eq]
    apply h.inOrder
  ids_lt := h.ids_lt
  writes_lt := by
    rw [halike.writes_eq]
    apply h.writes_lt

/-- So does being informed. -/
theorem Informed.congr (h : Informed pending world history) (halike : Alike history history') :
  Informed pending world history'
  := by
  intro written hwritten id
  rw [halike.given_eq]
  rw [halike.writes_eq] at hwritten
  apply h written hwritten

/-- And so does what has happened since. -/
theorem Since.congr {before after : History S C K M} (h : Since world before world' after)
    (hbefore : Alike before history) (hafter : Alike after history') :
  Since world history world' history'
  where
  nextId_le := h.nextId_le
  mem_ids := h.mem_ids
  writes_prefix := by
    rw [hbefore.writes_eq, hafter.writes_eq]
    apply h.writes_prefix
  counted := by
    rw [hbefore.writes_eq, hafter.writes_eq, hbefore.accepted_eq, hafter.accepted_eq]
    apply h.counted
  still heq := by
    rw [hbefore.writes_eq, hafter.writes_eq] at heq
    obtain ⟨hstate, hgiven⟩ := h.still heq
    use hstate
    intro id
    rw [hbefore.given_eq, hafter.given_eq, hgiven]
  informed hne := by
    rw [hbefore.writes_eq, hafter.writes_eq] at hne
    apply (h.informed hne).congr hafter

/-- Observers may come, with new numbers, and go. -/
theorem Sound.of_world (h : Sound initial world history) (hstate : world'.state = world.state)
    (hnext : world.nextId ≤ world'.nextId) (hids : ∀ id ∈ world'.ids, id < world'.nextId) :
  Sound initial world' history
  where
  state_eq := by rw [h.state_eq, hstate]
  inOrder := h.inOrder
  ids_lt := hids
  writes_lt written hwritten id hid :=
    Nat.lt_of_lt_of_le (h.writes_lt written hwritten id hid) hnext

theorem since_of_world (history : History S C K M) (hstate : world'.state = world.state)
    (hnext : world.nextId ≤ world'.nextId)
    (hids : ∀ id ∈ world'.ids, id < world.nextId → id ∈ world.ids) :
  Since world history world' history
  where
  nextId_le := hnext
  mem_ids := hids
  writes_prefix := List.prefix_refl _
  counted := rfl
  still _ := ⟨hstate, fun _ => rfl⟩
  informed hne := (hne rfl).elim

/-! ### Passes -/

/-- The state is written, and the one who is told it, if anyone is, is given the state. -/
theorem Sound.written (h : Sound initial world history)
    (hnext : world'.nextId = world.nextId) (hids : world'.ids = world.ids)
    (hwrites : history'.writes = history.writes ++ [world'])
    (hgiven : ∀ id, history'.given id = history.given id
      ∨ history'.given id = history.given id ++ [world'.state]) :
  Sound initial world' history'
  := by
  have hstates : history'.states initial = history.states initial ++ [world'.state] := by
    rw [History.states, hwrites, List.map_append]
    rfl
  have hlast : (history'.states initial).getLast? = some world'.state := by
    rw [hstates, List.getLast?_concat]
  constructor
  · apply hlast
  · intro id
    have hold := (h.inOrder id).append [world'.state]
    rw [← hstates] at hold
    rcases hgiven id with heq | heq
    · rw [heq]
      apply hold
    · rw [heq]
      apply hold.give hlast
  · rw [hids, hnext]
    apply h.ids_lt
  · intro written hwritten id hid
    rw [hnext]
    rw [hwrites] at hwritten
    rcases List.mem_append.mp hwritten with hold | hnew
    · apply h.writes_lt written hold id hid
    · obtain rfl := List.mem_singleton.mp hnew
      rw [hids] at hid
      apply h.ids_lt id hid

/-- An observer is told the current state. -/
theorem Sound.told (h : Sound initial world history) (hwrites : history'.writes = history.writes)
    (hgiven : ∀ id, history'.given id = history.given id
      ∨ history'.given id = history.given id ++ [world.state]) :
  Sound initial world history'
  where
  state_eq := by rw [History.states, hwrites, ← h.state_eq, History.states]
  inOrder id := by
    rw [History.states, hwrites]
    rcases hgiven id with heq | heq
    · rw [heq]
      apply h.inOrder
    · rw [heq]
      apply (h.inOrder id).give h.state_eq
  ids_lt := h.ids_lt
  writes_lt := by
    rw [hwrites]
    apply h.writes_lt

end GuardedMachine.Shared
