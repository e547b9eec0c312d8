import GuardedMachine.Event

/-!
# Events as JSON

An event is written as one flat object, in which a key `type` of the payload takes the place of the
kind.  So an event reads back as it is exactly if its payload has no such key, and no event that is
read has one: `Event.ofJson?_toJson_iff`, `Event.get?_type_of_ofJson?`.  For events that are put
together entry by entry this is `Event.assembled_restored`.
-/

namespace GuardedMachine

namespace Event

/-! ### Payloads -/

/-- A key has no value after entries are put into a payload if it had none before and is the key of
none of them. -/
theorem get?_foldl_put_eq_none {event : Event} {entries : List (String × Json)} {key : String} :
  (entries.foldl (fun event (key, value) => event.put key value) event).get? key = none
    ↔ event.get? key = none ∧ ∀ entry ∈ entries, entry.1 ≠ key
  := by
  induction entries generalizing event with
  | nil => simp
  | cons entry rest ih =>
    rw [List.foldl_cons, ih, List.forall_mem_cons, ← and_assoc]
    apply and_congr_left
    intro _
    by_cases hentry : entry.1 = key
    · simp [hentry]
    · simp [hentry, get?_put_of_ne hentry]

theorem get?_assemble_eq_none {kind : String} {entries : List (String × Json)} {key : String} :
  (assemble kind entries).get? key = none ↔ ∀ entry ∈ entries, entry.1 ≠ key
  := by
  rw [assemble, get?_foldl_put_eq_none]
  apply and_iff_right
  rfl

/-! ### Reading -/

/-- No event that is read has a key `type` in its payload. -/
theorem get?_type_of_ofJson? {json : Json} {event : Event} (h : ofJson? json = some event) :
  event.get? "type" = none
  := by
  unfold ofJson? at h
  split at h
  · split at h
    · cases h
      apply Members.get?_erase_self
    · cases h
  · cases h

/-- An event whose payload has a key `type` is read with the value of that key for its kind, if the
value is a string, and is not read otherwise. -/
theorem ofJson?_toJson_of_type {event : Event} {value : Json}
    (htype : event.get? "type" = some value) :
  ofJson? event.toJson
    = value.string?.map fun kind => { kind, payload := Members.erase "type" event.payload }
  := by
  have hwritten : event.toJson = .obj event.payload := by
    rw [toJson, htype]
  rw [get?] at htype
  rw [hwritten, ofJson?, htype]
  cases value <;> rfl

/-- An event reads back as it is if and only if its payload has no key `type`. -/
theorem ofJson?_toJson_iff {event : Event} :
  ofJson? event.toJson = some event ↔ event.get? "type" = none
  := by
  constructor
  · intro hread
    apply get?_type_of_ofJson? hread
  · intro htype
    have hwritten : event.toJson = .obj (Members.put "type" (.str event.kind) event.payload) := by
      rw [toJson, htype]
    rw [hwritten, ofJson?, Members.get?_put_self, Members.erase_put, Members.erase_eq_self htype]

/-- An event put together from a kind and entries reads back as it is if and only if no entry has
the key `type`.  If the payload has a value of that key, it is taken for the kind and taken out of the
payload when it is a string, and nothing is read when it is not. -/
theorem assembled_restored (kind : String) (entries : List (String × Json)) :
  (ofJson? (assemble kind entries).toJson = some (assemble kind entries)
      ↔ ∀ entry ∈ entries, entry.1 ≠ "type")
    ∧ ∀ value, (assemble kind entries).get? "type" = some value →
      ofJson? (assemble kind entries).toJson
        = value.string?.map fun kind' =>
          { kind := kind', payload := Members.erase "type" (assemble kind entries).payload }
  := by
  constructor
  · rw [ofJson?_toJson_iff, get?_assemble_eq_none]
  · intro value hvalue
    apply ofJson?_toJson_of_type hvalue

/-- An event of kind `FETCH` with an entry `type` is read as an event of another kind that has no
payload. -/
theorem kind_overwritten :
  ofJson? (assemble "FETCH" [("type", .str "X")]).toJson = some (ofKind "X")
    ∧ ofKind "X" ≠ assemble "FETCH" [("type", .str "X")]
  := by
  constructor
  · rfl
  · decide

end Event

end GuardedMachine
