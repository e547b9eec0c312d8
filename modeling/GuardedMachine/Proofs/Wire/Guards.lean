import GuardedMachine.Guard.Wire
import Mathlib.Tactic.Use

/-!
# Guards as JSON, exactly

`Guard.Written` says which JSON value a guard is written as, form by form.  Writing a guard gives
this value and reading gives the guard back, and nothing else is read: `Guard.wire_exact`.
-/

namespace GuardedMachine

namespace Guard

mutual

/-- The JSON value that a guard is written as: an object whose one key names the form. -/
inductive Written : Guard → Json → Prop where
  | leaf (name : String) : Written (.leaf name) (.obj [("leaf", .str name)])
  | not {inner : Guard} {value : Json} (hinner : Written inner value) :
    Written (.not inner) (.obj [("not", value)])
  | and {children : List Guard} {items : List Json} (hchildren : WrittenAll children items) :
    Written (.and children) (.obj [("and", .arr items)])
  | or {children : List Guard} {items : List Json} (hchildren : WrittenAll children items) :
    Written (.or children) (.obj [("or", .arr items)])

/-- The JSON values that several guards are written as. -/
inductive WrittenAll : List Guard → List Json → Prop where
  | nil : WrittenAll [] []
  | cons {child : Guard} {item : Json} {rest : List Guard} {items : List Json}
    (hchild : Written child item) (hrest : WrittenAll rest items) :
    WrittenAll (child :: rest) (item :: items)

end

/-! ### Writing -/

mutual

theorem written_toJson : ∀ guard : Guard,
  Written guard guard.toJson
  | .leaf name => .leaf name
  | .not inner => .not (written_toJson inner)
  | .and children => .and (writtenAll_toJsons children)
  | .or children => .or (writtenAll_toJsons children)

theorem writtenAll_toJsons : ∀ children : List Guard,
  WrittenAll children (toJsons children)
  | [] => .nil
  | child :: rest => .cons (written_toJson child) (writtenAll_toJsons rest)

end

mutual

/-- A guard is written as one value only. -/
theorem Written.toJson_eq {guard : Guard} {json : Json} : Written guard json →
  guard.toJson = json
  | .leaf name => rfl
  | .not hinner => by
    rw [toJson, hinner.toJson_eq]
  | .and hchildren => by
    rw [toJson, hchildren.toJsons_eq]
  | .or hchildren => by
    rw [toJson, hchildren.toJsons_eq]

theorem WrittenAll.toJsons_eq {children : List Guard} {items : List Json} :
  WrittenAll children items →
  toJsons children = items
  | .nil => rfl
  | .cons hchild hrest => by
    rw [toJsons, hchild.toJson_eq, hrest.toJsons_eq]

end

/-! ### Reading -/

mutual

/-- The value that a guard is written as is read as this guard. -/
theorem Written.ofJson?_eq {guard : Guard} {json : Json} : Written guard json →
  ofJson? json = some guard
  | .leaf name => rfl
  | .not hinner => by
    simp [ofJson?, hinner.ofJson?_eq]
  | .and hchildren => by
    simp [ofJson?, ofItems?, hchildren.ofJsons?_eq]
  | .or hchildren => by
    simp [ofJson?, ofItems?, hchildren.ofJsons?_eq]

theorem WrittenAll.ofJsons?_eq {children : List Guard} {items : List Json} :
  WrittenAll children items →
  ofJsons? items = some children
  | .nil => rfl
  | .cons hchild hrest => by
    rw [ofJsons?, hchild.ofJson?_eq, hrest.ofJsons?_eq]

end

mutual

/-- A guard is read from no other value than the one it is written as. -/
theorem written_of_ofJson? : ∀ {json : Json} {guard : Guard}, ofJson? json = some guard →
  Written guard json
  | .obj [(key, value)], guard, h => by
    rw [ofJson?] at h
    split at h
    case isTrue hkey =>
      obtain ⟨name, hname, rfl⟩ := Option.map_eq_some_iff.mp h
      rw [hkey, Json.string?_eq_some hname]
      exact .leaf name
    case isFalse =>
      split at h
      case isTrue hkey =>
        obtain ⟨inner, hinner, rfl⟩ := Option.map_eq_some_iff.mp h
        rw [hkey]
        exact .not (written_of_ofJson? hinner)
      case isFalse =>
        split at h
        case isTrue hkey =>
          obtain ⟨children, hchildren, rfl⟩ := Option.map_eq_some_iff.mp h
          obtain ⟨items, rfl, hwritten⟩ := writtenAll_of_ofItems? hchildren
          rw [hkey]
          exact .and hwritten
        case isFalse =>
          split at h
          case isTrue hkey =>
            obtain ⟨children, hchildren, rfl⟩ := Option.map_eq_some_iff.mp h
            obtain ⟨items, rfl, hwritten⟩ := writtenAll_of_ofItems? hchildren
            rw [hkey]
            exact .or hwritten
          case isFalse => cases h
  -- No other value is an object with a single key.
  | .null, _, h => by cases h
  | .bool _, _, h => by cases h
  | .num _, _, h => by cases h
  | .str _, _, h => by cases h
  | .arr _, _, h => by cases h
  | .obj [], _, h => by cases h
  | .obj (_ :: _ :: _), _, h => by cases h

theorem writtenAll_of_ofItems? : ∀ {value : Json} {children : List Guard},
  ofItems? value = some children →
  ∃ items, value = .arr items ∧ WrittenAll children items
  | .arr items, children, h => by
    rw [ofItems?] at h
    exact ⟨items, rfl, writtenAll_of_ofJsons? h⟩
  | .null, _, h => by cases h
  | .bool _, _, h => by cases h
  | .num _, _, h => by cases h
  | .str _, _, h => by cases h
  | .obj _, _, h => by cases h

theorem writtenAll_of_ofJsons? : ∀ {items : List Json} {children : List Guard},
  ofJsons? items = some children →
  WrittenAll children items
  | [], _, h => by
    cases h
    exact .nil
  | item :: items, _, h => by
    rw [ofJsons?] at h
    split at h
    · next child rest hchild hrest =>
      cases h
      exact .cons (written_of_ofJson? hchild) (writtenAll_of_ofJsons? hrest)
    · cases h

end

/-! ### What can be read -/

/-- Whether a value is read as a guard. -/
def Readable (json : Json) : Prop :=
  ∃ guard, ofJson? json = some guard

/-- An object with exactly one key that is `leaf`, with a string, or `not`, with a value that is read
as a guard, or `and` or `or`, with an array of values that are. -/
def Formed (json : Json) : Prop :=
  ∃ key value, json = .obj [(key, value)] ∧
    (key = "leaf" ∧ (∃ name, value = .str name)
      ∨ key = "not" ∧ Readable value
      ∨ (key = "and" ∨ key = "or") ∧ ∃ items, value = .arr items ∧ ∀ item ∈ items, Readable item)

/-- Values that are each read are read together. -/
theorem exists_writtenAll {items : List Json} (h : ∀ item ∈ items, Readable item) :
  ∃ children, WrittenAll children items
  := by
  induction items with
  | nil => exact ⟨[], .nil⟩
  | cons item rest ih =>
    obtain ⟨⟨child, hchild⟩, hrest⟩ := List.forall_mem_cons.mp h
    obtain ⟨children, hchildren⟩ := ih hrest
    use child :: children
    exact .cons (written_of_ofJson? hchild) hchildren

theorem WrittenAll.readable {children : List Guard} {items : List Json} :
  WrittenAll children items →
  ∀ item ∈ items, Readable item
  | .nil, _, hitem => by cases hitem
  | .cons hchild hrest, item, hitem => by
    rcases List.mem_cons.mp hitem with rfl | hitem
    · exact ⟨_, hchild.ofJson?_eq⟩
    · apply hrest.readable item hitem

theorem Written.formed {guard : Guard} {json : Json} (h : Written guard json) :
  Formed json
  := by
  cases h with
  | leaf name => exact ⟨"leaf", .str name, rfl, .inl ⟨rfl, name, rfl⟩⟩
  | not hinner => exact ⟨"not", _, rfl, .inr (.inl ⟨rfl, _, hinner.ofJson?_eq⟩)⟩
  | and hchildren => exact ⟨"and", _, rfl, .inr (.inr ⟨.inl rfl, _, rfl, hchildren.readable⟩)⟩
  | or hchildren => exact ⟨"or", _, rfl, .inr (.inr ⟨.inr rfl, _, rfl, hchildren.readable⟩)⟩

theorem Formed.exists_written {json : Json} (h : Formed json) :
  ∃ guard, Written guard json
  := by
  obtain ⟨key, value, rfl, hleaf | hnot | hchildren⟩ := h
  · obtain ⟨rfl, name, rfl⟩ := hleaf
    exact ⟨.leaf name, .leaf name⟩
  · obtain ⟨rfl, inner, hinner⟩ := hnot
    exact ⟨.not inner, .not (written_of_ofJson? hinner)⟩
  · obtain ⟨hkey, items, rfl, hitems⟩ := hchildren
    obtain ⟨children, hwritten⟩ := exists_writtenAll hitems
    rcases hkey with rfl | rfl
    · exact ⟨.and children, .and hwritten⟩
    · exact ⟨.or children, .or hwritten⟩

/-- Every guard is read back from its JSON value.  A JSON value is read if and only if it is an
object with one key that names a form and holds what this form needs, and it then is the value that
the guard read from it is written as. -/
theorem wire_exact :
  (∀ guard : Guard, ofJson? guard.toJson = some guard)
    ∧ ∀ json : Json, (Readable json ↔ Formed json)
      ∧ ∀ guard, ofJson? json = some guard → Written guard json ∧ guard.toJson = json
  := by
  constructor
  · intro guard
    apply (written_toJson guard).ofJson?_eq
  · intro json
    constructor
    · constructor
      · rintro ⟨guard, hguard⟩
        apply (written_of_ofJson? hguard).formed
      · intro hformed
        obtain ⟨guard, hwritten⟩ := hformed.exists_written
        use guard, hwritten.ofJson?_eq
    · intro guard hguard
      have hwritten := written_of_ofJson? hguard
      use hwritten, hwritten.toJson_eq

end Guard

end GuardedMachine
