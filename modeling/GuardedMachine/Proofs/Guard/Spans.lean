import GuardedMachine.Proofs.Guard.Places

/-!
# Spans in the infix form

The infix form of a guard holds the infix forms of all guards inside it.  `Guard.start` tells where
that of the guard at a place begins, counted in characters; `symbols_span` shows that it is there.
-/

namespace GuardedMachine.Guard

/-- The number of characters of the infix form. -/
def width (guard : Guard) : Nat :=
  guard.symbols.length

/-- The number of characters that the first `i` of several guards and the signs after them take. -/
def offset (sign : List Char) : List Guard → Nat → Nat
  | [], _ => 0
  | _ :: _, 0 => 0
  | child :: rest, i + 1 => child.width + sign.length + offset sign rest i

/-- The number of characters of the infix form before the child number `i`. -/
def before : Guard → Nat → Nat
  | .leaf _, _ => 0
  | .not _, _ => 1
  | .and children, i => 1 + offset andSign children i
  | .or children, i => 1 + offset orSign children i

/-- The number of characters of the infix form before the guard at a place. -/
def start : Guard → List Nat → Nat
  | _, [] => 0
  | guard, i :: place =>
    match guard.children[i]? with
    | some child => guard.before i + child.start place
    | none => 0

@[simp]
theorem start_nil (guard : Guard) :
  guard.start [] = 0
  := rfl

theorem start_cons {guard child : Guard} {i : Nat} (h : guard.children[i]? = some child)
    (place : List Nat) :
  guard.start (i :: place) = guard.before i + child.start place
  := by
  rw [start, h]

theorem symbolsOf_cons_cons (sign : List Char) (first next : Guard) (rest : List Guard) :
  symbolsOf sign (first :: next :: rest) = first.symbols ++ sign ++ symbolsOf sign (next :: rest)
  := rfl

/-- Among the characters of several guards those of each guard begin at its offset. -/
theorem symbolsOf_span (sign : List Char) {children : List Guard} {i : Nat} {child : Guard}
    (h : children[i]? = some child) :
  ∃ front back, symbolsOf sign children = front ++ child.symbols ++ back
    ∧ front.length = offset sign children i
  := by
  induction children generalizing i with
  | nil => cases h
  | cons first rest ih =>
    cases i with
    | zero =>
      obtain rfl := Option.some.inj h
      cases rest with
      | nil => exact ⟨[], [], (List.append_nil _).symm, rfl⟩
      | cons next rest =>
        exact ⟨[], sign ++ symbolsOf sign (next :: rest), List.append_assoc _ _ _, rfl⟩
    | succ i =>
      obtain ⟨front, back, hsymbols, hlength⟩ := ih h
      cases rest with
      | nil => cases h
      | cons next rest =>
        use first.symbols ++ sign ++ front, back
        rw [symbolsOf_cons_cons, hsymbols]
        simp [hlength, offset, width, Nat.add_assoc]

/-- In brackets, the characters of each of several guards begin one further. -/
theorem group_span (sign : List Char) {children : List Guard} {i : Nat} {child : Guard}
    (h : children[i]? = some child) :
  ∃ front back, '(' :: symbolsOf sign children ++ [')'] = front ++ child.symbols ++ back
    ∧ front.length = 1 + offset sign children i
  := by
  obtain ⟨front, back, hsymbols, hlength⟩ := symbolsOf_span sign h
  use '(' :: front, back ++ [')']
  rw [hsymbols, List.length_cons, hlength, Nat.add_comm]
  simp

/-- The infix form of a guard holds that of each child. -/
theorem symbols_child {guard child : Guard} {i : Nat} (h : guard.children[i]? = some child) :
  ∃ front back, guard.symbols = front ++ child.symbols ++ back ∧ front.length = guard.before i
  := by
  cases guard with
  | leaf name => cases h
  | not inner =>
    obtain ⟨hlt, rfl⟩ := List.getElem?_eq_some_iff.mp h
    obtain rfl : i = 0 := Nat.lt_one_iff.mp hlt
    exact ⟨['!'], [], (List.append_nil _).symm, rfl⟩
  | and children => exact group_span andSign h
  | or children => exact group_span orSign h

/-- The infix form of a guard holds that of the guard at a place, which begins at `start`. -/
theorem symbols_span {guard part : Guard} {place : List Nat} (h : guard.node? place = some part) :
  ∃ front back, guard.symbols = front ++ part.symbols ++ back ∧ front.length = guard.start place
  := by
  induction place generalizing guard with
  | nil =>
    obtain rfl := Option.some.inj h
    exact ⟨[], [], (List.append_nil _).symm, rfl⟩
  | cons i place ih =>
    obtain ⟨child, hchild, hnode⟩ := Option.bind_eq_some_iff.mp h
    obtain ⟨front, back, hsymbols, hlength⟩ := symbols_child hchild
    obtain ⟨front', back', hsymbols', hlength'⟩ := ih hnode
    use front ++ front', back' ++ back
    rw [start_cons hchild, hsymbols, hsymbols', List.length_append, hlength, hlength']
    simp

/-- The span of a guard at a place ends inside the infix form. -/
theorem span_le_width {guard part : Guard} {place : List Nat} (h : guard.node? place = some part) :
  guard.start place + part.width ≤ guard.width
  := by
  obtain ⟨front, back, hsymbols, hlength⟩ := symbols_span h
  rw [← hlength, width, width, hsymbols, List.length_append, List.length_append]
  apply Nat.le_add_right

end GuardedMachine.Guard
