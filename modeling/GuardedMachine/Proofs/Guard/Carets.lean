import GuardedMachine.Guard.Explanation
import GuardedMachine.Proofs.Guard.Spans

/-!
# Carets stand below the causes

The explanation of a trace is the infix form of its guard and, below it, a line with a caret under
every character in the span of a cause.  The spans are those of `Guard.start` and `Guard.width`,
counted in the whole text, while the cells of the explanation are put together from the parts;
`bright_cells` shows that both light the same characters, and `carets_aligned` says what is written.
-/

namespace GuardedMachine.Trace

/-- The character number `i` of the infix form is in the span of a node that is a cause. -/
def Lit (trace : Trace) (i : Nat) : Prop :=
  ∃ place node, trace.node? place = some node ∧ node.mark.cause = true
    ∧ trace.guard.start place ≤ i ∧ i < trace.guard.start place + node.guard.width

/-- A character is lit by the root, or by a node of a child in whose infix form it stands. -/
theorem lit_iff {trace : Trace} {i : Nat} :
  trace.Lit i ↔ (trace.mark.cause = true ∧ i < trace.guard.width)
    ∨ ∃ (j : Nat) (child : Trace) (k : Nat), trace.children[j]? = some child
      ∧ i = trace.guard.before j + k ∧ child.Lit k
  := by
  have hchildren : ∀ {j : Nat} {child : Trace}, trace.children[j]? = some child →
      trace.guard.children[j]? = some child.guard := by
    intro j child hchild
    rw [children_guard, List.getElem?_map, hchild, Option.map_some]
  constructor
  · rintro ⟨place, node, hnode, hcause, hstart, hend⟩
    cases place with
    | nil =>
      obtain rfl := Option.some.inj hnode
      rw [Guard.start_nil, Nat.zero_add] at hend
      exact Or.inl ⟨hcause, hend⟩
    | cons j place =>
      obtain ⟨child, hchild, hnode⟩ := node?_cons_eq_some.mp hnode
      rw [Guard.start_cons (hchildren hchild)] at hstart hend
      right
      use j, child, i - trace.guard.before j, hchild
      use by omega, place, node, hnode, hcause
      omega
  · rintro (⟨hcause, hend⟩ | ⟨j, child, k, hchild, rfl, place, node, hnode, hcause, hstart, hend⟩)
    · use [], trace, rfl, hcause
      rw [Guard.start_nil, Nat.zero_add]
      exact ⟨Nat.zero_le i, hend⟩
    · use j :: place, node, node?_cons_eq_some.mpr ⟨child, hchild, hnode⟩, hcause
      rw [Guard.start_cons (hchildren hchild)]
      omega

/-- A character that is lit is one of the infix form. -/
theorem lt_width_of_lit {trace : Trace} {i : Nat} (h : trace.Lit i) :
  i < trace.guard.width
  := by
  obtain ⟨place, node, hnode, -, -, hend⟩ := h
  have hplace : trace.guard.node? place = some node.guard := by
    rw [node?_guard, hnode, Option.map_some]
  exact Nat.lt_of_lt_of_le hend (Guard.span_le_width hplace)

/-- The character number `i` of several traces, with `sign` between any two neighbours, is lit by a
node of one of them. -/
def LitIn (sign : List Char) (children : List Trace) (i : Nat) : Prop :=
  ∃ (j : Nat) (child : Trace) (k : Nat), children[j]? = some child
    ∧ i = Guard.offset sign (guards children) j + k ∧ child.Lit k

theorem not_litIn_nil (sign : List Char) (i : Nat) :
  ¬ LitIn sign [] i
  := by
  rintro ⟨j, child, k, hchild, -⟩
  cases hchild

theorem litIn_cons {sign : List Char} {child : Trace} {rest : List Trace} {i : Nat} :
  LitIn sign (child :: rest) i
    ↔ child.Lit i ∨ ∃ k, i = child.guard.width + sign.length + k ∧ LitIn sign rest k
  := by
  constructor
  · rintro ⟨j, child', k, hchild, rfl, hlit⟩
    cases j with
    | zero =>
      obtain rfl := Option.some.inj hchild
      rw [guards, Guard.offset, Nat.zero_add]
      exact Or.inl hlit
    | succ j =>
      rw [guards, Guard.offset, Nat.add_assoc]
      exact Or.inr ⟨_, rfl, j, child', k, hchild, rfl, hlit⟩
  · rintro (hlit | ⟨_, rfl, j, child', k, hchild, rfl, hlit⟩)
    · exact ⟨0, child, i, rfl, (Nat.zero_add i).symm, hlit⟩
    · use j + 1, child', k, hchild
      rw [guards, Guard.offset, Nat.add_assoc _ _ k]
      exact ⟨rfl, hlit⟩

/-- In a negation that is no cause, the characters of the inner node are lit one further. -/
theorem lit_not_iff {mark : Mark} {inner : Trace} {i : Nat} (hcause : mark.cause = false) :
  (not mark inner).Lit i ↔ ∃ k, i = 1 + k ∧ inner.Lit k
  := by
  rw [lit_iff]
  constructor
  · rintro (⟨htrue, -⟩ | ⟨j, child, k, hchild, rfl, hlit⟩)
    · cases hcause.symm.trans htrue
    · obtain rfl := List.mem_singleton.mp (List.mem_of_getElem? hchild)
      exact ⟨k, rfl, hlit⟩
  · rintro ⟨k, rfl, hlit⟩
    exact Or.inr ⟨0, inner, k, rfl, rfl, hlit⟩

/-- In a node that is no cause and puts its children in brackets, the characters of the children
are lit one further. -/
theorem lit_group_iff {trace : Trace} {sign : List Char} {i : Nat}
    (hcause : trace.mark.cause = false)
    (hbefore : ∀ j, trace.guard.before j = 1 + Guard.offset sign (guards trace.children) j) :
  trace.Lit i ↔ ∃ k, i = 1 + k ∧ LitIn sign trace.children k
  := by
  rw [lit_iff, hcause]
  constructor
  · rintro (⟨hcause, -⟩ | ⟨j, child, k, hchild, rfl, hlit⟩)
    · cases hcause
    · rw [hbefore, Nat.add_assoc]
      exact ⟨_, rfl, j, child, k, hchild, rfl, hlit⟩
  · rintro ⟨_, rfl, j, child, k, hchild, rfl, hlit⟩
    right
    use j, child, k, hchild
    rw [hbefore, Nat.add_assoc]
    exact ⟨rfl, hlit⟩

/-! ### Bright cells -/

/-- The cell number `i` is lit. -/
def Bright (cells : List (Char × Bool)) (i : Nat) : Prop :=
  cells[i]?.map Prod.snd = some true

theorem bright_append {front back : List (Char × Bool)} {i : Nat} :
  Bright (front ++ back) i ↔ Bright front i ∨ ∃ k, i = front.length + k ∧ Bright back k
  := by
  rw [Bright, List.getElem?_append]
  split
  next hlt =>
    constructor
    · exact Or.inl
    · rintro (hfront | ⟨k, rfl, -⟩)
      · exact hfront
      · omega
  next hge =>
    have hnone : front[i]? = none := List.getElem?_eq_none (Nat.le_of_not_lt hge)
    constructor
    · intro hback
      exact Or.inr ⟨i - front.length, by omega, hback⟩
    · rintro (hfront | ⟨k, rfl, hback⟩)
      · rw [Bright, hnone] at hfront
        cases hfront
      · rwa [Nat.add_sub_cancel_left]

@[simp]
theorem length_paint (lit : Bool) (text : List Char) :
  (paint lit text).length = text.length
  := List.length_map _

@[simp]
theorem bright_paint {lit : Bool} {text : List Char} {i : Nat} :
  Bright (paint lit text) i ↔ lit = true ∧ i < text.length
  := by
  rw [Bright, paint, List.getElem?_map, Option.map_map]
  cases htext : text[i]? with
  | none => simp [List.getElem?_eq_none_iff.mp htext]
  | some c =>
    obtain ⟨hlt, -⟩ := List.getElem?_eq_some_iff.mp htext
    simp [hlt]

/-! ### The characters of the cells -/

@[simp]
theorem code_append (front back : List (Char × Bool)) :
  code (front ++ back) = code front ++ code back
  := List.map_append

@[simp]
theorem code_paint (lit : Bool) (text : List Char) :
  code (paint lit text) = text
  := by
  rw [code, paint, List.map_map]
  apply List.map_id

theorem cellsOf_cons_cons (lit : Bool) (sign : List Char) (first next : Trace) (rest : List Trace) :
  cellsOf lit sign (first :: next :: rest)
    = cells lit first ++ paint lit sign ++ cellsOf lit sign (next :: rest)
  := rfl

mutual

/-- The characters of the cells are the infix form. -/
@[simp]
theorem code_cells : ∀ (trace : Trace) (lit : Bool),
  code (cells lit trace) = trace.guard.symbols
  | .leaf mark name, lit => by rw [cells, code_paint, guard, Guard.symbols]
  | .not mark inner, lit => by
      rw [cells, code_append, code_paint, code_cells inner, guard, Guard.symbols]
      rfl
  | .and mark children, lit => by
      rw [cells, code_append, code_append, code_paint, code_paint, code_cellsOf, guard,
        Guard.symbols]
      rfl
  | .or mark children, lit => by
      rw [cells, code_append, code_append, code_paint, code_paint, code_cellsOf, guard,
        Guard.symbols]
      rfl

theorem code_cellsOf (sign : List Char) : ∀ (children : List Trace) (lit : Bool),
  code (cellsOf lit sign children) = Guard.symbolsOf sign (guards children)
  | [], _ => rfl
  | [child], lit => code_cells child lit
  | child :: next :: rest, lit => by
      rw [cellsOf_cons_cons, code_append, code_append, code_paint, code_cells child,
        code_cellsOf sign (next :: rest)]
      rfl

end

@[simp]
theorem length_cells (trace : Trace) (lit : Bool) :
  (cells lit trace).length = trace.guard.width
  := by
  rw [Guard.width, ← code_cells trace lit, code, List.length_map]

/-! ### Cells inside a cause -/

theorem paint_append (lit : Bool) (front back : List Char) :
  paint lit (front ++ back) = paint lit front ++ paint lit back
  := List.map_append

mutual

/-- Inside a cause everything is lit. -/
theorem cells_true : ∀ trace : Trace,
  cells true trace = paint true trace.guard.symbols
  | .leaf mark name => by rw [cells, Bool.true_or, guard, Guard.symbols]
  | .not mark inner => by
      rw [cells, Bool.true_or, cells_true inner, ← paint_append, guard, Guard.symbols]
      rfl
  | .and mark children => by
      rw [cells, Bool.true_or, cellsOf_true, ← paint_append, ← paint_append, guard, Guard.symbols]
      rfl
  | .or mark children => by
      rw [cells, Bool.true_or, cellsOf_true, ← paint_append, ← paint_append, guard, Guard.symbols]
      rfl

theorem cellsOf_true (sign : List Char) : ∀ children : List Trace,
  cellsOf true sign children = paint true (Guard.symbolsOf sign (guards children))
  | [] => rfl
  | [child] => cells_true child
  | child :: next :: rest => by
      rw [cellsOf_cons_cons, cells_true child, cellsOf_true sign (next :: rest), ← paint_append,
        ← paint_append]
      rfl

end

/-- In the span of a cause everything is lit. -/
theorem cells_of_cause {trace : Trace} (h : trace.mark.cause = true) :
  cells false trace = paint true trace.guard.symbols
  := by
  rw [← cells_true]
  cases trace with
  | leaf mark name => simp only [cells, show mark.cause = true from h, Bool.or_true]
  | not mark inner => simp only [cells, show mark.cause = true from h, Bool.or_true]
  | and mark children => simp only [cells, show mark.cause = true from h, Bool.or_true]
  | or mark children => simp only [cells, show mark.cause = true from h, Bool.or_true]

/-! ### Lit cells -/

/-- The cells of a cause are lit as its span tells. -/
theorem bright_of_cause {trace : Trace} (h : trace.mark.cause = true) (i : Nat) :
  Bright (cells false trace) i ↔ trace.Lit i
  := by
  rw [cells_of_cause h, bright_paint]
  constructor
  · exact fun hlt => lit_iff.mpr (Or.inl ⟨h, hlt.2⟩)
  · exact fun hlit => ⟨rfl, lt_width_of_lit hlit⟩

/-- After characters that are not lit, the cells are lit as far on. -/
theorem bright_unlit_append {text : List Char} {back : List (Char × Bool)} {i : Nat} :
  Bright (paint false text ++ back) i ↔ ∃ k, i = text.length + k ∧ Bright back k
  := by
  rw [bright_append, bright_paint, length_paint]
  simp

/-- Before characters that are not lit, the cells are lit as they are. -/
theorem bright_append_unlit {front : List (Char × Bool)} {text : List Char} {i : Nat} :
  Bright (front ++ paint false text) i ↔ Bright front i
  := by
  rw [bright_append]
  simp

mutual

/-- The cells that are lit are those in the span of a cause. -/
theorem bright_cells : ∀ (trace : Trace) (i : Nat),
  Bright (cells false trace) i ↔ trace.Lit i
  -- a cause lights its whole span; the other nodes leave it to their children
  | .leaf mark name, i => by
      rw [lit_iff]
      simp [cells, children, Trace.mark, guard, Guard.width, Guard.symbols]
  | .not ⟨_, true⟩ _, i => bright_of_cause rfl i
  | .not ⟨_, false⟩ inner, i => by
      rw [cells, Bool.or_false, bright_unlit_append, lit_not_iff rfl]
      simp only [bright_cells inner]
      rfl
  | .and ⟨_, true⟩ _, i => bright_of_cause rfl i
  | .and ⟨_, false⟩ children, i => by
      rw [cells, Bool.or_false, bright_append_unlit, bright_unlit_append,
        lit_group_iff rfl fun j => rfl]
      simp only [bright_cellsOf]
      rfl
  | .or ⟨_, true⟩ _, i => bright_of_cause rfl i
  | .or ⟨_, false⟩ children, i => by
      rw [cells, Bool.or_false, bright_append_unlit, bright_unlit_append,
        lit_group_iff rfl fun j => rfl]
      simp only [bright_cellsOf]
      rfl

theorem bright_cellsOf (sign : List Char) : ∀ (children : List Trace) (i : Nat),
  Bright (cellsOf false sign children) i ↔ LitIn sign children i
  | [], i => by simp [cellsOf, Bright, not_litIn_nil]
  | [child], i => by simp [cellsOf, bright_cells child, litIn_cons, not_litIn_nil]
  | child :: next :: rest, i => by
      rw [cellsOf_cons_cons, bright_append, bright_append_unlit, bright_cells child, litIn_cons,
        List.length_append, length_cells, length_paint]
      simp only [bright_cellsOf sign (next :: rest)]

end

/-! ### The explanation -/

/-- Some cell is lit if some character of the infix form is. -/
theorem any_cells_iff (trace : Trace) :
  (cells false trace).any (fun cell => cell.2) = true ↔ ∃ i, trace.Lit i
  := by
  simp only [← bright_cells, List.any_eq_true, List.mem_iff_getElem?, Bright]
  constructor
  · rintro ⟨cell, ⟨i, hcell⟩, hlit⟩
    exact ⟨i, by rw [hcell, Option.map_some, hlit]⟩
  · rintro ⟨i, hlit⟩
    obtain ⟨cell, hcell, hlit⟩ := Option.map_eq_some_iff.mp hlit
    exact ⟨cell, ⟨i, hcell⟩, hlit⟩

/-- The line of carets has a caret for every lit character, and a blank for any other one. -/
theorem getElem?_carets {trace : Trace} {i : Nat} (h : i < trace.guard.width) :
  (trace.Lit i → (carets (cells false trace))[i]? = some '^')
    ∧ (¬ trace.Lit i → (carets (cells false trace))[i]? = some ' ')
  := by
  rw [← length_cells trace false] at h
  have hcell := List.getElem?_eq_getElem h
  rw [← bright_cells, Bright, carets, List.getElem?_map, hcell, Option.map_some, Option.map_some]
  cases (cells false trace)[i].2 <;> simp

/-- With a lit character the explanation is the infix form and the line of carets. -/
theorem explanation_of_lit {trace : Trace} (h : ∃ i, trace.Lit i) :
  trace.explanation
    = trace.guard.render ++ "\n" ++ String.ofList (carets (cells false trace))
  := by
  rw [explanation, if_pos ((any_cells_iff trace).mpr h), code_cells, List.append_cons,
    String.ofList_append, String.ofList_append]
  rfl

/-- Without a lit character the explanation is the infix form alone. -/
theorem explanation_of_not_lit {trace : Trace} (h : ¬ ∃ i, trace.Lit i) :
  trace.explanation = trace.guard.render
  := by
  rw [explanation, if_neg (mt (any_cells_iff trace).mp h), code_cells, Guard.render]

/-- The explanation of a trace begins with the infix form of its guard.  A line follows it exactly
if some character of the infix form is in the span of a cause.  The line is as long as the infix
form and has a caret below every such character and a blank below every other one. -/
theorem carets_aligned (trace : Trace) :
  ((∃ i < trace.guard.render.length, trace.Lit i) →
      ∃ line : String, trace.explanation = trace.guard.render ++ "\n" ++ line
        ∧ line.length = trace.guard.render.length
        ∧ ∀ i < trace.guard.render.length,
          (trace.Lit i → line.toList[i]? = some '^') ∧ (¬ trace.Lit i → line.toList[i]? = some ' '))
    ∧ ((¬ ∃ i < trace.guard.render.length, trace.Lit i) → trace.explanation = trace.guard.render)
  := by
  have hlength : trace.guard.render.length = trace.guard.width := by
    rw [Guard.render, String.length_ofList, Guard.width]
  rw [hlength]
  constructor
  · rintro ⟨i, -, hlit⟩
    use String.ofList (carets (cells false trace)), explanation_of_lit ⟨i, hlit⟩
    rw [String.length_ofList, String.toList_ofList, carets, List.length_map, length_cells]
    exact ⟨rfl, fun i hi => getElem?_carets hi⟩
  · rintro hnone
    apply explanation_of_not_lit
    rintro ⟨i, hlit⟩
    exact hnone ⟨i, lt_width_of_lit hlit, hlit⟩

end GuardedMachine.Trace
