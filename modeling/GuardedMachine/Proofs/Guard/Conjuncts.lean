import GuardedMachine.Proofs.Guard.Mirror

/-!
# The conjuncts of a guard

A guard is the conjunction of the parts that are no conjunctions themselves and that conjunctions
alone enclose.  `Guard.conjuncts` lists them from left to right with their places
(`mem_conjuncts_iff`).  Evaluating a guard is evaluating its conjuncts one after the other, up to
the first that does not hold (`evaluate_conjuncts`).
-/

namespace GuardedMachine.Guard

/-- A guard inside another one, and the place where it stands. -/
structure Part where
  place : List Nat
  guard : Guard

/-- A part of the child number `i`, as a part of the guard around it. -/
def Part.under (i : Nat) (part : Part) : Part :=
  { part with place := i :: part.place }

mutual

/-- The parts of a guard that are no conjunctions and that only conjunctions enclose, from left to
right. -/
def conjuncts : Guard → List Part
  | .leaf name => [{ place := [], guard := .leaf name }]
  | .not inner => [{ place := [], guard := .not inner }]
  | .and children => conjunctsFrom 0 children
  | .or children => [{ place := [], guard := .or children }]

/-- The conjuncts of several guards, which are the children from number `i` on. -/
def conjunctsFrom (i : Nat) : List Guard → List Part
  | [] => []
  | child :: rest => (conjuncts child).map (Part.under i) ++ conjunctsFrom (i + 1) rest

end

example : (and [leaf "a", and [not (leaf "b"), and []], leaf "c"]).conjuncts =
    [⟨[0], leaf "a"⟩, ⟨[1, 0], not (leaf "b")⟩, ⟨[2], leaf "c"⟩] :=
  rfl

/-! ### Places of conjuncts -/

/-- A conjunct of several guards is a conjunct of one of them. -/
theorem mem_conjunctsFrom {start : Nat} {children : List Guard} {part : Part} :
  part ∈ conjunctsFrom start children
    ↔ ∃ (i : Nat) (child : Guard), children[i]? = some child
      ∧ ∃ inner ∈ child.conjuncts, part = inner.under (start + i)
  := by
  induction children generalizing start with
  | nil => simp [conjunctsFrom]
  | cons child rest ih =>
    rw [conjunctsFrom, List.mem_append, List.mem_map, ih]
    constructor
    · rintro (⟨inner, hinner, rfl⟩ | ⟨i, child', hchild, inner, hinner, rfl⟩)
      · exact ⟨0, child, rfl, inner, hinner, rfl⟩
      · exact ⟨i + 1, child', hchild, inner, hinner, by rw [Nat.add_right_comm, Nat.add_assoc]⟩
    · rintro ⟨i, child', hchild, inner, hinner, rfl⟩
      cases i with
      | zero =>
        obtain rfl := Option.some.inj hchild
        exact Or.inl ⟨inner, hinner, rfl⟩
      | succ i =>
        exact Or.inr ⟨i, child', hchild, inner, hinner, by rw [Nat.add_right_comm, Nat.add_assoc]⟩

/-- A guard is a conjunct of itself if it is no conjunction. -/
theorem mem_conjuncts_nil {guard part : Guard} :
  { place := [], guard := part } ∈ guard.conjuncts
    ↔ guard = part ∧ ∀ children, part ≠ .and children
  := by
  cases guard with
  | and children =>
    rw [conjuncts, mem_conjunctsFrom]
    constructor
    · rintro ⟨_, _, _, _, _, hpart⟩
      cases hpart
    · rintro ⟨rfl, hne⟩
      exact absurd rfl (hne children)
  | _ => simp +contextual [conjuncts, eq_comm]

/-- A conjunct below the root is one of a member of a conjunction. -/
theorem mem_conjuncts_cons {guard part : Guard} {i : Nat} {place : List Nat} :
  { place := i :: place, guard := part } ∈ guard.conjuncts
    ↔ ∃ children child, guard = .and children ∧ children[i]? = some child
      ∧ { place, guard := part } ∈ child.conjuncts
  := by
  cases guard with
  | and children =>
    rw [conjuncts, mem_conjunctsFrom]
    constructor
    · rintro ⟨j, child, hchild, inner, hinner, hpart⟩
      rw [Nat.zero_add, Part.under] at hpart
      obtain ⟨⟨rfl, rfl⟩, rfl⟩ := Part.mk.inj hpart
      exact ⟨children, child, rfl, hchild, hinner⟩
    · rintro ⟨children', child, hguard, hchild, hmem⟩
      cases hguard
      exact ⟨i, child, hchild, _, hmem, by rw [Nat.zero_add, Part.under]⟩
  | _ => simp [conjuncts]

/-- A part is a conjunct if it is no conjunction and only conjunctions enclose it. -/
theorem mem_conjuncts_iff {guard part : Guard} {place : List Nat} :
  { place, guard := part } ∈ guard.conjuncts
    ↔ guard.node? place = some part ∧ (∀ children, part ≠ .and children)
      ∧ ∀ above i below, place = above ++ i :: below →
        ∃ children, guard.node? above = some (.and children)
  := by
  induction place generalizing guard with
  | nil => simp [mem_conjuncts_nil]
  | cons i place ih =>
    rw [mem_conjuncts_cons]
    constructor
    · rintro ⟨children, child, rfl, hchild, hmem⟩
      obtain ⟨hnode, hne, henclosing⟩ := ih.mp hmem
      have hbelow : (and children).children[i]? = some child := hchild
      rw [node?_cons, hbelow, Option.bind_some]
      use hnode, hne
      intro above j below hplace
      cases above with
      | nil => exact ⟨children, rfl⟩
      | cons k above =>
        obtain ⟨rfl, rfl⟩ := List.cons.inj hplace
        rw [node?_cons, hbelow, Option.bind_some]
        exact henclosing above j below rfl
    · rintro ⟨hnode, hne, henclosing⟩
      obtain ⟨children, hguard⟩ := henclosing [] i place rfl
      obtain rfl := Option.some.inj hguard
      rw [node?_cons, Option.bind_eq_some_iff] at hnode
      obtain ⟨child, hchild, hnode⟩ := hnode
      use children, child, rfl, hchild
      apply ih.mpr
      use hnode, hne
      intro above j below hplace
      obtain ⟨children', hand⟩ := henclosing (i :: above) j below (by rw [hplace, List.cons_append])
      rw [node?_cons, hchild, Option.bind_some] at hand
      exact ⟨children', hand⟩

/-! ### Evaluating conjuncts -/

section

variable {m : Type → Type} [Monad m] [LawfulMonad m] (check : String → m Bool)

/-- Answering what a program answers is running the program. -/
theorem answer_bind (program : m Bool) :
  (program >>= fun allow => if allow then pure true else pure false) = program
  := by
  calc
    _ = program >>= pure := by
      congr 1
      funext allow
      cases allow <;> rfl
    _ = program := bind_pure program

theorem evaluateAll_singleton (guard : Guard) :
  evaluateAll check [guard] = guard.evaluate check
  := answer_bind (guard.evaluate check)

/-- Of two lists of guards the second is decided if all guards of the first hold. -/
theorem evaluateAll_append (first rest : List Guard) :
  evaluateAll check (first ++ rest) = do
    let allow ← evaluateAll check first
    if allow then evaluateAll check rest else return false
  := by
  induction first with
  | nil => simp [evaluateAll]
  | cons child first ih =>
    rw [List.cons_append, evaluateAll, evaluateAll, bind_assoc]
    congr 1
    funext allow
    cases allow with
    | false => simp
    | true => simpa using ih

theorem map_guard_under (i : Nat) (parts : List Part) :
  (parts.map (Part.under i)).map Part.guard = parts.map Part.guard
  := by
  rw [List.map_map]
  rfl

mutual

/-- Evaluating a guard is evaluating its conjuncts from left to right, up to the first that does not
hold. -/
theorem evaluate_conjuncts : ∀ guard : Guard,
  guard.evaluate check = evaluateAll check (guard.conjuncts.map Part.guard)
  | .leaf _ => (evaluateAll_singleton check _).symm
  | .not _ => (evaluateAll_singleton check _).symm
  | .and children => by rw [evaluate, conjuncts, evaluateAll_conjunctsFrom 0 children]
  | .or _ => (evaluateAll_singleton check _).symm

theorem evaluateAll_conjunctsFrom (start : Nat) : ∀ children : List Guard,
  evaluateAll check children = evaluateAll check ((conjunctsFrom start children).map Part.guard)
  | [] => rfl
  | child :: rest => by
      -- the conjuncts of a child form one block, which is decided as the child is
      rw [conjunctsFrom, List.map_append, map_guard_under, evaluateAll_append,
        ← evaluate_conjuncts child, ← evaluateAll_conjunctsFrom (start + 1) rest, evaluateAll]

end

end

variable (truth : String → Bool)

/-- A guard holds when its conjuncts do. -/
theorem holds_eq_all_conjuncts (guard : Guard) :
  guard.holds truth = guard.conjuncts.all fun part => part.guard.holds truth
  := by
  have hand : guard.holds truth = (and (guard.conjuncts.map Part.guard)).holds truth := by
    rw [holds, evaluate_conjuncts]
    rfl
  rw [hand, holds_and, List.all_map]
  rfl

/-! ### The conjunct that fails -/

/-- The first conjunct that does not hold. -/
def culprit? (guard : Guard) : Option Part :=
  guard.conjuncts.find? fun part => !part.guard.holds truth

/-- A guard holds when no conjunct fails. -/
theorem culprit?_eq_none {guard : Guard} :
  guard.culprit? truth = none ↔ guard.holds truth = true
  := by
  rw [culprit?, List.find?_eq_none, holds_eq_all_conjuncts, List.all_eq_true]
  simp

/-- A guard that does not hold has a conjunct that fails. -/
theorem exists_culprit_iff {guard : Guard} :
  (∃ culprit, guard.culprit? truth = some culprit) ↔ guard.holds truth = false
  := by
  rw [← Option.ne_none_iff_exists', ne_eq, culprit?_eq_none, Bool.not_eq_true]

/-- The first conjunct that fails among those of several guards is that of the first guard that
does not hold. -/
theorem find?_conjunctsFrom (start : Nat) (children : List Guard) :
  (conjunctsFrom start children).find? (fun part => !part.guard.holds truth)
    = (children.findIdx? fun child => !child.holds truth).bind fun i =>
        children[i]?.bind fun child => (child.culprit? truth).map (Part.under (start + i))
  := by
  induction children generalizing start with
  | nil => rfl
  | cons child rest ih =>
    have hchild : (child.conjuncts.map (Part.under start)).find?
        (fun part => !part.guard.holds truth) = (child.culprit? truth).map (Part.under start) := by
      rw [List.find?_map]
      rfl
    rw [conjunctsFrom, List.find?_append, hchild, List.findIdx?_cons, ih]
    cases hholds : child.holds truth with
    | true =>
      rw [(culprit?_eq_none truth).mpr hholds, Option.map_none, Option.none_or, Bool.not_true,
        if_neg Bool.false_ne_true, Option.bind_map]
      congr 1
      funext i
      rw [Function.comp_apply, List.getElem?_cons_succ, Nat.add_right_comm, Nat.add_assoc]
    | false =>
      obtain ⟨culprit, hculprit⟩ := (exists_culprit_iff truth).mpr hholds
      simp [hculprit]

/-- The culprit of a conjunction is that of the member that decides it. -/
theorem culprit?_and (children : List Guard) :
  (and children).culprit? truth = ((and children).decider? truth).bind fun i =>
    children[i]?.bind fun child => (child.culprit? truth).map (Part.under i)
  := by
  rw [culprit?, conjuncts, find?_conjunctsFrom]
  simp only [Nat.zero_add]
  rfl

/-- A guard that is no conjunction and does not hold is its own culprit. -/
theorem culprit?_of_not_and {guard : Guard} (h : ∀ children, guard ≠ .and children) :
  guard.culprit? truth
    = if guard.holds truth then none else some { place := [], guard }
  := by
  have hconjuncts : guard.conjuncts = [{ place := [], guard }] := by
    cases guard with
    | and children => exact absurd rfl (h children)
    | leaf name => rfl
    | not inner => rfl
    | or children => rfl
  rw [culprit?, hconjuncts, List.find?_singleton]
  cases guard.holds truth <;> rfl

end GuardedMachine.Guard
