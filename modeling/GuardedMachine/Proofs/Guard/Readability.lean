import GuardedMachine.Proofs.Guard.Conjuncts
import GuardedMachine.Proofs.Guard.Parity

/-!
# Reading the infix form back

The infix form of a guard tells the guard, up to what it does not show: whether a group of fewer than
two members is a conjunction or a disjunction.  `Guard.Alike` relates the guards that differ in this
only.  The names of the leaves have to be plain, that is, not empty and without the characters that
the infix form puts between them.  Then a guard in front of a text ends where its infix form ends,
so the guard and the rest of the text are read off together: `Guard.alike_of_symbols`.

Groups without members are the only ones that mean different things as a conjunction and as a
disjunction, so guards without them that are written alike are evaluated alike:
`Guard.render_identifies`.
-/

namespace GuardedMachine

/-- The characters that the infix form puts around and between names. -/
def reservedSymbols : List Char := [' ', '(', ')', '!', '&', '|']

/-- A name that is not empty and has no character of the infix form. -/
def PlainName (name : String) : Prop :=
  name ≠ "" ∧ ∀ symbol ∈ name.toList, symbol ∉ reservedSymbols

instance (name : String) : Decidable (PlainName name) :=
  @instDecidableAnd _ _ inferInstance (List.decidableBAll _ _)

namespace Guard

/-! ### Guards that are written alike -/

mutual

/-- Two guards are equal up to exchanging conjunctions and disjunctions of fewer than two
members. -/
inductive Alike : Guard → Guard → Prop where
  | leaf (name : String) : Alike (.leaf name) (.leaf name)
  | not {a b : Guard} (hinner : Alike a b) :
    Alike (.not a) (.not b)
  | and {as bs : List Guard} (hchildren : AlikeAll as bs) :
    Alike (.and as) (.and bs)
  | or {as bs : List Guard} (hchildren : AlikeAll as bs) :
    Alike (.or as) (.or bs)
  | andOr {as bs : List Guard} (hshort : as.length < 2) (hchildren : AlikeAll as bs) :
    Alike (.and as) (.or bs)
  | orAnd {as bs : List Guard} (hshort : as.length < 2) (hchildren : AlikeAll as bs) :
    Alike (.or as) (.and bs)

/-- The guards of two lists are alike one by one. -/
inductive AlikeAll : List Guard → List Guard → Prop where
  | nil : AlikeAll [] []
  | cons {a b : Guard} {as bs : List Guard} (hfirst : Alike a b) (hrest : AlikeAll as bs) :
    AlikeAll (a :: as) (b :: bs)

end

mutual

/-- No conjunction and no disjunction in the guard is without members. -/
def Filled : Guard → Prop
  | .leaf _ => True
  | .not inner => Filled inner
  | .and children => children ≠ [] ∧ FilledAll children
  | .or children => children ≠ [] ∧ FilledAll children

/-- None of several guards has a group without members. -/
def FilledAll : List Guard → Prop
  | [] => True
  | child :: rest => Filled child ∧ FilledAll rest

end

/-- The characters of the guards after the first one in a group. -/
def symbolsAfter (sign : List Char) (rest : List Guard) : List Char :=
  rest.flatMap fun child => sign ++ child.symbols

theorem symbolsOf_cons (sign : List Char) (child : Guard) (rest : List Guard) :
  symbolsOf sign (child :: rest) = child.symbols ++ symbolsAfter sign rest
  := by
  induction rest generalizing child with
  | nil => simp [symbolsOf, symbolsAfter]
  | cons next rest ih =>
    rw [symbolsOf, ih next, symbolsAfter, symbolsAfter, List.flatMap_cons]
    simp
    exact List.cons_ne_nil _ _

/-- The sign is not seen in a group of fewer than two members. -/
theorem symbolsOf_short {children : List Guard} (h : children.length < 2) (sign sign' : List Char) :
  symbolsOf sign children = symbolsOf sign' children
  := by
  match children, h with
  | [], _ => rfl
  | [child], _ => rfl

mutual

/-- Guards that are alike have the same infix form. -/
theorem Alike.symbols_eq {a b : Guard} : Alike a b →
  a.symbols = b.symbols
  | .leaf _ => rfl
  | .not hinner => by rw [symbols, symbols, hinner.symbols_eq]
  | .and hchildren => by rw [symbols, symbols, hchildren.symbolsOf_eq]
  | .or hchildren => by rw [symbols, symbols, hchildren.symbolsOf_eq]
  | .andOr hshort hchildren => by
      rw [symbols, symbols, symbolsOf_short hshort andSign orSign, hchildren.symbolsOf_eq]
  | .orAnd hshort hchildren => by
      rw [symbols, symbols, symbolsOf_short hshort orSign andSign, hchildren.symbolsOf_eq]

theorem AlikeAll.symbolsOf_eq {sign : List Char} {as bs : List Guard} : AlikeAll as bs →
  symbolsOf sign as = symbolsOf sign bs
  | .nil => rfl
  | .cons hfirst hrest => by
      rw [symbolsOf_cons, symbolsOf_cons, hfirst.symbols_eq, hrest.symbolsAfter_eq]

theorem AlikeAll.symbolsAfter_eq {sign : List Char} {as bs : List Guard} : AlikeAll as bs →
  symbolsAfter sign as = symbolsAfter sign bs
  | .nil => rfl
  | .cons hfirst hrest => by
      rw [symbolsAfter, symbolsAfter, List.flatMap_cons, List.flatMap_cons, hfirst.symbols_eq]
      congr 1
      apply hrest.symbolsAfter_eq

end

/-! ### Where a name ends -/

/-- A text that does not go on with a character of a name. -/
def Parted (text : List Char) : Prop :=
  ∀ symbol ∈ text.head?, symbol ∈ reservedSymbols

theorem parted_cons {symbol : Char} (h : symbol ∈ reservedSymbols) (text : List Char) :
  Parted (symbol :: text)
  := by
  intro first hfirst
  obtain rfl := Option.some.inj hfirst
  apply h

/-- A plain name is what stands before the first character that is not one of a name. -/
theorem takeWhile_name {name : String} (hplain : PlainName name) {text : List Char}
    (htext : Parted text) :
  (name.toList ++ text).takeWhile (fun symbol => symbol ∉ reservedSymbols) = name.toList
  := by
  have hall : ∀ symbol ∈ name.toList, decide (symbol ∉ reservedSymbols) = true := by
    intro symbol hsymbol
    apply decide_eq_true (hplain.2 symbol hsymbol)
  have hstop : text.takeWhile (fun symbol => symbol ∉ reservedSymbols) = [] := by
    cases text with
    | nil => rfl
    | cons symbol text =>
      apply List.takeWhile_cons_of_neg
      simp [htext symbol rfl]
  rw [List.takeWhile_append_of_pos hall, hstop, List.append_nil]

/-- A plain name and the text after it are read off together. -/
theorem name_of_append {name name' : String} (hplain : PlainName name) (hplain' : PlainName name')
    {s t : List Char} (hs : Parted s) (ht : Parted t) (h : name.toList ++ s = name'.toList ++ t) :
  name = name' ∧ s = t
  := by
  have hname : name.toList = name'.toList := by
    rw [← takeWhile_name hplain hs, h, takeWhile_name hplain' ht]
  rw [hname] at h
  use String.toList_inj.mp hname, List.append_cancel_left h

/-! ### How a guard begins -/

/-- The names of a guard are plain. -/
def Plain (guard : Guard) : Prop :=
  ∀ name ∈ guard.names, PlainName name

instance (guard : Guard) : Decidable guard.Plain :=
  List.decidableBAll _ _

/-- The names of several guards are plain. -/
def PlainAll (guards : List Guard) : Prop :=
  ∀ name ∈ namesOf guards, PlainName name

theorem PlainAll.first {child : Guard} {rest : List Guard} (h : PlainAll (child :: rest)) :
  child.Plain
  := by
  intro name hname
  apply h name
  apply List.mem_append_left _ hname

theorem PlainAll.rest {child : Guard} {rest : List Guard} (h : PlainAll (child :: rest)) :
  PlainAll rest
  := by
  intro name hname
  apply h name
  apply List.mem_append_right _ hname

/-- The sign that the infix form begins with: a name begins with none. -/
def opening : Guard → Option Char
  | .leaf _ => none
  | .not _ => some '!'
  | .and _ => some '('
  | .or _ => some '('

/-- The first character of the infix form tells with which sign it begins. -/
theorem symbols_opening {guard : Guard} (hplain : guard.Plain) :
  ∃ symbol rest, guard.symbols = symbol :: rest
    ∧ guard.opening = if symbol ∈ reservedSymbols then some symbol else none
  := by
  cases guard with
  | leaf name =>
    obtain ⟨hne, hfree⟩ := hplain name List.mem_cons_self
    obtain ⟨symbol, rest, hname⟩ :=
      List.exists_cons_of_ne_nil (mt String.toList_eq_nil_iff.mp hne)
    have hsymbol : symbol ∉ reservedSymbols := by
      apply hfree
      rw [hname]
      apply List.mem_cons_self
    use symbol, rest, hname
    rw [if_neg hsymbol, opening]
  | not inner =>
    use '!', inner.symbols, rfl
    rfl
  | and children =>
    use '(', symbolsOf andSign children ++ [')'], rfl
    rfl
  | or children =>
    use '(', symbolsOf orSign children ++ [')'], rfl
    rfl

/-- Guards in front of the same text begin with the same sign. -/
theorem opening_eq {a b : Guard} (ha : a.Plain) (hb : b.Plain) {s t : List Char}
    (h : a.symbols ++ s = b.symbols ++ t) :
  a.opening = b.opening
  := by
  obtain ⟨symbol, rest, hsymbols, hopening⟩ := symbols_opening ha
  obtain ⟨symbol', rest', hsymbols', hopening'⟩ := symbols_opening hb
  rw [hsymbols, hsymbols'] at h
  obtain ⟨rfl, _⟩ := List.cons.inj h
  rw [hopening, hopening']

/-! ### How a group goes on -/

/-- The sign between the members of a group. -/
def IsSign (sign : List Char) : Prop :=
  sign = andSign ∨ sign = orSign

theorem IsSign.head {sign : List Char} (h : IsSign sign) :
  ∃ rest, sign = ' ' :: rest
  := by
  obtain rfl | rfl := h
  · use ['&', '&', ' ']
    rfl
  · use ['|', '|', ' ']
    rfl

theorem IsSign.length {sign : List Char} (h : IsSign sign) :
  sign.length = 4
  := by
  obtain rfl | rfl := h
  · rfl
  · rfl

/-- The members of a group with the closing bracket and the text after it. -/
def members (sign : List Char) (children : List Guard) (text : List Char) : List Char :=
  symbolsOf sign children ++ ')' :: text

/-- What is left of a group after its first member. -/
def further (sign : List Char) (rest : List Guard) (text : List Char) : List Char :=
  symbolsAfter sign rest ++ ')' :: text

theorem symbols_and_append (children : List Guard) (text : List Char) :
  (and children).symbols ++ text = '(' :: members andSign children text
  := by simp [symbols, members]

theorem symbols_or_append (children : List Guard) (text : List Char) :
  (or children).symbols ++ text = '(' :: members orSign children text
  := by simp [symbols, members]

theorem members_cons (sign : List Char) (child : Guard) (rest : List Guard) (text : List Char) :
  members sign (child :: rest) text = child.symbols ++ further sign rest text
  := by rw [members, symbolsOf_cons, List.append_assoc, further]

theorem further_cons (sign : List Char) (child : Guard) (rest : List Guard) (text : List Char) :
  further sign (child :: rest) text = sign ++ (child.symbols ++ further sign rest text)
  := by simp [further, symbolsAfter]

/-- What follows a member of a group is a sign or the closing bracket. -/
theorem parted_further {sign : List Char} (hsign : IsSign sign) (rest : List Guard)
    (text : List Char) :
  Parted (further sign rest text)
  := by
  cases rest with
  | nil =>
    apply parted_cons
    decide
  | cons next rest =>
    obtain ⟨tail, rfl⟩ := hsign.head
    rw [further_cons]
    apply parted_cons
    decide

/-- A group without members is not written as one with members. -/
theorem members_cons_ne {child : Guard} {rest : List Guard} (hplain : PlainAll (child :: rest))
    (sign : List Char) (s t : List Char) :
  members sign (child :: rest) s ≠ ')' :: t
  := by
  obtain ⟨symbol, tail, hsymbols, hopening⟩ := symbols_opening hplain.first
  intro h
  rw [members_cons, hsymbols] at h
  obtain ⟨rfl, _⟩ := List.cons.inj h
  -- no guard begins with a closing bracket
  cases child <;> cases hopening

/-- A group that goes on is not written as one that ends. -/
theorem further_cons_ne {sign : List Char} (hsign : IsSign sign) (child : Guard)
    (rest : List Guard) (s t : List Char) :
  further sign (child :: rest) s ≠ ')' :: t
  := by
  obtain ⟨tail, rfl⟩ := hsign.head
  rw [further_cons]
  intro h
  cases h

/-! ### Reading a guard off a text -/

mutual

/-- A guard and the text after it are read off together, if the text does not go on with a name:
guards in front of such texts are alike and the texts equal when the characters are the same. -/
theorem alike_of_symbols : ∀ {a b : Guard}, a.Plain → b.Plain → ∀ {s t : List Char},
  Parted s → Parted t → a.symbols ++ s = b.symbols ++ t →
  Alike a b ∧ s = t
  | .leaf name, .leaf name', ha, hb, _, _, hs, ht, h => by
      have hplain := ha name List.mem_cons_self
      have hplain' := hb name' List.mem_cons_self
      obtain ⟨rfl, hrest⟩ := name_of_append hplain hplain' hs ht h
      use .leaf name, hrest
  | .not inner, .not inner', ha, hb, _, _, hs, ht, h => by
      have hsame := (List.cons.inj h).2
      obtain ⟨hinner, hrest⟩ := alike_of_symbols (a := inner) (b := inner') ha hb hs ht hsame
      use .not hinner, hrest
  | .and as, .and bs, ha, hb, _, _, _, _, h => by
      rw [symbols_and_append, symbols_and_append] at h
      obtain ⟨hchildren, hrest, _⟩ :=
        alikeAll_of_members (.inl rfl) (.inl rfl) ha hb (List.cons.inj h).2
      use .and hchildren, hrest
  | .or as, .or bs, ha, hb, _, _, _, _, h => by
      rw [symbols_or_append, symbols_or_append] at h
      obtain ⟨hchildren, hrest, _⟩ :=
        alikeAll_of_members (.inr rfl) (.inr rfl) ha hb (List.cons.inj h).2
      use .or hchildren, hrest
  | .and as, .or bs, ha, hb, _, _, _, _, h => by
      rw [symbols_and_append, symbols_or_append] at h
      obtain ⟨hchildren, hrest, hsign⟩ :=
        alikeAll_of_members (.inl rfl) (.inr rfl) ha hb (List.cons.inj h).2
      have hshort := hsign.resolve_right (by decide)
      use .andOr hshort hchildren, hrest
  | .or as, .and bs, ha, hb, _, _, _, _, h => by
      rw [symbols_or_append, symbols_and_append] at h
      obtain ⟨hchildren, hrest, hsign⟩ :=
        alikeAll_of_members (.inr rfl) (.inl rfl) ha hb (List.cons.inj h).2
      have hshort := hsign.resolve_right (by decide)
      use .orAnd hshort hchildren, hrest
  -- the other pairs begin differently
  | .leaf _, .not _, ha, hb, _, _, _, _, h => by cases opening_eq ha hb h
  | .leaf _, .and _, ha, hb, _, _, _, _, h => by cases opening_eq ha hb h
  | .leaf _, .or _, ha, hb, _, _, _, _, h => by cases opening_eq ha hb h
  | .not _, .leaf _, ha, hb, _, _, _, _, h => by cases opening_eq ha hb h
  | .not _, .and _, ha, hb, _, _, _, _, h => by cases opening_eq ha hb h
  | .not _, .or _, ha, hb, _, _, _, _, h => by cases opening_eq ha hb h
  | .and _, .leaf _, ha, hb, _, _, _, _, h => by cases opening_eq ha hb h
  | .and _, .not _, ha, hb, _, _, _, _, h => by cases opening_eq ha hb h
  | .or _, .leaf _, ha, hb, _, _, _, _, h => by cases opening_eq ha hb h
  | .or _, .not _, ha, hb, _, _, _, _, h => by cases opening_eq ha hb h

/-- The members of a group are read off with the text after it, and so is the sign between them if
there is one. -/
theorem alikeAll_of_members : ∀ {as bs : List Guard} {sign sign' : List Char},
  IsSign sign → IsSign sign' → PlainAll as → PlainAll bs → ∀ {s t : List Char},
  members sign as s = members sign' bs t →
  AlikeAll as bs ∧ s = t ∧ (as.length < 2 ∨ sign = sign')
  | [], [], _, _, _, _, _, _, _, _, h => by
      use .nil, (List.cons.inj h).2
      left
      apply Nat.zero_lt_two
  | [], b :: bs, _, _, _, _, _, hb, _, _, h => by
      apply absurd h.symm
      apply members_cons_ne hb
  | a :: as, [], _, _, _, _, ha, _, _, _, h => by
      apply absurd h
      apply members_cons_ne ha
  | a :: as, b :: bs, _, _, hsign, hsign', ha, hb, s, t, h => by
      rw [members_cons, members_cons] at h
      obtain ⟨hfirst, hfurther⟩ := alike_of_symbols ha.first hb.first
        (parted_further hsign as s) (parted_further hsign' bs t) h
      obtain ⟨hrest, htext, hshown⟩ := alikeAll_of_further hsign hsign' ha.rest hb.rest hfurther
      use .cons hfirst hrest, htext
      apply hshown.imp_left
      rintro rfl
      apply Nat.one_lt_two

/-- After the first member the sign is read off as soon as there is another member. -/
theorem alikeAll_of_further : ∀ {as bs : List Guard} {sign sign' : List Char},
  IsSign sign → IsSign sign' → PlainAll as → PlainAll bs → ∀ {s t : List Char},
  further sign as s = further sign' bs t →
  AlikeAll as bs ∧ s = t ∧ (as = [] ∨ sign = sign')
  | [], [], _, _, _, _, _, _, _, _, h => by
      use .nil, (List.cons.inj h).2
      left
      rfl
  | [], b :: bs, _, _, _, hsign', _, _, _, _, h => by
      apply absurd h.symm
      apply further_cons_ne hsign'
  | a :: as, [], _, _, hsign, _, _, _, _, _, h => by
      apply absurd h
      apply further_cons_ne hsign
  | a :: as, b :: bs, sign, sign', hsign, hsign', ha, hb, s, t, h => by
      rw [further_cons, further_cons] at h
      have hlength : sign.length = sign'.length := by rw [hsign.length, hsign'.length]
      obtain ⟨hshown, h⟩ := List.append_inj h hlength
      obtain ⟨hfirst, hfurther⟩ := alike_of_symbols ha.first hb.first
        (parted_further hsign as s) (parted_further hsign' bs t) h
      obtain ⟨hrest, htext, _⟩ := alikeAll_of_further hsign hsign' ha.rest hb.rest hfurther
      use .cons hfirst hrest, htext
      right
      apply hshown

end

/-- Guards with plain names have the same infix form if and only if they are alike. -/
theorem render_eq_iff {a b : Guard} (ha : a.Plain) (hb : b.Plain) :
  a.render = b.render ↔ Alike a b
  := by
  rw [render, render, String.ofList_inj]
  constructor
  · intro h
    have hends : Parted [] := by
      intro symbol hsymbol
      cases hsymbol
    have hsame : a.symbols ++ [] = b.symbols ++ [] := by rw [h]
    obtain ⟨halike, _⟩ := alike_of_symbols ha hb hends hends hsame
    apply halike
  · intro h
    apply h.symbols_eq

/-! ### What guards that are written alike decide -/

variable {m : Type → Type} [Monad m] (check : String → m Bool)

theorem evaluateAny_singleton [LawfulMonad m] (child : Guard) :
  evaluateAny check [child] = child.evaluate check
  := answer_bind (child.evaluate check)

mutual

/-- Guards that are alike and have no group without members are evaluated in the same way, whatever
the predicates do. -/
theorem Alike.evaluate_eq [LawfulMonad m] {a b : Guard} : Alike a b → a.Filled →
  a.evaluate check = b.evaluate check
  | .leaf _, _ => rfl
  | .not hinner, hfilled => by rw [evaluate, evaluate, hinner.evaluate_eq hfilled]
  | .and hchildren, hfilled => hchildren.evaluateAll_eq hfilled.2
  | .or hchildren, hfilled => hchildren.evaluateAny_eq hfilled.2
  | .andOr _ (.cons hchild .nil), hfilled => by
      rw [evaluate, evaluate, evaluateAll_singleton, evaluateAny_singleton,
        hchild.evaluate_eq hfilled.2.1]
  | .orAnd _ (.cons hchild .nil), hfilled => by
      rw [evaluate, evaluate, evaluateAll_singleton, evaluateAny_singleton,
        hchild.evaluate_eq hfilled.2.1]
  | .andOr _ .nil, hfilled => absurd rfl hfilled.1
  | .orAnd _ .nil, hfilled => absurd rfl hfilled.1
  | .andOr hshort (.cons _ (.cons _ _)), _ => absurd hshort (by simp)
  | .orAnd hshort (.cons _ (.cons _ _)), _ => absurd hshort (by simp)

theorem AlikeAll.evaluateAll_eq [LawfulMonad m] {as bs : List Guard} : AlikeAll as bs → FilledAll as →
  evaluateAll check as = evaluateAll check bs
  | .nil, _ => rfl
  | .cons hfirst hrest, hfilled => by
      rw [evaluateAll, evaluateAll, hfirst.evaluate_eq hfilled.1, hrest.evaluateAll_eq hfilled.2]

theorem AlikeAll.evaluateAny_eq [LawfulMonad m] {as bs : List Guard} : AlikeAll as bs → FilledAll as →
  evaluateAny check as = evaluateAny check bs
  | .nil, _ => rfl
  | .cons hfirst hrest, hfilled => by
      rw [evaluateAny, evaluateAny, hfirst.evaluate_eq hfilled.1, hrest.evaluateAny_eq hfilled.2]

end

/-- The infix form identifies a guard with plain names up to what it cannot show: two of them have
the same infix form exactly when they are equal up to exchanging conjunctions and disjunctions of
fewer than two members.  If they have no groups without members either, then they are evaluated
with the same result and the same calls of predicates, from any state of the predicates. -/
theorem render_identifies {a b : Guard} (ha : a.Plain) (hb : b.Plain) :
  (a.render = b.render ↔ Alike a b)
    ∧ (a.Filled → a.render = b.render →
        ∀ {σ : Type} (source : String → σ → Except GuardError Bool × σ) (state : σ),
          (a.evaluate (recordCalls source)).run (state, [])
            = (b.evaluate (recordCalls source)).run (state, []))
  := by
  have hiff := render_eq_iff ha hb
  use hiff
  intro hfilled hrender σ source state
  have halike := hiff.mp hrender
  rw [halike.evaluate_eq (recordCalls source) hfilled]

/-- A group of one member may be a conjunction or a disjunction: the infix form does not tell. -/
theorem render_identifies_single_member :
  let a := and [leaf "x", or [not (leaf "y")]]
  let b := and [leaf "x", and [not (leaf "y")]]
  a.Plain ∧ b.Plain ∧ a.Filled ∧ a.render = "(x && (!y))" ∧ a.render = b.render
    ∧ Alike a b
    ∧ ∀ (source : String → Nat → Except GuardError Bool × Nat),
        (a.evaluate (recordCalls source)).run (0, [])
          = (b.evaluate (recordCalls source)).run (0, [])
  := by
  intro a b
  have ha : a.Plain := by decide +kernel
  have hb : b.Plain := by decide +kernel
  have hfilled : a.Filled := by simp [a, Filled, FilledAll]
  have hrender : a.render = b.render := by decide +kernel
  obtain ⟨hiff, hevaluate⟩ := render_identifies ha hb
  use ha, hb, hfilled, by decide +kernel, hrender, hiff.mp hrender
  intro source
  apply hevaluate hfilled hrender

end Guard

end GuardedMachine
