import GuardedMachine.Machine.Validation
import Mathlib.Data.List.Basic
import Mathlib.Data.List.Nodup
import Mathlib.Tactic.Use

/-!
# Enumerations

A relation `carries` tells which places carry which results, and the places have an order.  A list
enumerates the relation when it has the results of all places that carry one, in the order of the
places (`Enumerates`).  Such a list is unique (`Enumerates.unique`), and it can be put together like
the relation: from two relations (`append`), from a relation for each item of an enumerated list
(`flatMap`), by dropping results (`filter`), or by keeping the first places of each result
(`firsts`).
-/

namespace GuardedMachine

variable {α β γ δ : Type} {precedes : α → α → Prop}

/-- The results are those of all places that carry one, in the order of the places. -/
def Enumerates (precedes : α → α → Prop) (carries : α → β → Prop) (results : List β) : Prop :=
  ∃ carriers : List (α × β),
    carriers.Pairwise (fun a b => precedes a.1 b.1)
      ∧ (∀ place result, (place, result) ∈ carriers ↔ carries place result)
      ∧ carriers.map Prod.snd = results

namespace Enumerates

variable {carries others : α → β → Prop} {results more : List β}

/-- A result is listed if some place carries it. -/
theorem mem_iff (h : Enumerates precedes carries results) {result : β} :
  result ∈ results ↔ ∃ place, carries place result
  := by
  obtain ⟨carriers, _, hmem, rfl⟩ := h
  simp [hmem]

/-- Nothing is listed if no place carries a result. -/
theorem eq_nil_iff (h : Enumerates precedes carries results) :
  results = [] ↔ ∀ place result, ¬ carries place result
  := by
  rw [List.eq_nil_iff_forall_not_mem]
  simp only [h.mem_iff, not_exists]
  apply forall_comm

/-- A list enumerates a relation once at most. -/
theorem unique [Std.Asymm precedes] (h : Enumerates precedes carries results)
    (h' : Enumerates precedes carries more) :
  results = more
  := by
  obtain ⟨carriers, hpairwise, hmem, rfl⟩ := h
  obtain ⟨carriers', hpairwise', hmem', rfl⟩ := h'
  have hnodup {list : List (α × β)} (hlist : list.Pairwise fun a b => precedes a.1 b.1) :
      list.Nodup := by
    apply hlist.imp
    rintro a _ hab rfl
    exact Std.Asymm.asymm _ _ hab hab
  have hperm : carriers.Perm carriers' := by
    rw [List.perm_ext_iff_of_nodup (hnodup hpairwise) (hnodup hpairwise')]
    rintro ⟨place, result⟩
    rw [hmem, hmem']
  have heq : carriers = carriers' := by
    apply List.Perm.eq_of_pairwise _ hpairwise hpairwise' hperm
    intro a b _ _ hab hba
    cases Std.Asymm.asymm _ _ hab hba
  rw [heq]

theorem congr (h : Enumerates precedes carries results)
    (hiff : ∀ place result, carries place result ↔ others place result) :
  Enumerates precedes others results
  := by
  obtain ⟨carriers, hpairwise, hmem, heq⟩ := h
  refine ⟨carriers, hpairwise, ?_, heq⟩
  intro place result
  rw [hmem, hiff]

theorem of_none (h : ∀ place result, ¬ carries place result) :
  Enumerates precedes carries []
  := ⟨[], .nil, fun place result => by simp [h place result], rfl⟩

theorem singleton (place : α) (result : β) :
  Enumerates precedes (fun a b => a = place ∧ b = result) [result]
  := ⟨[(place, result)], List.pairwise_singleton .., fun a b => by simp, rfl⟩

/-- The places of the first relation come before those of the second. -/
theorem append (h : Enumerates precedes carries results) (h' : Enumerates precedes others more)
    (horder : ∀ a b r s, carries a r → others b s → precedes a b) :
  Enumerates precedes (fun place result => carries place result ∨ others place result)
    (results ++ more)
  := by
  obtain ⟨carriers, hpairwise, hmem, rfl⟩ := h
  obtain ⟨carriers', hpairwise', hmem', rfl⟩ := h'
  refine ⟨carriers ++ carriers', ?_, ?_, List.map_append⟩
  · rw [List.pairwise_append]
    refine ⟨hpairwise, hpairwise', ?_⟩
    rintro ⟨a, r⟩ ha ⟨b, s⟩ hb
    exact horder a b r s ((hmem a r).mp ha) ((hmem' b s).mp hb)
  · intro place result
    rw [List.mem_append, hmem, hmem']

/-- Places and results under other names, in an order that the names of the places keep. -/
theorem map (h : Enumerates precedes carries results) {follows : γ → γ → Prop} (name : α → γ)
    (rename : β → δ) (horder : ∀ a b, precedes a b → follows (name a) (name b)) :
  Enumerates follows
    (fun c d => ∃ place result, carries place result ∧ c = name place ∧ d = rename result)
    (results.map rename)
  := by
  obtain ⟨carriers, hpairwise, hmem, rfl⟩ := h
  refine ⟨carriers.map fun carrier => (name carrier.1, rename carrier.2), ?_, ?_, ?_⟩
  · rw [List.pairwise_map]
    apply hpairwise.imp
    intro a b hab
    exact horder _ _ hab
  · intro c d
    simp [hmem, eq_comm]
  · rw [List.map_map, List.map_map]
    rfl

/-- The results that have a property. -/
theorem filter (h : Enumerates precedes carries results) (p : β → Bool) :
  Enumerates precedes (fun place result => carries place result ∧ p result) (results.filter p)
  := by
  obtain ⟨carriers, hpairwise, hmem, rfl⟩ := h
  refine ⟨carriers.filter (p ∘ Prod.snd), hpairwise.filter _, ?_, List.filter_map.symm⟩
  intro place result
  simp [hmem]

/-- The results for each item of an enumerated list, where the places that belong to an item come
before those that belong to a later one. -/
theorem flatMap (h : Enumerates precedes carries results) {follows : γ → γ → Prop}
    {owns : α → β → γ → δ → Prop} {f : β → List δ}
    (hitem : ∀ place item, carries place item → Enumerates follows (owns place item) (f item))
    (horder : ∀ a b, precedes a b → ∀ i j x y r s, carries a i → carries b j → owns a i x r →
      owns b j y s → follows x y) :
  Enumerates follows (fun x r => ∃ place item, carries place item ∧ owns place item x r)
    (results.flatMap f)
  := by
  obtain ⟨carriers, hpairwise, hmem, rfl⟩ := h
  have hcarries : ∀ a ∈ carriers, carries a.1 a.2 := fun a ha => (hmem a.1 a.2).mp ha
  suffices hlist : Enumerates follows (fun x r => ∃ a ∈ carriers, owns a.1 a.2 x r)
      ((carriers.map Prod.snd).flatMap f) by
    apply hlist.congr
    intro x r
    simp [hmem]
  clear hmem
  induction carriers with
  | nil =>
    apply of_none
    simp
  | cons a rest ih =>
    obtain ⟨hfirst, hrest⟩ := List.pairwise_cons.mp hpairwise
    have hhead := hitem _ _ (hcarries a List.mem_cons_self)
    have htail := ih hrest fun b hb => hcarries b (List.mem_cons_of_mem a hb)
    rw [List.map_cons, List.flatMap_cons]
    apply (hhead.append htail _).congr
    · simp
    · rintro x y r s hx ⟨b, hb, hy⟩
      exact horder _ _ (hfirst b hb) _ _ x y r s (hcarries a List.mem_cons_self)
        (hcarries b (List.mem_cons_of_mem a hb)) hx hy

/-- The first places of each result, for results that are names. -/
theorem firsts [Std.Asymm precedes] {carries : α → String → Prop} {names : List String}
    (h : Enumerates precedes carries names) :
  Enumerates precedes
    (fun place name => carries place name ∧ ∀ other, carries other name → ¬ precedes other place)
    (firstOccurrences names)
  := by
  obtain ⟨carriers, hpairwise, hmem, rfl⟩ := h
  suffices hlist : Enumerates precedes
      (fun place name => (place, name) ∈ carriers
        ∧ ∀ other, (other, name) ∈ carriers → ¬ precedes other place)
      (firstOccurrences (carriers.map Prod.snd)) by
    apply hlist.congr
    intro place name
    simp [hmem]
  clear hmem
  induction carriers with
  | nil =>
    apply of_none
    simp
  | cons a rest ih =>
    obtain ⟨first, found⟩ := a
    obtain ⟨hfirst, hrest⟩ := List.pairwise_cons.mp hpairwise
    rw [List.map_cons, firstOccurrences, ← List.singleton_append]
    apply ((singleton first found).append ((ih hrest).filter _) _).congr
    · intro place name
      by_cases hname : name = found
      · subst hname
        constructor
        · rintro (⟨rfl, -⟩ | ⟨_, hne⟩)
          · refine ⟨List.mem_cons_self, ?_⟩
            intro other hother
            rcases List.mem_cons.mp hother with heq | hother
            · cases heq
              exact fun h => Std.Asymm.asymm _ _ h h
            · exact Std.Asymm.asymm _ _ (hfirst _ hother)
          · simp at hne
        · rintro ⟨hplace, hnone⟩
          rcases List.mem_cons.mp hplace with heq | hplace
          · cases heq
            exact .inl ⟨rfl, rfl⟩
          · cases hnone first List.mem_cons_self (hfirst _ hplace)
      · simp [hname]
    · rintro _ b _ s ⟨rfl, -⟩ ⟨⟨hb, -⟩, -⟩
      exact hfirst (b, s) hb

/-- Among the places of a result there is a first one. -/
theorem exists_first [Std.Asymm precedes] {carries : α → String → Prop} {names : List String}
    (h : Enumerates precedes carries names) {place : α} {name : String}
    (hplace : carries place name) :
  ∃ first, carries first name ∧ ∀ other, carries other name → ¬ precedes other first
  := by
  have hmem : name ∈ firstOccurrences names := by
    apply mem_firstOccurrences.mpr
    apply h.mem_iff.mpr ⟨place, hplace⟩
  apply h.firsts.mem_iff.mp hmem

end Enumerates

/-- A list enumerates its items by their indices. -/
theorem enumerates_getElem? (items : List α) :
  Enumerates (· < ·) (fun (index : Nat) item => items[index]? = some item) items
  := by
  refine ⟨items.zipIdx.map Prod.swap, ?_, ?_, ?_⟩
  · have hindices : (items.zipIdx.map Prod.snd).Pairwise (· < ·) := by
      rw [List.zipIdx_map_snd]
      exact List.pairwise_lt_range' 1
    rw [List.pairwise_map] at hindices ⊢
    exact hindices
  · intro index item
    simp [List.mem_zipIdx_iff_getElem?]
  · rw [List.map_map]
    apply List.zipIdx_map_fst

end GuardedMachine
