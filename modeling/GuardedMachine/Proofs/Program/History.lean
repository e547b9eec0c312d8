import GuardedMachine.Program.Run
import Mathlib.Tactic.Use

/-!
# Histories of runs

A history grows at its head.  This module holds what proofs about runs say of histories: that
something holds at every moment (`Moment.Throughout`), that one history continues another with the
same calls open (`Moment.Continues`), and what a history contains in the order of time
(`Moment.collect`).
-/

namespace GuardedMachine.Moment

variable {Call : Type} {Answer : Call → Type} {W β : Type}

/-! ### Every moment of a history -/

/-- At every moment of a history `good` holds of the world and of the history so far. -/
def Throughout (good : W → List (Moment Call Answer W) → Prop)
    (history : List (Moment Call Answer W)) : Prop :=
  ∀ moment earlier, moment :: earlier <:+ history → good moment.world (moment :: earlier)

variable {good : W → List (Moment Call Answer W) → Prop}

theorem throughout_nil :
  Throughout good []
  := by
  intro moment earlier h
  cases List.suffix_nil.mp h

theorem throughout_cons (moment : Moment Call Answer W) {earlier : List (Moment Call Answer W)}
    (now : good moment.world (moment :: earlier)) (before : Throughout good earlier) :
  Throughout good (moment :: earlier)
  := by
  intro moment' earlier' h
  rcases List.suffix_cons_iff.mp h with heq | h
  · obtain ⟨rfl, rfl⟩ := List.cons.inj heq
    apply now
  · apply before _ _ h

/-! ### Continued histories -/

/-- The history `later` continues `earlier`, and the calls that were open are open again. -/
structure Continues (earlier later : List (Moment Call Answer W)) : Prop where
  suffix : earlier <:+ later
  openCalls_eq : openCalls later = openCalls earlier

variable {h₁ h₂ h₃ : List (Moment Call Answer W)}

theorem Continues.refl (history : List (Moment Call Answer W)) :
  Continues history history
  := ⟨List.suffix_refl history, rfl⟩

theorem Continues.trans (h : Continues h₁ h₂) (h' : Continues h₂ h₃) :
  Continues h₁ h₃
  := ⟨h.suffix.trans h'.suffix, h'.openCalls_eq.trans h.openCalls_eq⟩

/-- Once a call is answered the history continues the one before the call. -/
theorem Continues.answered {c : Call} {world : W} (h : Continues (.called c world :: h₁) h₂)
    (answer : Answer c) (world' : W) :
  Continues h₁ (.answered c answer world' :: h₂)
  := by
  constructor
  · apply List.IsSuffix.trans _ (List.suffix_cons _ h₂)
    apply List.IsSuffix.trans (List.suffix_cons _ h₁) h.suffix
  · simp [openCalls, h.openCalls_eq]

/-! ### What a history contains -/

/-- What is picked from each moment of a history, in the order of time. -/
def collect (pick : Moment Call Answer W → List β) : List (Moment Call Answer W) → List β
  | [] => []
  | moment :: earlier => collect pick earlier ++ pick moment

end GuardedMachine.Moment
