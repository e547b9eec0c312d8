import GuardedMachine.Proofs.Judgement
import GuardedMachine.Proofs.Program.Ends

/-!
# Programs that return

`Program.Returns` is total: whatever happened before, a program returns from a world, and reaches a
goal.  `Program.returning` is the judgement on programs that return from all worlds within an
invariant and stay within it.
-/

namespace GuardedMachine.Program

variable {Call : Type} {Answer : Call → Type} {W ε α β : Type}

/-- Whatever happened before, a program returns from a world, with a result and in a world of which
`goal` holds. -/
def Returns (body : (c : Call) → Program Call Answer W ε (Answer c))
    (program : Program Call Answer W ε α) (world : W) (goal : α → W → Prop) : Prop :=
  ∀ history, ∃ a world' history', program.Ends body world history a world' history'
    ∧ goal a world'

variable {body : (c : Call) → Program Call Answer W ε (Answer c)}
  {program : Program Call Answer W ε α} {world : W} {goal goal' : α → W → Prop}

/-! ### Rules -/

theorem returns_pure {a : α} (h : goal a world) :
  (pure a : Program Call Answer W ε α).Returns body world goal
  := fun history => ⟨a, world, history, ends_pure.mpr ⟨rfl, rfl, rfl⟩, h⟩

theorem Returns.bind {f : α → Program Call Answer W ε β} {goal' : β → W → Prop}
    (h : program.Returns body world goal)
    (hf : ∀ a world', goal a world' → (f a).Returns body world' goal') :
  (program >>= f).Returns body world goal'
  := by
  intro history
  obtain ⟨a, world', history', hends, ha⟩ := h history
  obtain ⟨b, world'', history'', hends', hb⟩ := hf a world' ha history'
  use b, world'', history''
  use ends_bind.mpr ⟨a, world', history', hends, hends'⟩

theorem Returns.mono (h : program.Returns body world goal)
    (himp : ∀ a world', goal a world' → goal' a world') :
  program.Returns body world goal'
  := by
  intro history
  obtain ⟨a, world', history', hends, ha⟩ := h history
  exact ⟨a, world', history', hends, himp a world' ha⟩

theorem returns_world {f : W → Program Call Answer W ε α} (h : (f world).Returns body world goal) :
  (Program.world >>= f).Returns body world goal
  := h

theorem returns_update {change : W → W} {goal : Unit → W → Prop} (h : goal () (change world)) :
  (update change : Program Call Answer W ε Unit).Returns body world goal
  := fun history => ⟨(), change world, history, ends_update.mpr ⟨rfl, rfl⟩, h⟩

/-- A call returns when its body does. -/
theorem returns_ask {c : Call} {goal : Answer c → W → Prop} (h : (body c).Returns body world goal) :
  (ask c : Program Call Answer W ε (Answer c)).Returns body world goal
  := by
  intro history
  obtain ⟨answer, world', history', hends, hanswer⟩ := h (.called c world :: history)
  exact ⟨answer, world', _, ends_ask.mpr ⟨history', hends, rfl⟩, hanswer⟩

/-! ### Staying within an invariant -/

/-- The judgement on programs that return from all worlds within an invariant and stay within it. -/
def returning (body : (c : Call) → Program Call Answer W ε (Answer c)) (within : W → Prop) :
    Judgement (Program Call Answer W ε) where
  holds P program := ∀ world, within world →
    program.Returns body world fun a world' => P a ∧ within world'
  holds_pure h world hworld := returns_pure ⟨h, hworld⟩
  holds_bind h hf world hworld := by
    apply (h world hworld).bind
    rintro a world' ⟨ha, hworld'⟩
    apply hf a ha world' hworld'
  holds_map h hf world hworld := by
    apply (h world hworld).bind
    rintro a world' ⟨ha, hworld'⟩
    exact returns_pure ⟨hf a ha, hworld'⟩
  holds_mono h himp world hworld := by
    apply (h world hworld).mono
    rintro a world' ⟨ha, hworld'⟩
    exact ⟨himp a ha, hworld'⟩

variable {within : W → Prop}

theorem returning_world :
  (returning body within).runs (Program.world : Program Call Answer W ε W)
  := fun _ hworld history => ⟨_, _, history, ⟨0, rfl⟩, trivial, hworld⟩

theorem returning_update {change : W → W} (h : ∀ world, within world → within (change world)) :
  (returning body within).runs (update change : Program Call Answer W ε Unit)
  := fun world hworld => returns_update ⟨trivial, h world hworld⟩

theorem returning_ask {c : Call} {P : Answer c → Prop} (h : (returning body within).holds P (body c)) :
  (returning body within).holds P (ask c : Program Call Answer W ε (Answer c))
  := fun world hworld => returns_ask (h world hworld)

end GuardedMachine.Program
