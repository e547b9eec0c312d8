import GuardedMachine.Program.Basic

/-!
# Runs

A run carries out a program on a world.  The body of every call is itself a program, so a call may
lead to further calls; `Program.run` follows them to a given depth and records a history: the
moments at which a call was made and at which it was answered, each with the world at that time.
A run that meets a call beyond the depth is exhausted, and its history is a beginning of the
history at any greater depth.
-/

namespace GuardedMachine

/-- A moment of a run: a call is made or answered. -/
inductive Moment (Call : Type) (Answer : Call → Type) (W : Type) where
  | called (c : Call) (world : W)
  | answered (c : Call) (answer : Answer c) (world : W)

namespace Moment

variable {Call : Type} {Answer : Call → Type} {W : Type}

/-- The world at a moment. -/
def world : Moment Call Answer W → W
  | .called _ world => world
  | .answered _ _ world => world

/-- The call made at a moment, if one is made. -/
def made? : Moment Call Answer W → Option Call
  | .called c _ => some c
  | .answered _ _ _ => none

/-- The calls that have been made and not answered, the innermost first, after a history with the
latest moment first. -/
def openCalls : List (Moment Call Answer W) → List Call
  | [] => []
  | .called c _ :: earlier => c :: openCalls earlier
  | .answered _ _ _ :: earlier => (openCalls earlier).tail

end Moment

/-- How a run ended. -/
inductive Ending (ε α : Type) where
  | returned (result : α)
  | failed (error : ε)
  /-- A call lay beyond the depth. -/
  | exhausted

/-- A run: how it ended, the world it left, and its history with the latest moment first. -/
structure Run (Call : Type) (Answer : Call → Type) (W ε α : Type) where
  ending : Ending ε α
  world : W
  history : List (Moment Call Answer W)

namespace Program

variable {Call : Type} {Answer : Call → Type} {W ε α : Type}

/-- Run a program whose calls are served by `serve`. -/
def runWith
    (serve : (c : Call) → W → List (Moment Call Answer W) → Run Call Answer W ε (Answer c)) :
    Program Call Answer W ε α → W → List (Moment Call Answer W) → Run Call Answer W ε α
  | .done result, world, history => { ending := .returned result, world, history }
  | .fail error, world, history => { ending := .failed error, world, history }
  | .read next, world, history => (next world).runWith serve world history
  | .write world next, _, history => next.runWith serve world history
  | .call c next, world, history =>
    match serve c world history with
    | { ending := .returned answer, world, history } => (next answer).runWith serve world history
    | { ending := .failed error, world, history } => { ending := .failed error, world, history }
    | { ending := .exhausted, world, history } => { ending := .exhausted, world, history }

/-- Serve a call by running its body, following calls to the given depth. -/
def serve (body : (c : Call) → Program Call Answer W ε (Answer c)) :
    Nat → (c : Call) → W → List (Moment Call Answer W) → Run Call Answer W ε (Answer c)
  | 0, _, world, history => { ending := .exhausted, world, history }
  | depth + 1, c, world, history =>
    match (body c).runWith (serve body depth) world (.called c world :: history) with
    | { ending := .returned answer, world, history } =>
      { ending := .returned answer, world, history := .answered c answer world :: history }
    | run => run

/-- Run a program, following calls to the given depth. -/
def run (body : (c : Call) → Program Call Answer W ε (Answer c)) (depth : Nat)
    (program : Program Call Answer W ε α) (world : W) : Run Call Answer W ε α :=
  program.runWith (serve body depth) world []

end Program

end GuardedMachine
