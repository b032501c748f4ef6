/-
# Theory.Script — sequences of operations that may be cut short

A `Script` performs operations on a state, each reporting success or failure, and may act
on the reports.  It runs under a `Disturbance`: undisturbed, stopped for good in front of
one operation, or with one operation failing after part of its work.

`Keeps I` says that `I` holds of the state a script leaves under every disturbance;
`Keeps.pure`, `Keeps.bind` and `Keeps.operation` are its rules.
-/
import Mathlib.Logic.Basic

namespace IsgConsole.Theory

set_option autoImplicit false

/-- What befalls one run.  `amount` is how much of its work a failing operation does. -/
inductive Disturbance (Op : Type) where
  | none
  | stopBefore (op : Op)
  | fails (op : Op) (amount : Nat)
  deriving DecidableEq

/-- A run returns nothing once it has been stopped. -/
def Script (Op σ α : Type) := Disturbance Op → σ → Option α × σ

namespace Script

variable {Op σ α β : Type}

def pure (a : α) : Script Op σ α := fun _ s => (some a, s)

def bind (m : Script Op σ α) (f : α → Script Op σ β) : Script Op σ β := fun d s =>
  match m d s with
  | (some a, s') => f a d s'
  | (none, s') => (none, s')

instance : Monad (Script Op σ) where
  pure := pure
  bind := bind

/-- Look at the state. -/
def ask (look : σ → α) : Script Op σ α := fun _ s => (some (look s), s)

/-- The report of an operation left to itself: `perform` fails where it is undefined. -/
def attempt (perform : σ → Option σ) (s : σ) : Option Bool × σ :=
  match perform s with
  | some s' => (some true, s')
  | none => (some false, s)

/-- One operation: `partly amount` is the state it leaves when it is made to fail. -/
def operation [DecidableEq Op] (op : Op) (perform : σ → Option σ) (partly : Nat → σ → σ) :
    Script Op σ Bool := fun d s =>
  match d with
  | .none => attempt perform s
  | .stopBefore op' => if op' = op then (none, s) else attempt perform s
  | .fails op' amount => if op' = op then (some false, partly amount s) else attempt perform s

/-- The state a disturbed run leaves. -/
def final (m : Script Op σ α) (d : Disturbance Op) (s : σ) : σ := (m d s).2

/-! ## What every disturbed run keeps -/

/-- `I` survives the script, whatever befalls it. -/
def Keeps (I : σ → Prop) (m : Script Op σ α) : Prop := ∀ d s, I s → I (m.final d s)

namespace Keeps

variable {I : σ → Prop}

theorem pure (a : α) : Keeps I (Script.pure a : Script Op σ α) := fun _ _ holds => holds

theorem bind {m : Script Op σ α} {f : α → Script Op σ β} (first : Keeps I m)
    (next : ∀ a, Keeps I (f a)) : Keeps I (Script.bind m f) := by
  intro d s holds
  have after := first d s holds
  simp only [final, Script.bind] at after ⊢
  cases ran : m d s with
  | mk result s' =>
      rw [ran] at after
      cases result with
      | none => exact after
      | some a => exact next a d s' after

theorem operation [DecidableEq Op] {op : Op} {perform : σ → Option σ} {partly : Nat → σ → σ}
    (whole : ∀ s s', I s → perform s = some s' → I s')
    (part : ∀ amount s, I s → I (partly amount s)) :
    Keeps I (Script.operation op perform partly) := by
  have attempted : ∀ s, I s → I (attempt perform s).2 := by
    intro s holds
    rw [attempt]
    cases performed : perform s with
    | none => exact holds
    | some s' => exact whole s s' holds performed
  intro d s holds
  cases d with
  | none => exact attempted s holds
  | stopBefore op' =>
      simp only [final, Script.operation]
      split
      · exact holds
      · exact attempted s holds
  | fails op' amount =>
      simp only [final, Script.operation]
      split
      · exact part amount s holds
      · exact attempted s holds

end Keeps

end Script

end IsgConsole.Theory
