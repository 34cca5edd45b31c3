import Mathlib.Algebra.Group.Int.Defs
import Mathlib.Algebra.Group.Nat.Defs
import Mathlib.Algebra.GroupWithZero.Nat
import Mathlib.Data.Int.Notation

/-!
# Common types

Identifiers, clock readings and fallible results, as the control plane and the
data plane share them.
-/

namespace CodexPool

/-- A UUID, given by its canonical text. -/
structure Uuid where
  text : String
deriving DecidableEq, Repr

/-- A clock reading, in microseconds since the epoch. -/
abbrev DateTime := Int

/-- A duration of whole seconds. -/
def seconds (n : Nat) : Int := (n : Int) * 1000000

/-- A fallible result. The error is the text it displays, which is the
outermost context attached to it. -/
abbrev Result (α : Type*) := Except String α

theorem Except.map_eq_ok {ε α β : Type*} {f : α → β} {x : Except ε α} {b : β}
    (h : x.map f = .ok b) : ∃ a, x = .ok a ∧ f a = b := by
  cases x with
  | error e => cases h
  | ok a => exact ⟨a, rfl, Except.ok.inj h⟩

theorem Result.bind_eq_ok {α β : Type} {x : Result α} {f : α → Result β} {b : β} :
    (x >>= f) = .ok b ↔ ∃ a, x = .ok a ∧ f a = .ok b := by
  cases x with
  | error e => simp [bind, Except.bind]
  | ok a => simp [bind, Except.bind]

end CodexPool
