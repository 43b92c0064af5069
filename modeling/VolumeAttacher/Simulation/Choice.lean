/-!
# Choices between branches

Somebody waits for several things at once and goes on with one that is there. Each of them is a
branch, which is looked at and is ready, pending, or disabled because nothing can come of it any
more. What is chosen otherwise is left for the case that there is nothing to wait for.
-/

namespace VolumeAttacher.Simulation

/-- What is found when a branch is looked at. -/
inductive Branch (α : Type) where
  | ready (value : α)
  | pending
  | disabled

/-- What a choice between branches comes to. -/
inductive Choice (α : Type) where
  | taken (value : α)
  | waiting
  | otherwise

/-- The first branch that is ready is taken. If none is ready, those that are pending are waited
for. -/
def Choice.of {α : Type} : List (Branch α) → Choice α
  | [] => .otherwise
  | .ready value :: _ => .taken value
  | .disabled :: branches => .of branches
  | .pending :: branches =>
      match Choice.of branches with
      | .taken value => .taken value
      | .waiting | .otherwise => .waiting

end VolumeAttacher.Simulation
