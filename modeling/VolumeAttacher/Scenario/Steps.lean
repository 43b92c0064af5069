import VolumeAttacher.Json.Fields
import VolumeAttacher.Json.Printer

/-!
# Steps of scenarios

A scenario describes in JSON what happens to some part of the attacher step by step, and its report
says what came of each step. A step that is not understood makes the whole scenario not understood.
-/

namespace VolumeAttacher.Scenario

/-- Takes steps one after the other and collects what came of each. -/
def performSteps {σ : Type} (perform : σ → Json → Option (Json × σ)) :
    σ → List Json → Option (List Json × σ)
  | state, [] => some ([], state)
  | state, step :: steps => do
    let (answer, state) ← perform state step
    let (answers, state) ← performSteps perform state steps
    return (answer :: answers, state)

/-- The items of a list that has grown after those that it held before. -/
def since {α : Type} (before after : List α) : List α :=
  after.drop before.length

/-- Values in the order of their texts. -/
def sortedByText (items : List Json) : List Json :=
  items.mergeSort fun left right => left.compact ≤ right.compact

end VolumeAttacher.Scenario
