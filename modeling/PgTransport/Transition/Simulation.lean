import Mathlib.Data.List.Basic
import PgTransport.Transition.Run

/-!
# Forward simulations

An abstract system simulates a concrete one if every concrete step is matched by
an abstract run, perhaps an empty one, that shows the same and ends in a related
state.  What a label shows is optional: a label that shows nothing is internal.
A simulation carries over to runs with all that they show, so what holds of the
abstract states holds of the concrete ones that they stand for.
-/

namespace PgTransport.Transition

universe u v w

variable {σ τ : Type u} {α β : Type v} {γ : Type w}

/-- A simulation of a concrete system by an abstract one. -/
structure Simulation (concrete : System σ α) (abstract : System τ β)
    (seen : α → Option γ) (shown : β → Option γ) (relation : σ → τ → Prop) : Prop where
  initial : ∀ state, concrete.initial state →
    ∃ image, abstract.initial image ∧ relation state image
  step : ∀ source label target image, relation source image →
    concrete.step source label target →
      ∃ labels after, Run abstract image labels after ∧
        labels.filterMap shown = (seen label).toList ∧ relation target after

namespace Simulation

variable {concrete : System σ α} {abstract : System τ β}
  {seen : α → Option γ} {shown : β → Option γ} {relation : σ → τ → Prop}

/-- A run is simulated by a run that shows the same. -/
theorem run (simulation : Simulation concrete abstract seen shown relation)
    {source target : σ} {image : τ} {labels : List α} (related : relation source image)
    (run : Run concrete source labels target) :
    ∃ events after, Run abstract image events after ∧
      events.filterMap shown = labels.filterMap seen ∧ relation target after := by
  induction run generalizing image with
  | nil => exact ⟨[], image, .nil image, rfl, related⟩
  | @cons source middle target label labels step _ _ inductionHypothesis =>
      obtain ⟨first, between, begins, firstShows, relates⟩ :=
        simulation.step source label middle image related step
      obtain ⟨rest, after, continues, restShows, ends⟩ := inductionHypothesis relates
      refine ⟨first ++ rest, after, begins.append continues, ?_, ends⟩
      rw [List.filterMap_append, firstShows, restShows]
      cases shows : seen label <;> simp [shows]

end Simulation

/-- A single step is a run. -/
theorem RunWith.single {system : System σ α} {source target : σ} {label : α}
    (step : system.step source label target) : Run system source [label] target :=
  .cons step trivial (.nil target)

end PgTransport.Transition
