/-
# Theory.Simulation — a machine inside a machine

A large machine may contain a small one: some of its state is the state of the small one, and each of
its events is a few events of the small one, or none.  `Part` says so for one step; then a run of the
large machine is a run of the small one (`run`), and what holds all along the runs of the small one
holds of its state inside the large one (`Part.always`).  `outputs_observed` carries what can be read
off the outputs of one step to those of a run.
-/
import IsgConsole.Theory.Machine

namespace IsgConsole.Theory.Machine

set_option autoImplicit false

variable {σ τ ε φ ο π : Type}

theorem outputs_append (step : σ → ε → σ × List ο) (s : σ) (es fs : List ε) :
    outputs step s (es ++ fs) = outputs step s es ++ outputs step (final step s es) fs := by
  rw [outputs, trace_append, List.flatMap_append]
  rfl

theorem outputs_cons (step : σ → ε → σ × List ο) (s : σ) (e : ε) (es : List ε) :
    outputs step s (e :: es) = (step s e).2 ++ outputs step (step s e).1 es := rfl

/-- What an observer finds in the outputs of each step, it finds in those of a run. -/
theorem outputs_observed {α : Type} {step : σ → ε → σ × List ο} {seen : ο → Option α}
    {observe : Transition σ ε ο → Option α}
    (each : ∀ s e, (step s e).2.filterMap seen = (observe (transition step s e)).toList)
    (s : σ) (es : List ε) :
    (outputs step s es).filterMap seen = (trace step s es).filterMap observe := by
  induction es using List.reverseRecOn with
  | nil => rfl
  | append_singleton es e ih =>
      rw [outputs_snoc, List.filterMap_append, ih, each, trace_snoc, observe_snoc]

/-- The small machine in the large one. -/
structure Part (step : σ → ε → σ × List ο) (step' : τ → φ → τ × List π) where
  state : σ → τ
  /-- What an event of the large machine is for the small one. -/
  events : σ → ε → List φ
  outputs : ο → Option π
  after : ∀ s e, state (step s e).1 = final step' (state s) (events s e)
  emitted : ∀ s e, (step s e).2.filterMap outputs = Machine.outputs step' (state s) (events s e)

namespace Part

variable {step : σ → ε → σ × List ο} {step' : τ → φ → τ × List π} (part : Part step step')

/-- The run of the small machine. -/
def history (s : σ) (es : List ε) : List φ :=
  (trace step s es).flatMap fun t => part.events t.before t.event

theorem history_snoc (s : σ) (es : List ε) (e : ε) :
    part.history s (es ++ [e]) = part.history s es ++ part.events (final step s es) e := by
  rw [history, trace_snoc, List.flatMap_append, List.flatMap_singleton]
  rfl

/-- **A run of the large machine is a run of the small one.** -/
theorem run (s : σ) (es : List ε) :
    part.state (final step s es) = final step' (part.state s) (part.history s es) ∧
      (Machine.outputs step s es).filterMap part.outputs =
        Machine.outputs step' (part.state s) (part.history s es) := by
  induction es using List.reverseRecOn with
  | nil => exact ⟨rfl, rfl⟩
  | append_singleton es e ih =>
      obtain ⟨reached, sent⟩ := ih
      rw [history_snoc, final_snoc, outputs_snoc, final_append, outputs_append,
        List.filterMap_append]
      exact ⟨by rw [part.after, reached], by rw [sent, part.emitted, reached]⟩

/-- **What every run of the small machine reaches, the small machine in the large one reaches.** -/
theorem always {s : σ} {I : τ → Prop} (holds : ∀ fs, I (final step' (part.state s) fs))
    (es : List ε) : I (part.state (final step s es)) := by
  rw [(part.run s es).1]
  exact holds _

end Part

end IsgConsole.Theory.Machine
