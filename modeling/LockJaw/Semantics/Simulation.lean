import LockJaw.Semantics.Run

/-! Simulation with stuttering between two labelled steps that may fail. The states of
the one system are seen through a function, and a label says which step of the other
system an action takes, if it takes any. -/
namespace Semantics

variable {State Action Failure SeenState SeenAction SeenFailure : Type*}

/-- The part of a history in which the other system takes a step. -/
def seenHistory (view : State → SeenState) (label : State → Action → Option SeenAction)
    (history : History State Action) : History SeenState SeenAction :=
  history.filterMap fun entry =>
    (label entry.1 entry.2).map fun action => (view entry.1, action)

/-- From a state with the invariant every step is the labelled one of the other system, or
leaves what is seen of the state as it was. -/
structure Simulates (step : State → Action → Except Failure State)
    (seenStep : SeenState → SeenAction → Except SeenFailure SeenState)
    (view : State → SeenState) (label : State → Action → Option SeenAction)
    (invariant : State → Prop) : Prop where
  preserved : ∀ state action after, invariant state → step state action = .ok after →
    invariant after
  labelled : ∀ state action after seen, invariant state → step state action = .ok after →
    label state action = some seen → seenStep (view state) seen = .ok (view after)
  silent : ∀ state action after, invariant state → step state action = .ok after →
    label state action = none → view after = view state

section Simulation
variable {step : State → Action → Except Failure State}
  {seenStep : SeenState → SeenAction → Except SeenFailure SeenState}
  {view : State → SeenState} {label : State → Action → Option SeenAction}
  {invariant : State → Prop} {start finish : State} {history : History State Action}

/-- A further step is seen if it has a label. -/
theorem seenHistory_concat (history : History State Action) (state : State) (action : Action) :
    seenHistory view label (history ++ [(state, action)]) =
      seenHistory view label history ++
        ((label state action).map fun seen => (view state, seen)).toList := by
  rw [seenHistory, List.filterMap_append, ← seenHistory]
  cases hLabel : label state action with
  | none => simp [hLabel]
  | some seen => simp [hLabel]

/-- What is seen of a history is seen of its entries. -/
theorem mem_seenHistory {seen : SeenState × SeenAction} :
    seen ∈ seenHistory view label history ↔ ∃ entry ∈ history,
      seen.1 = view entry.1 ∧ label entry.1 entry.2 = some seen.2 := by
  simp only [seenHistory, List.mem_filterMap, Option.map_eq_some_iff]
  constructor
  · rintro ⟨entry, hEntry, action, hLabel, rfl⟩
    exact ⟨entry, hEntry, rfl, hLabel⟩
  · rintro ⟨entry, hEntry, hView, hLabel⟩
    exact ⟨entry, hEntry, seen.2, hLabel, by rw [← hView]⟩

/-- The invariant holds in every state that a run reaches. -/
theorem Simulates.invariant_of_run (h : Simulates step seenStep view label invariant)
    (run : Run step start history finish) (hStart : invariant start) : invariant finish :=
  run.invariant invariant hStart h.preserved

/-- A run of the one system is a run of the other, with the steps between it left out. -/
theorem Simulates.run (h : Simulates step seenStep view label invariant)
    (run : Run step start history finish) (hStart : invariant start) :
    Run seenStep (view start) (seenHistory view label history) (view finish) := by
  induction run with
  | nil => exact .nil
  | @snoc history state after action prior last ih =>
      have hState := h.invariant_of_run prior hStart
      rw [seenHistory_concat]
      cases hLabel : label state action with
      | none =>
          rw [h.silent state action after hState last hLabel]
          simpa using ih
      | some seen => exact ih.snoc (h.labelled state action after seen hState last hLabel)

end Simulation

end Semantics
