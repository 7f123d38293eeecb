import Mathlib.Data.List.Basic

/-! Finite runs of a labelled step that may fail. A run keeps its whole history,
each entry being the state a step was taken in together with its action, so that
properties of the form "since the last time" are functions of the history and
need no bookkeeping in the state. A failing step has no successor: it ends the
run in the state before it. -/
namespace Semantics

variable {State Action Failure : Type*}

abbrev History (State Action : Type*) := List (State × Action)

/-- `Run step start history finish`: the steps of `history`, none of them
failing, lead from `start` to `finish`. -/
inductive Run (step : State → Action → Except Failure State) (start : State) :
    History State Action → State → Prop where
  | nil : Run step start [] start
  | snoc {history : History State Action} {state after : State} {action : Action}
      (prior : Run step start history state) (last : step state action = .ok after) :
      Run step start (history ++ [(state, action)]) after

variable {step : State → Action → Except Failure State}

/-- What holds of the empty history and survives every step holds of a whole
run. The relation may speak about the history. -/
theorem Run.induction {start finish : State} {history : History State Action}
    (run : Run step start history finish) (holds : History State Action → State → Prop)
    (hStart : holds [] start)
    (hStep : ∀ history state action after, Run step start history state →
      holds history state → step state action = .ok after →
      holds (history ++ [(state, action)]) after) :
    holds history finish := by
  induction run with
  | nil => exact hStart
  | snoc prior last ih => exact hStep _ _ _ _ prior ih last

/-- The invariant rule for a property of states alone. -/
theorem Run.invariant {start finish : State} {history : History State Action}
    (run : Run step start history finish) (invariant : State → Prop)
    (hStart : invariant start)
    (hStep : ∀ state action after, invariant state → step state action = .ok after →
      invariant after) :
    invariant finish :=
  run.induction (fun _ state => invariant state) hStart
    (fun _ state action after _ hState hLast => hStep state action after hState hLast)

/-- What holds of the empty history and survives every permitted step holds of a run of
permitted actions. The permission may look at the state before the step. -/
theorem Run.induction_of_permitted {start finish : State} {history : History State Action}
    (run : Run step start history finish) (permitted : State → Action → Prop)
    (holds : History State Action → State → Prop) (hStart : holds [] start)
    (hStep : ∀ history state action after, Run step start history state →
      holds history state → permitted state action → step state action = .ok after →
      holds (history ++ [(state, action)]) after)
    (hPermitted : ∀ entry ∈ history, permitted entry.1 entry.2) :
    holds history finish := by
  induction run with
  | nil => exact hStart
  | @snoc history state after action prior last ih =>
      have hPrior := ih fun entry hEntry =>
        hPermitted entry (List.mem_append_left _ hEntry)
      have hLast : permitted state action := hPermitted (state, action) (by simp)
      exact hStep history state action after prior hPrior hLast last

/-- An invariant that only the permitted actions preserve holds after a run of
permitted actions. -/
theorem Run.invariant_of_permitted {start finish : State} {history : History State Action}
    (run : Run step start history finish) (permitted : State → Action → Prop)
    (invariant : State → Prop) (hStart : invariant start)
    (hStep : ∀ state action after, invariant state → permitted state action →
      step state action = .ok after → invariant after)
    (hPermitted : ∀ entry ∈ history, permitted entry.1 entry.2) :
    invariant finish :=
  run.induction_of_permitted permitted (fun _ state => invariant state) hStart
    (fun _ state action after _ hState hAction hLast =>
      hStep state action after hState hAction hLast) hPermitted

/-- The second run continues where the first one stopped. -/
theorem Run.trans {start middle finish : State} {first second : History State Action}
    (left : Run step start first middle) (right : Run step middle second finish) :
    Run step start (first ++ second) finish := by
  induction right with
  | nil => simpa using left
  | snoc prior last ih => simpa [List.append_assoc] using Run.snoc ih last

/-- Every split of the history is a split of the run. -/
theorem Run.split {start finish : State} {first second : History State Action}
    (run : Run step start (first ++ second) finish) :
    ∃ middle, Run step start first middle ∧ Run step middle second finish := by
  generalize hWhole : first ++ second = whole at run
  induction run generalizing second with
  | nil =>
      obtain ⟨rfl, rfl⟩ := List.append_eq_nil_iff.mp hWhole
      exact ⟨start, .nil, .nil⟩
  | @snoc history state after action prior last ih =>
      rcases List.eq_nil_or_concat second with rfl | ⟨rest, entry, rfl⟩
      · rw [List.append_nil] at hWhole
        subst hWhole
        exact ⟨after, .snoc prior last, .nil⟩
      · rw [List.concat_eq_append] at hWhole ⊢
        rw [← List.append_assoc] at hWhole
        obtain ⟨hHistory, hEntry⟩ := List.append_inj' hWhole rfl
        obtain ⟨middle, left, right⟩ := ih hHistory
        cases hEntry
        exact ⟨middle, left, .snoc right last⟩

/-- The entry at a split is the state reached there and the step taken next. -/
theorem Run.split_cons {start finish state : State} {action : Action}
    {first second : History State Action}
    (run : Run step start (first ++ (state, action) :: second) finish) :
    ∃ after, Run step start first state ∧ step state action = .ok after ∧
      Run step after second finish := by
  rw [← List.singleton_append, ← List.append_assoc] at run
  obtain ⟨after, left, right⟩ := run.split
  generalize hWhole : first ++ [(state, action)] = whole at left
  cases left with
  | nil => simp at hWhole
  | snoc prior last =>
      obtain ⟨rfl, hEntry⟩ := List.append_inj' hWhole rfl
      cases hEntry
      exact ⟨after, prior, last, right⟩

/-- The state of an entry was reached, and its action did not fail there. -/
theorem Run.step_of_mem {start finish : State} {history : History State Action}
    (run : Run step start history finish) {entry : State × Action} (hEntry : entry ∈ history) :
    ∃ prior after, Run step start prior entry.1 ∧ step entry.1 entry.2 = .ok after := by
  obtain ⟨prior, rest, rfl⟩ := List.append_of_mem hEntry
  obtain ⟨after, left, last, _⟩ := run.split_cons
  exact ⟨prior, after, left, last⟩

/-- Execute a list of actions; the first failure ends the execution. -/
def exec (step : State → Action → Except Failure State) :
    State → List Action → Except Failure State
  | state, [] => .ok state
  | state, action :: rest =>
      match step state action with
      | .ok after => exec step after rest
      | .error failure => .error failure

/-- The entries that the execution of a list of actions records. -/
def historyOf (step : State → Action → Except Failure State) :
    State → List Action → History State Action
  | _, [] => []
  | state, action :: rest =>
      (state, action) :: match step state action with
        | .ok after => historyOf step after rest
        | .error _ => []

/-- The execution records actions of its list only. -/
theorem action_mem_of_mem_historyOf {start : State} {actions : List Action}
    {entry : State × Action} (h : entry ∈ historyOf step start actions) :
    entry.2 ∈ actions := by
  induction actions generalizing start with
  | nil => cases h
  | cons action rest ih =>
      rcases List.mem_cons.mp h with rfl | hRest
      · exact List.mem_cons_self
      · cases hStep : step start action with
        | error failure => simp [hStep] at hRest
        | ok after =>
            rw [hStep] at hRest
            exact List.mem_cons_of_mem _ (ih hRest)

/-- An execution without failures is a run with the history it records. -/
theorem run_of_exec {start finish : State} {actions : List Action}
    (h : exec step start actions = .ok finish) :
    Run step start (historyOf step start actions) finish := by
  induction actions generalizing start with
  | nil =>
      simp only [exec, Except.ok.injEq] at h
      subst finish
      exact .nil
  | cons action rest ih =>
      simp only [exec] at h
      cases hStep : step start action with
      | error failure => simp [hStep] at h
      | ok after =>
          rw [hStep] at h
          have hFirst : Run step start [(start, action)] after := .snoc .nil hStep
          simpa [historyOf, hStep] using hFirst.trans (ih h)

/-- Two lists of actions are executed one after the other. -/
theorem exec_append {start middle : State} {first : List Action} (second : List Action)
    (h : exec step start first = .ok middle) :
    exec step start (first ++ second) = exec step middle second := by
  induction first generalizing start with
  | nil =>
      cases h
      rfl
  | cons action rest ih =>
      simp only [exec, List.cons_append] at h ⊢
      cases hStep : step start action with
      | error failure => simp [hStep] at h
      | ok after =>
          rw [hStep] at h
          exact ih h

/-- Actions that complete and keep an invariant complete one after another. -/
theorem exec_completes (permitted : Action → Prop) (invariant : State → Prop)
    (hStep : ∀ state action, invariant state → permitted action →
      ∃ after, step state action = .ok after ∧ invariant after)
    {start : State} (hStart : invariant start) {actions : List Action}
    (hPermitted : ∀ action ∈ actions, permitted action) :
    ∃ finish, exec step start actions = .ok finish ∧ invariant finish := by
  induction actions generalizing start with
  | nil => exact ⟨start, rfl, hStart⟩
  | cons action rest ih =>
      obtain ⟨hAction, hRest⟩ := List.forall_mem_cons.mp hPermitted
      obtain ⟨after, hAfter, hNext⟩ := hStep start action hStart hAction
      rw [exec, hAfter]
      exact ih hNext hRest

/-- An action that completes and uses up what it works on, one at a time, can be repeated
until nothing is left. -/
theorem exec_drains {action : Action} (size : State → Nat) (invariant : State → Prop)
    (hStep : ∀ state, invariant state → size state ≠ 0 → ∃ after,
      step state action = .ok after ∧ invariant after ∧ size state = size after + 1)
    {start : State} (hStart : invariant start) :
    ∃ finish, exec step start (List.replicate (size start) action) = .ok finish ∧
      invariant finish ∧ size finish = 0 := by
  induction hSize : size start generalizing start with
  | zero => exact ⟨start, rfl, hStart, hSize⟩
  | succ count ih =>
      obtain ⟨after, hAfter, hNext, hLess⟩ := hStep start hStart (by omega)
      obtain ⟨finish, hExec, hFinish⟩ := ih hNext (by omega)
      refine ⟨finish, ?_, hFinish⟩
      rw [List.replicate_succ, exec, hAfter]
      exact hExec

end Semantics
