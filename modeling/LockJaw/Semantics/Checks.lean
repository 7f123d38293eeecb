import Mathlib.Data.List.Basic

/-! Computations that check one part of their input after another and raise the first fault.
Such a computation is described by the list of all faults and by what a faultless input
gives. -/
namespace Semantics

universe u v

variable {ε : Type u} {α β : Type v}

/-- The computation completes with the only value that is right, or there is none and it
raises the first fault. -/
inductive Checked : Except ε α → List ε → (α → Prop) → Prop where
  | completes {right : α → Prop} {value : α} (hRight : ∀ other, right other ↔ other = value) :
      Checked (.ok value) [] right
  | raises {right : α → Prop} {fault : ε} {others : List ε} (hNone : ∀ other, ¬ right other) :
      Checked (.error fault) (fault :: others) right

namespace Checked
variable {run : Except ε α} {faults : List ε} {right : α → Prop}

/-- A last step that may raise a fault of its own. -/
theorem bind_eq_ok_iff (h : Checked run faults right) {next : α → Except ε β} {result : β} :
    run >>= next = .ok result ↔ ∃ value, right value ∧ next value = .ok result := by
  cases h with
  | @completes _ value hRight =>
      show next value = .ok result ↔ _
      simp [hRight]
  | raises hNone =>
      constructor
      · intro hOk
        cases hOk
      · intro ⟨value, hValue, _⟩
        exact absurd hValue (hNone value)

theorem bind_eq_error_iff (h : Checked run faults right) {next : α → Except ε β} {fault : ε} :
    run >>= next = .error fault ↔
      faults.head? = some fault ∨ ∃ value, right value ∧ next value = .error fault := by
  cases h with
  | @completes _ value hRight =>
      show next value = .error fault ↔ _
      simp [hRight]
  | @raises _ first others hNone =>
      show Except.error first = .error fault ↔ _
      simp [hNone]

/-- A value that is looked up. -/
theorem lookup {found : Option α} {fault : ε} (hNone : found = none → run = .error fault)
    (hSome : ∀ value, found = some value → run = .ok value) :
    Checked run (if found.isNone then [fault] else []) (found = some ·) := by
  cases found with
  | none =>
      rw [hNone rfl]
      exact .raises fun value => by simp
  | some value =>
      rw [hSome value rfl]
      exact .completes fun other => by simp [eq_comm]

/-- What comes later may use the value, its faults may not. -/
theorem bind (h : Checked run faults right) {next : α → Except ε β} {later : List ε}
    {rights : α → β → Prop}
    (hNext : ∀ value, right value → Checked (next value) later (rights value)) :
    Checked (run >>= next) (faults ++ later) fun result =>
      ∃ value, right value ∧ rights value result := by
  cases h with
  | @completes _ value hRight =>
      have hLater := hNext value ((hRight value).mpr rfl)
      have hSame : rights value = fun result => ∃ other, right other ∧ rights other result := by
        funext result
        simp [hRight]
      rw [hSame] at hLater
      exact hLater
  | raises hNone => exact .raises fun result ⟨value, hValue, _⟩ => hNone value hValue

theorem of_iff (h : Checked run faults right) {same : α → Prop}
    (hSame : ∀ value, right value ↔ same value) : Checked run faults same := by
  have hEq : right = same := funext fun value => propext (hSame value)
  rw [← hEq]
  exact h

/-- The last step only puts the values together. -/
theorem map (h : Checked run faults right) (combine : α → β) :
    Checked (run >>= fun value => .ok (combine value)) faults fun result =>
      ∃ value, right value ∧ result = combine value := by
  rw [← List.append_nil faults]
  exact h.bind fun value _ => .completes fun _ => Iff.rfl

theorem pure (value : α) : Checked (.ok value : Except ε α) [] (· = value) :=
  .completes fun _ => Iff.rfl

end Checked
end Semantics
