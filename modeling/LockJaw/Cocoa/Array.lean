import Mathlib.Data.List.Basic
import Mathlib.Data.List.Nodup
import Mathlib.Data.List.Perm.Subperm

/-! Foundation's arrays as lists. Reading or removing outside the bounds raises,
searching returns `NSNotFound` for an absent object, and both sides of that
protocol are kept: an index that came from a failed search raises when used. -/
namespace Cocoa
universe u

inductive NSException where
  | rangeException
  | invalidArgumentException
  | internalInconsistencyException
deriving DecidableEq, Repr

/-- A position as it is passed to an array. `NSNotFound` is the largest
`NSInteger`; it is kept apart from the integers because an array, whose count is
below it, has no element there, while lists may have any length. -/
inductive NSIndex where
  | position (value : Int)
  | notFound
deriving DecidableEq, Repr

/-- The C comparison `index < 0`; `NSNotFound` is positive. -/
def NSIndex.isNegative : NSIndex → Bool
  | .position value => decide (value < 0)
  | .notFound => false

/-- The C comparison `index > 0`. -/
def NSIndex.isPositive : NSIndex → Bool
  | .position value => decide (0 < value)
  | .notFound => true

variable {α : Type*}

def objectAtIndex (array : List α) : NSIndex → Except NSException α
  | .position (.ofNat n) => match array[n]? with
    | some object => .ok object
    | none => .error .rangeException
  | _ => .error .rangeException

def removeObjectAtIndex (array : List α) : NSIndex → Except NSException (List α)
  | .position (.ofNat n) =>
      if n < array.length then .ok (array.eraseIdx n) else .error .rangeException
  | _ => .error .rangeException

/-- The first position of the object, by `isEqual:`. -/
def indexOfObject [DecidableEq α] (array : List α) (object : α) : NSIndex :=
  if object ∈ array then .position (array.idxOf object) else .notFound

def containsObject [DecidableEq α] (array : List α) (object : α) : Bool :=
  decide (object ∈ array)

theorem objectAtIndex_natCast (array : List α) (n : Nat) {object : α}
    (h : array[n]? = some object) :
    objectAtIndex array (.position n) = .ok object := by
  change objectAtIndex array (.position (.ofNat n)) = _
  simp only [objectAtIndex, h]

/-- An access that does not raise is at a position in the array. -/
theorem objectAtIndex_eq_ok {array : List α} {index : NSIndex} {object : α} :
    objectAtIndex array index = .ok object ↔
      ∃ n : Nat, index = .position n ∧ array[n]? = some object := by
  constructor
  · intro h
    match index with
    | .position (.ofNat n) =>
        refine ⟨n, rfl, ?_⟩
        simp only [objectAtIndex] at h
        cases hGet : array[n]? with
        | none => simp [hGet] at h
        | some found => simpa [hGet] using h
    | .position (.negSucc n) => simp [objectAtIndex] at h
    | .notFound => simp [objectAtIndex] at h
  · rintro ⟨n, rfl, hGet⟩
    exact objectAtIndex_natCast array n hGet

/-- Reading below zero, or at or past the count, raises. -/
theorem objectAtIndex_out_of_range {array : List α} {index : Int}
    (h : index < 0 ∨ array.length ≤ index) :
    objectAtIndex array (.position index) = .error .rangeException := by
  match index with
  | .ofNat n =>
      have hLength : array.length ≤ n := by
        rcases h with h | h <;> simp only [Int.ofNat_eq_natCast] at h <;> omega
      simp [objectAtIndex, List.getElem?_eq_none hLength]
  | .negSucc n => rfl

/-- A removal that does not raise is at a position in the array, and takes that object alone.
-/
theorem removeObjectAtIndex_eq_ok {array rest : List α} {index : NSIndex} :
    removeObjectAtIndex array index = .ok rest ↔
      ∃ n : Nat, index = .position n ∧ n < array.length ∧ rest = array.eraseIdx n := by
  constructor
  · intro h
    match index with
    | .position (.ofNat n) =>
        simp only [removeObjectAtIndex] at h
        split at h
        · rename_i hBound
          exact ⟨n, rfl, hBound, by simpa using h.symm⟩
        · cases h
    | .position (.negSucc n) => simp [removeObjectAtIndex] at h
    | .notFound => simp [removeObjectAtIndex] at h
  · rintro ⟨n, rfl, hBound, rfl⟩
    change (if n < array.length then _ else _) = _
    rw [if_pos hBound]

section Search
variable [DecidableEq α] {array : List α} {object : α}

theorem indexOfObject_of_mem (h : object ∈ array) :
    indexOfObject array object = .position (array.idxOf object) := if_pos h

theorem indexOfObject_of_not_mem (h : object ∉ array) :
    indexOfObject array object = .notFound := if_neg h

/-- Removing at the position a search returned removes the first occurrence. -/
theorem removeObjectAtIndex_indexOfObject (h : object ∈ array) :
    removeObjectAtIndex array (indexOfObject array object) = .ok (array.erase object) := by
  rw [indexOfObject_of_mem h, removeObjectAtIndex_eq_ok]
  refine ⟨array.idxOf object, rfl, List.idxOf_lt_length_of_mem h, ?_⟩
  exact List.erase_eq_eraseIdx_of_idxOf rfl

/-- An index returned by a failed search raises when it is removed at. -/
theorem removeObjectAtIndex_indexOfObject_of_not_mem (h : object ∉ array) :
    removeObjectAtIndex array (indexOfObject array object) = .error .rangeException := by
  rw [indexOfObject_of_not_mem h]
  rfl

end Search

/-- In a duplicate-free array, removing a position removes that object. -/
theorem eraseIdx_eq_erase [DecidableEq α] {array : List α} (hNodup : array.Nodup) {n : Nat}
    {object : α} (h : array[n]? = some object) : array.eraseIdx n = array.erase object := by
  obtain ⟨hBound, hGet⟩ := List.getElem?_eq_some_iff.mp h
  rw [List.erase_eq_eraseIdx_of_idxOf]
  rw [← hGet]
  exact hNodup.idxOf_getElem n hBound

@[simp] theorem ok_bind {β γ : Type u} (value : β) (next : β → Except NSException γ) :
    (Except.ok value >>= next) = next value := rfl

@[simp] theorem pure_eq_ok {β : Type u} (value : β) :
    (pure value : Except NSException β) = .ok value := rfl

/-- What a fallible sequence returned came from a first part that returned. -/
theorem bind_eq_ok {β γ : Type u} {first : Except NSException β}
    {next : β → Except NSException γ} {result : γ} :
    (first >>= next) = .ok result ↔ ∃ value, first = .ok value ∧ next value = .ok result := by
  cases first with
  | error exception =>
      constructor
      · intro h
        cases h
      · rintro ⟨_, h, _⟩
        cases h
  | ok value =>
      constructor
      · intro h
        exact ⟨value, rfl, h⟩
      · rintro ⟨_, hValue, h⟩
        cases hValue
        exact h

/-! Objects that are removed one after another. Whoever searches for each of them just
before its removal hands on indices that are good for one purpose only: removing at them,
in the same order, from another copy of the array. -/
section InTurn

/-- Remove at each index in turn: the objects that leave, and the array that is left. -/
def removeObjectsInTurn (array : List α) : List NSIndex → Except NSException (List α × List α)
  | [] => .ok ([], array)
  | index :: rest => do
      let object ← objectAtIndex array index
      let shorter ← removeObjectAtIndex array index
      let (removed, final) ← removeObjectsInTurn shorter rest
      return (object :: removed, final)

/-- The index of each object in the array without the objects before it. -/
def indicesInTurn [DecidableEq α] : List α → List α → List NSIndex
  | _, [] => []
  | array, object :: rest =>
      indexOfObject array object :: indicesInTurn (array.erase object) rest

/-- Removals in two parts are the removals of both. -/
theorem removeObjectsInTurn_append {array middle final first second : List α}
    {indices further : List NSIndex}
    (hFirst : removeObjectsInTurn array indices = .ok (first, middle))
    (hSecond : removeObjectsInTurn middle further = .ok (second, final)) :
    removeObjectsInTurn array (indices ++ further) = .ok (first ++ second, final) := by
  induction indices generalizing array first with
  | nil =>
      cases hFirst
      exact hSecond
  | cons index rest ih =>
      obtain ⟨object, hObject, hFirst⟩ := bind_eq_ok.mp hFirst
      obtain ⟨shorter, hShorter, hFirst⟩ := bind_eq_ok.mp hFirst
      obtain ⟨⟨removed, left⟩, hRest, hResult⟩ := bind_eq_ok.mp hFirst
      cases hResult
      rw [List.cons_append, removeObjectsInTurn, hObject, ok_bind, hShorter, ok_bind, ih hRest]
      rfl

variable [DecidableEq α]

@[simp] theorem length_indicesInTurn (array objects : List α) :
    (indicesInTurn array objects).length = objects.length := by
  induction objects generalizing array with
  | nil => rfl
  | cons object rest ih => rw [indicesInTurn, List.length_cons, ih, List.length_cons]

/-- The first indices are those of the first objects. -/
theorem take_indicesInTurn (array objects : List α) (k : Nat) :
    (indicesInTurn array objects).take k = indicesInTurn array (objects.take k) := by
  induction objects generalizing array k with
  | nil => rw [indicesInTurn, List.take_nil, List.take_nil, indicesInTurn]
  | cons object rest ih =>
      cases k with
      | zero => rfl
      | succ k => rw [indicesInTurn, List.take_succ_cons, ih, List.take_succ_cons, indicesInTurn]

/-- Objects can be taken out in turn when the first is there and the others are in what
its removal leaves. -/
theorem cons_subperm_iff {array rest : List α} {object : α} :
    (object :: rest).Subperm array ↔ object ∈ array ∧ rest.Subperm (array.erase object) := by
  constructor
  · intro h
    have hMem := h.subset List.mem_cons_self
    rw [(List.perm_cons_erase hMem).subperm_left, List.subperm_cons] at h
    exact ⟨hMem, h⟩
  · rintro ⟨hMem, h⟩
    rw [(List.perm_cons_erase hMem).subperm_left, List.subperm_cons]
    exact h

/-- At the indices found in turn, the removals take the searched objects, and leave what
erasing these would. -/
theorem removeObjectsInTurn_indicesInTurn {array objects : List α}
    (h : objects.Subperm array) :
    removeObjectsInTurn array (indicesInTurn array objects) =
      .ok (objects, array.diff objects) := by
  induction objects generalizing array with
  | nil => rfl
  | cons object rest ih =>
      obtain ⟨hMem, hRest⟩ := cons_subperm_iff.mp h
      have hGet : objectAtIndex array (indexOfObject array object) = .ok object := by
        rw [indexOfObject_of_mem hMem]
        exact objectAtIndex_natCast array _ (List.getElem?_idxOf hMem)
      rw [indicesInTurn, removeObjectsInTurn, hGet, ok_bind,
        removeObjectAtIndex_indexOfObject hMem, ok_bind, ih hRest, List.diff_cons]
      rfl

end InTurn

end Cocoa
