import LockJaw.Cocoa.Date
import Mathlib.Algebra.Order.Ring.Unbundled.Rat
import Mathlib.Data.List.Sort

/-! Sorted results of a store. The store compares one column of two rows; rows that
compare equal come in an order of its own, so a sort is any arrangement in which no row
stands behind one that it precedes. -/
namespace Cocoa

/-- A sort by a predicate on rows, with what is promised of its result. -/
structure ResultsSort (Row : Type*) (precedes : Row → Row → Bool) where
  sort : List Row → List Row
  perm : ∀ rows, (sort rows).Perm rows
  sorted : ∀ rows, (sort rows).Pairwise fun first second => precedes second first = false

/-- `ColumnTemplate::compare_values` on a column of dates, which may be null. -/
def compareValues : Option NSDate → Option NSDate → Int
  | none, none => 0
  | none, some _ => 1
  | some _, none => -1
  | some first, some second =>
      if first.time = second.time then 0 else if first.time < second.time then 1 else -1

/-- `Sorter::operator()`, for one column. -/
def sorter (ascending : Bool) (first second : Option NSDate) : Bool :=
  let c := compareValues first second
  if c ≠ 0 then (if ascending then decide (c > 0) else decide (c < 0)) else false

/-- What a descending sort puts first: later dates, and dates before none. -/
theorem sorter_descending {first second : Option NSDate} :
    sorter false first second = true ↔ ∃ date, first = some date ∧
      ∀ other, second = some other → other.time < date.time := by
  cases first with
  | none => cases second <;> simp [sorter, compareValues]
  | some date =>
      cases second with
      | none => simp [sorter, compareValues]
      | some other =>
          rcases lt_trichotomy date.time other.time with hEarlier | hSame | hLater
          · simp [sorter, compareValues, hEarlier.ne, hEarlier, hEarlier.le]
          · simp [sorter, compareValues, hSame]
          · simp [sorter, compareValues, hLater.ne', hLater.not_gt, hLater]

theorem sorter_descending_asymm {first second : Option NSDate}
    (h : sorter false first second = true) : sorter false second first = false := by
  obtain ⟨date, rfl, hLater⟩ := sorter_descending.mp h
  rw [← Bool.not_eq_true, sorter_descending]
  rintro ⟨other, rfl, hOther⟩
  exact (hLater other rfl).not_gt (hOther date rfl)

/-- A descending sort does not see an order between rows that compare equal, and what it
does not put first it does not put first by way of a third row. -/
theorem sorter_descending_trans {first second third : Option NSDate}
    (hFirst : sorter false second first = false) (hSecond : sorter false third second = false) :
    sorter false third first = false := by
  rw [← Bool.not_eq_true, sorter_descending] at hFirst hSecond ⊢
  rintro ⟨date, rfl, hLater⟩
  cases second with
  | none => exact hSecond ⟨date, rfl, nofun⟩
  | some middle =>
      have hMiddle : date.time ≤ middle.time := by
        by_contra hBehind
        apply hSecond
        refine ⟨date, rfl, ?_⟩
        intro other hOther
        cases hOther
        exact not_le.mp hBehind
      apply hFirst
      refine ⟨middle, rfl, ?_⟩
      intro other hOther
      exact (hLater other hOther).trans_le hMiddle

section Sorting
variable {Row : Type*} {precedes : Row → Row → Bool}

/-- Rows that precede one another in turn and precede all others stand first, in their
order. -/
theorem sorted_prefix {rows top rest : List Row} (hPerm : rows.Perm (top ++ rest))
    (hSorted : rows.Pairwise fun first second => precedes second first = false)
    (hTop : top.Pairwise fun first second => precedes first second = true)
    (hAbove : ∀ first ∈ top, ∀ second ∈ rest, precedes first second = true) :
    ∃ others, rows = top ++ others ∧ others.Perm rest := by
  induction top generalizing rows with
  | nil => exact ⟨rows, rfl, hPerm⟩
  | cons first top ih =>
      have hFirst : first ∈ rows := hPerm.mem_iff.mpr (by simp)
      cases rows with
      | nil => cases hFirst
      | cons head tail =>
          have hHead : head = first := by
            by_contra hOther
            have hTail : first ∈ tail :=
              (List.mem_cons.mp hFirst).resolve_left fun hSame => hOther hSame.symm
            have hBehind := (List.pairwise_cons.mp hSorted).1 first hTail
            have hPrecedes : precedes first head = true := by
              rcases List.mem_cons.mp (hPerm.mem_iff.mp List.mem_cons_self) with hSame | hMem
              · exact absurd hSame hOther
              · rcases List.mem_append.mp hMem with hMem | hMem
                · exact (List.pairwise_cons.mp hTop).1 head hMem
                · exact hAbove first List.mem_cons_self head hMem
            rw [hPrecedes] at hBehind
            cases hBehind
          subst hHead
          obtain ⟨others, hTail, hOthers⟩ := ih (List.perm_cons head |>.mp hPerm)
            (List.pairwise_cons.mp hSorted).2 (List.pairwise_cons.mp hTop).2
            fun second hSecond => hAbove second (List.mem_cons_of_mem _ hSecond)
          exact ⟨others, by rw [hTail, List.cons_append], hOthers⟩

/-- A sort that keeps rows which compare equal in the order they have. -/
def ResultsSort.stable
    (hTotal : ∀ first second, precedes first second = true → precedes second first = false)
    (hTrans : ∀ first second third, precedes second first = false →
      precedes third second = false → precedes third first = false) :
    ResultsSort Row precedes where
  sort := List.insertionSort fun first second => precedes second first = false
  perm := List.perm_insertionSort _
  sorted := by
    intro rows
    have hBoth : Std.Total fun first second => precedes second first = false := by
      constructor
      intro first second
      cases hPrecedes : precedes second first with
      | false => exact .inl rfl
      | true => exact .inr (hTotal second first hPrecedes)
    have hChain : IsTrans Row fun first second => precedes second first = false := by
      constructor
      exact hTrans
    exact List.pairwise_insertionSort _ rows

end Sorting

end Cocoa
