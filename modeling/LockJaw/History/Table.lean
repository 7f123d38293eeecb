import LockJaw.Bluetooth.World
import LockJaw.Cocoa.Results
import LockJaw.Cocoa.TableView
import LockJaw.Tab.Button

/-! The history screen, `LKJHistoryTableViewController` with its cells. Its results are a
live view of the store, sorted again at every read, while the table keeps the count and
the cells it read last. -/
namespace LockJaw

open Cocoa

namespace UIColor

def lkj_lockedColor : UIColor := ⟨162 / 255, 0 / 255, 37 / 255, 1⟩

def lkJ_unlockedColor : UIColor := ⟨71 / 255, 151 / 255, 65 / 255, 1⟩

end UIColor

/-- `LKJDateFormatter`, by what it asks the calendar and its two date formatters. -/
structure LKJDateFormatter where
  isDateInToday : NSDate → Option NSDate → Bool
  sharedShortTimeFormatter : Option NSDate → Option String
  sharedShortDateFormatter : Option NSDate → Option String

/-- `historyDisplayFromDate:`, asked at `now`. -/
def LKJDateFormatter.historyDisplayFromDate (formatter : LKJDateFormatter) (now : NSDate)
    (date : Option NSDate) : Option String :=
  if formatter.isDateInToday now date then formatter.sharedShortTimeFormatter date
  else formatter.sharedShortDateFormatter date

structure LKJHistoryTableViewCell where
  historyItem : LKJHistory
  circleViewBackgroundColor : UIColor
  dateLabelText : Option String
  capsusNameText : Option String
deriving DecidableEq

/-- `setHistoryItem:` on a dequeued cell, which it sets throughout. -/
def LKJHistoryTableViewCell.setHistoryItem (formatter : LKJDateFormatter) (now : NSDate)
    (historyItem : LKJHistory) : LKJHistoryTableViewCell where
  historyItem := historyItem
  circleViewBackgroundColor :=
    if historyItem.isLockAction then .lkj_lockedColor else .lkJ_unlockedColor
  dateLabelText := formatter.historyDisplayFromDate now historyItem.activatedDate
  capsusNameText := historyItem.lockName

/-- A sort by `activatedDate`, descending. -/
abbrev HistorySort :=
  ResultsSort LKJHistory fun first second =>
    sorter false first.activatedDate second.activatedDate

/-- What the platform contributes: how the store sorts, and how dates are written. -/
structure Platform where
  historySort : HistorySort
  dateFormatter : LKJDateFormatter

/-- A platform that keeps records of one date in the order they were written, and writes
no dates. -/
def samplePlatform : Platform where
  historySort := .stable (fun _ _ => sorter_descending_asymm) fun _ _ _ =>
    sorter_descending_trans
  dateFormatter := {
    isDateInToday := fun _ _ => true
    sharedShortTimeFormatter := fun _ => none
    sharedShortDateFormatter := fun _ => none }

namespace HistoryScreen

variable (platform : Platform) (realm : RLMRealm)

/-- The results of `allObjects` sorted, as they are at a read. -/
def results : List LKJHistory := platform.historySort.sort realm.history

/-- `tableView:numberOfRowsInSection:`, which does not look at the section. -/
def numberOfRows (_inSection : Int) : Int := (results platform realm).length

/-- What a table of one section reads of it. -/
def rowCounts (inSection : Int) : Int :=
  if inSection = 0 then numberOfRows platform realm inSection else 0

/-- `tableView:cellForRowAtIndexPath:`. The store's own exception for an index out of its
bounds counts as a range exception. -/
def cellForRow (now : NSDate) (path : NSIndexPath) :
    Except NSException LKJHistoryTableViewCell := do
  let historyItem ← objectAtIndex (results platform realm) (.position path.row)
  return .setHistoryItem platform.dateFormatter now historyItem

section Results
variable {platform : Platform} {realm : RLMRealm}

theorem length_results : (results platform realm).length = realm.history.length :=
  (platform.historySort.perm realm.history).length_eq

/-- The table has a row for each record. -/
theorem rowCounts_zero : rowCounts platform realm 0 = realm.history.length := by
  rw [rowCounts, if_pos rfl, numberOfRows, length_results]

/-- A row shows the record at its place among the results. -/
theorem cellForRow_eq_ok {now : NSDate} {path : NSIndexPath} {n : Nat} {record : LKJHistory}
    (hPath : path.row = n) (h : (results platform realm)[n]? = some record) :
    cellForRow platform realm now path =
      .ok (.setHistoryItem platform.dateFormatter now record) := by
  rw [cellForRow, hPath, objectAtIndex_natCast _ n h]
  rfl

/-- A row below the count can be drawn. -/
theorem cellForRow_completes {now : NSDate} {path : NSIndexPath}
    (hRow : 0 ≤ path.row ∧ path.row < realm.history.length) :
    ∃ record, (results platform realm)[path.row.toNat]? = some record ∧
      cellForRow platform realm now path =
        .ok (.setHistoryItem platform.dateFormatter now record) := by
  have hBound : path.row.toNat < (results platform realm).length := by
    rw [length_results]
    omega
  have hGet := List.getElem?_eq_getElem hBound
  exact ⟨_, hGet, cellForRow_eq_ok (Int.toNat_of_nonneg hRow.1).symm hGet⟩

/-- Records written one after another, later than all before them, stand first in the
results, the last one at the top. -/
theorem results_newest_first {old new : List LKJHistory} (hRealm : realm.history = old ++ new)
    (hNew : new.Pairwise fun first second =>
      sorter false second.activatedDate first.activatedDate = true)
    (hLater : ∀ first ∈ new, ∀ second ∈ old,
      sorter false first.activatedDate second.activatedDate = true) :
    ∃ others, results platform realm = new.reverse ++ others ∧ others.Perm old := by
  have hPerm : (results platform realm).Perm (new.reverse ++ old) := by
    have hAll := platform.historySort.perm realm.history
    rw [hRealm] at hAll
    unfold results
    rw [hRealm]
    exact hAll.trans (List.perm_append_comm.trans ((List.reverse_perm new).symm.append_right old))
  apply sorted_prefix hPerm (platform.historySort.sorted realm.history)
  · exact List.pairwise_reverse.mpr hNew
  · intro first hFirst
    exact hLater first (List.mem_reverse.mp hFirst)

end Results

end HistoryScreen

end LockJaw
