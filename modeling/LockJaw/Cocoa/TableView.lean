import LockJaw.Cocoa.Array

/-! A table view and its data source. The table remembers the row counts it last read
and the cells it has drawn; at the end of a batch of updates the counts it reads have
to be the remembered ones plus the rows inserted and minus the rows deleted. -/
namespace Cocoa

structure NSIndexPath where
  row : Int
  inSection : Int
deriving DecidableEq, Repr

structure UITableView (Cell : Type*) where
  numberOfRows : Int → Int
  cells : NSIndexPath → Option Cell

namespace UITableView

variable {Cell : Type*}

/-- Before anything was loaded. -/
def init : UITableView Cell where
  numberOfRows := fun _ => 0
  cells := fun _ => none

/-- `reloadData` reads the counts again and drops every cell. -/
def reloadData (_ : UITableView Cell) (dataSource : Int → Int) : UITableView Cell where
  numberOfRows := dataSource
  cells := fun _ => none

def hasRow (table : UITableView Cell) (path : NSIndexPath) : Bool :=
  decide (0 ≤ path.row ∧ path.row < table.numberOfRows path.inSection)

/-- A drawn cell stays until its row goes away or the table reloads. -/
def drawCell (table : UITableView Cell) (path : NSIndexPath) (cell : Cell) : UITableView Cell :=
  { table with cells := fun other => if other = path then some cell else table.cells other }

theorem drawCell_cells_self (table : UITableView Cell) (path : NSIndexPath) (cell : Cell) :
    (table.drawCell path cell).cells path = some cell := if_pos rfl

theorem drawCell_cells_of_ne (table : UITableView Cell) {path other : NSIndexPath} (cell : Cell)
    (h : other ≠ path) : (table.drawCell path cell).cells other = table.cells other := if_neg h

/-- The cells after a row was inserted above the rows from `path` on. -/
def cellsAfterInsert (table : UITableView Cell) (path other : NSIndexPath) : Option Cell :=
  if other.inSection = path.inSection ∧ path.row ≤ other.row then
    if other.row = path.row then none else table.cells { other with row := other.row - 1 }
  else table.cells other

/-- The cells after the row at `path` was deleted. -/
def cellsAfterDelete (table : UITableView Cell) (path other : NSIndexPath) : Option Cell :=
  if other.inSection = path.inSection ∧ path.row ≤ other.row then
    table.cells { other with row := other.row + 1 }
  else table.cells other

/-- The batch contract, for one batch whose only update changes the count of
`inSection` by `change`. -/
def batchAgrees (table : UITableView Cell) (sections : List Int) (dataSource : Int → Int)
    (inSection change : Int) : Bool :=
  sections.all fun other => decide
    (dataSource other = table.numberOfRows other + if other = inSection then change else 0)

/-- `beginUpdates`, `insertRowsAtIndexPaths:` with one path, `endUpdates`. -/
def insertRow (table : UITableView Cell) (sections : List Int) (dataSource : Int → Int)
    (path : NSIndexPath) : Except NSException (UITableView Cell) :=
  if path.inSection ∈ sections ∧ 0 ≤ path.row ∧ path.row < dataSource path.inSection ∧
      table.batchAgrees sections dataSource path.inSection 1 then
    .ok { numberOfRows := dataSource, cells := table.cellsAfterInsert path }
  else .error .internalInconsistencyException

/-- `beginUpdates`, `deleteRowsAtIndexPaths:` with one path, `endUpdates`. -/
def deleteRow (table : UITableView Cell) (sections : List Int) (dataSource : Int → Int)
    (path : NSIndexPath) : Except NSException (UITableView Cell) :=
  if path.inSection ∈ sections ∧ table.hasRow path ∧
      table.batchAgrees sections dataSource path.inSection (-1) then
    .ok { numberOfRows := dataSource, cells := table.cellsAfterDelete path }
  else .error .internalInconsistencyException

/-- An insertion that does not raise is of a row that the data source has, in a batch that
agrees with it. -/
theorem insertRow_eq_ok {table after : UITableView Cell} {sections : List Int}
    {dataSource : Int → Int} {path : NSIndexPath}
    (h : table.insertRow sections dataSource path = .ok after) :
    0 ≤ path.row ∧ path.row < dataSource path.inSection ∧
      table.batchAgrees sections dataSource path.inSection 1 = true ∧
      after = { numberOfRows := dataSource, cells := table.cellsAfterInsert path } := by
  unfold insertRow at h
  split at h
  · rename_i hContract
    cases h
    exact ⟨hContract.2.1, hContract.2.2.1, hContract.2.2.2, rfl⟩
  · cases h

/-- Rows that the table does not have were never drawn. -/
theorem cells_eq_none {table : UITableView Cell}
    (hCells : ∀ path cell, table.cells path = some cell → table.hasRow path = true)
    {path : NSIndexPath} (h : table.numberOfRows path.inSection ≤ path.row) :
    table.cells path = none := by
  cases hCell : table.cells path with
  | none => rfl
  | some cell =>
      have hRow := hCells path cell hCell
      rw [hasRow, decide_eq_true_eq] at hRow
      omega

/-- A row inserted below all others moves no cell. -/
theorem cellsAfterInsert_of_end {table : UITableView Cell}
    (hCells : ∀ path cell, table.cells path = some cell → table.hasRow path = true)
    {path : NSIndexPath} (hEnd : table.numberOfRows path.inSection ≤ path.row) :
    table.cellsAfterInsert path = table.cells := by
  funext other
  unfold cellsAfterInsert
  split
  · rename_i hBelow
    rw [← hBelow.1] at hEnd
    rw [cells_eq_none hCells (show table.numberOfRows other.inSection ≤ other.row by omega)]
    split
    · rfl
    · apply cells_eq_none hCells
      change table.numberOfRows other.inSection ≤ other.row - 1
      omega
  · rfl

end UITableView
end Cocoa
