import LockJaw.Connection.Taps
import LockJaw.Lock.Commands

/-! The batches of updates in which rows are inserted. Each block of
`newBluetoothDevice:` is one batch, or two for the first device of a section; every
batch inserts one row below all others, so the table's contract holds throughout. -/
namespace LockJaw

open Cocoa Semantics

/-- A row that one batch inserts, as the others header or for a device. -/
structure RowInsertion where
  path : NSIndexPath
  isHeader : Bool
deriving DecidableEq

namespace ConnectionScreen

/-- The rows a block of `newBluetoothDevice:` inserts, with the paths it computes before it
changes any count. -/
def insertedRows (screen : ConnectionScreen) (inSection : Int) : List RowInsertion :=
  if screen.numberOfRows inSection = 0 then
    [⟨⟨0, inSection⟩, true⟩, ⟨⟨screen.numberOfRows inSection + 1, inSection⟩, false⟩]
  else [⟨⟨screen.numberOfRows inSection, inSection⟩, false⟩]

/-- One batch: the count is incremented, then the row is inserted between `beginUpdates`
and `endUpdates`. -/
def insertBatch (screen : ConnectionScreen) (inserted : RowInsertion) :
    Except NSException ConnectionScreen :=
  let inSection := inserted.path.inSection
  (screen.setNumberOfRows inSection (screen.numberOfRows inSection + 1)).insertRow inserted.path

/-- What the table asks of a batch, against the counts it remembers, and where the two
kinds of rows belong. -/
structure ObeysBatchContract (screen after : ConnectionScreen) (inserted : RowInsertion) :
    Prop where
  added : after.numberOfRows inserted.path.inSection =
    screen.tableView.numberOfRows inserted.path.inSection + 1
  unchanged : ∀ other, other ≠ inserted.path.inSection →
    after.numberOfRows other = screen.tableView.numberOfRows other
  below : 0 ≤ inserted.path.row ∧
    inserted.path.row < after.numberOfRows inserted.path.inSection
  header : inserted.isHeader = true →
    inserted.path.row = 0 ∧ screen.tableView.numberOfRows inserted.path.inSection = 0
  device : inserted.isHeader = false → inserted.path.row ≠ 0 ∧
    inserted.path.row = screen.tableView.numberOfRows inserted.path.inSection

section Batches
variable {screen : ConnectionScreen} {inSection : Int}

/-- A block is the execution of its batches. -/
theorem newBluetoothDevice_eq_exec (hSection : inSection = 0 ∨ inSection = 1) :
    screen.newBluetoothDevice inSection =
      exec insertBatch screen (screen.insertedRows inSection) := by
  have hLast : ∀ (state : ConnectionScreen) (inserted : RowInsertion),
      exec insertBatch state [inserted] = state.insertBatch inserted := by
    intro state inserted
    rw [exec]
    cases state.insertBatch inserted <;> rfl
  rw [newBluetoothDevice, if_pos hSection, insertedRows]
  split
  · rw [exec, insertBatch]
    dsimp only
    cases (screen.setNumberOfRows inSection (screen.numberOfRows inSection + 1)).insertRow
        ⟨0, inSection⟩ with
    | error exception => rfl
    | ok middle =>
        change _ = exec insertBatch middle [_]
        rw [hLast]
        rfl
  · rw [hLast]
    rfl

/-- The counts after one more row agree with what the table remembers. -/
theorem TableInStep.batchAgrees (h : screen.TableInStep)
    (hSection : inSection = 0 ∨ inSection = 1) :
    UITableView.batchAgrees screen.tableView tableSections
      (screen.setNumberOfRows inSection (screen.numberOfRows inSection + 1)).numberOfRows
      inSection 1 = true := by
  rw [UITableView.batchAgrees, List.all_eq_true, h.rows]
  intro other _
  rw [decide_eq_true_eq, numberOfRows_setNumberOfRows screen hSection]
  split
  · rename_i hSame
    rw [hSame]
  · exact (Int.add_zero _).symm

/-- The table accepts a row below all others of its section. -/
theorem TableInStep.insertRow_at_end (h : screen.TableInStep)
    (hSection : inSection = 0 ∨ inSection = 1) (hCount : 0 ≤ screen.numberOfRows inSection) :
    ∃ after, (screen.setNumberOfRows inSection (screen.numberOfRows inSection + 1)).insertRow
      ⟨screen.numberOfRows inSection, inSection⟩ = .ok after := by
  have hMem : inSection ∈ tableSections := by
    rcases hSection with rfl | rfl
    · exact List.mem_cons_self
    · exact List.mem_cons_of_mem _ List.mem_cons_self
  rw [ConnectionScreen.insertRow, setNumberOfRows_tableView, UITableView.insertRow, if_pos]
  · exact ⟨_, rfl⟩
  · refine ⟨hMem, hCount, ?_, h.batchAgrees hSection⟩
    rw [numberOfRows_setNumberOfRows screen hSection, if_pos rfl]
    exact Int.lt_succ _

/-- A row at the end of its section is accepted, and its batch obeys the contract. -/
theorem insertBatch_at_end (h : screen.TableInStep) (hSection : inSection = 0 ∨ inSection = 1)
    (hCount : 0 ≤ screen.numberOfRows inSection) {inserted : RowInsertion}
    (hPath : inserted.path = ⟨screen.numberOfRows inSection, inSection⟩)
    (hHeader : inserted.isHeader = true ↔ screen.numberOfRows inSection = 0) :
    ∃ after, screen.insertBatch inserted = .ok after ∧ after.TableInStep ∧
      after.numberOfRows inSection = screen.numberOfRows inSection + 1 ∧
      screen.ObeysBatchContract after inserted := by
  obtain ⟨after, hAfter⟩ := h.insertRow_at_end hSection hCount
  obtain ⟨hStep, _, hRows⟩ := h.appendRow hSection hAfter
  have hOther : ∀ other, other ≠ inSection →
      after.numberOfRows other = screen.numberOfRows other := by
    intro other hDifferent
    obtain ⟨tableView, _, rfl⟩ := insertRow_eq_ok hAfter
    rw [setTableView_numberOfRows, numberOfRows_setNumberOfRows screen hSection,
      if_neg hDifferent]
  refine ⟨after, ?_, hStep, hRows, ?_⟩
  · rw [insertBatch, hPath]
    exact hAfter
  · constructor
    · rw [hPath, h.rows]
      exact hRows
    · rw [hPath, h.rows]
      exact hOther
    · rw [hPath, hRows]
      exact ⟨hCount, Int.lt_succ _⟩
    · intro hYes
      rw [hPath, h.rows]
      exact ⟨hHeader.mp hYes, hHeader.mp hYes⟩
    · intro hNo
      rw [hPath, h.rows]
      refine ⟨?_, rfl⟩
      intro hZero
      rw [hHeader.mpr hZero] at hNo
      cases hNo

end Batches

/-- The table is in step with the counts, and every section has no row or a header with
at least one device. -/
structure Insertable (screen : ConnectionScreen) : Prop where
  table : screen.TableInStep
  encoded : ∀ inSection, screen.numberOfRows inSection = 0 ∨ 2 ≤ screen.numberOfRows inSection

/-- The batches of the next block, and that none of them raises. -/
structure InsertsInBatches (screen : ConnectionScreen) (inSection : Int) : Prop where
  batches : screen.newBluetoothDevice inSection =
    exec insertBatch screen (screen.insertedRows inSection)
  completes : ∃ after, screen.newBluetoothDevice inSection = .ok after
  contract : ∀ entry ∈ historyOf insertBatch screen (screen.insertedRows inSection),
    ∃ after, entry.1.insertBatch entry.2 = .ok after ∧
      entry.1.ObeysBatchContract after entry.2

namespace Insertable

variable {screen after : ConnectionScreen} {inSection : Int}

theorem viewDidAppear (world : World) :
    Insertable (ConnectionScreen.viewDidAppear { screen with world := world }) := by
  refine ⟨⟨rfl, nofun⟩, ?_⟩
  intro inSection
  simp only [ConnectionScreen.viewDidAppear, reloadData, ConnectionScreen.numberOfRows]
  have hEncoded : ∀ other, recount world other = 0 ∨ 2 ≤ recount world other := by
    intro other
    have hCount := numberOfDevicesInSection_nonneg world other
    simp only [recount]
    split <;> omega
  split
  · exact hEncoded 0
  · split
    · exact hEncoded 1
    · exact .inl rfl

theorem newBluetoothDevice (h : screen.Insertable)
    (hStep : screen.newBluetoothDevice inSection = .ok after) : after.Insertable := by
  refine ⟨(h.table.newBluetoothDevice hStep).1, ?_⟩
  obtain ⟨hSection, tableView, rfl⟩ := newBluetoothDevice_eq_ok hStep
  intro other
  rw [setTableView_numberOfRows, numberOfRows_setNumberOfRows _ hSection]
  have hOther := h.encoded other
  have hOwn := h.encoded inSection
  unfold rowsAfterInsert
  split
  · split <;> omega
  · exact hOther

/-- The next block consists of batches that obey the contract. -/
theorem insertsInBatches (h : screen.Insertable) (hSection : inSection = 0 ∨ inSection = 1) :
    screen.InsertsInBatches inSection := by
  have hBatches := @newBluetoothDevice_eq_exec screen inSection hSection
  by_cases hEmpty : screen.numberOfRows inSection = 0
  · have hRows : screen.insertedRows inSection =
        [⟨⟨0, inSection⟩, true⟩, ⟨⟨1, inSection⟩, false⟩] := by
      rw [insertedRows, if_pos hEmpty, hEmpty]
      rfl
    obtain ⟨middle, hFirst, hMiddle, hOne, hHeader⟩ :=
      @insertBatch_at_end screen inSection h.table hSection hEmpty.ge ⟨⟨0, inSection⟩, true⟩
        (by rw [hEmpty]) (by simp [hEmpty])
    rw [hEmpty] at hOne
    obtain ⟨after, hSecond, _, _, hDevice⟩ :=
      @insertBatch_at_end middle inSection hMiddle hSection (by omega) ⟨⟨1, inSection⟩, false⟩
        (by rw [hOne]; rfl) (by simp [hOne])
    refine ⟨hBatches, ⟨after, ?_⟩, ?_⟩
    · rw [hBatches, hRows]
      simp only [exec, hFirst, hSecond]
    · rw [hRows]
      simp only [historyOf, hFirst, hSecond]
      refine List.forall_mem_cons.mpr ⟨⟨middle, hFirst, hHeader⟩, ?_⟩
      exact List.forall_mem_cons.mpr ⟨⟨after, hSecond, hDevice⟩, List.forall_mem_nil _⟩
  · have hRows : screen.insertedRows inSection =
        [⟨⟨screen.numberOfRows inSection, inSection⟩, false⟩] := by
      rw [insertedRows, if_neg hEmpty]
    have hCount := h.encoded inSection
    obtain ⟨after, hOnly, _, _, hDevice⟩ :=
      @insertBatch_at_end screen inSection h.table hSection (by omega)
        ⟨⟨screen.numberOfRows inSection, inSection⟩, false⟩ rfl (by simp [hEmpty])
    refine ⟨hBatches, ⟨after, ?_⟩, ?_⟩
    · rw [hBatches, hRows]
      simp only [exec, hOnly]
    · rw [hRows]
      simp only [historyOf, hOnly]
      exact List.forall_mem_cons.mpr ⟨⟨after, hOnly, hDevice⟩, List.forall_mem_nil _⟩

end Insertable

end ConnectionScreen

/-- What changes the rows of a table that has loaded: a block of a discovery, and an
appearance, by when the controller may have any lists. -/
inductive RowEvent where
  | newBluetoothDevice (inSection : Int)
  | viewDidAppear (world : World)

def rowStep (screen : ConnectionScreen) : RowEvent → Except NSException ConnectionScreen
  | .newBluetoothDevice inSection => screen.newBluetoothDevice inSection
  | .viewDidAppear world => .ok (ConnectionScreen.viewDidAppear { screen with world := world })

/-- In every state each section has no row or at least two, and whichever section the next
device is in, its rows are inserted in batches that obey the table's contract. -/
theorem rows_inserted_by_contract {world : World} {hasDelegate : Bool}
    {screen : ConnectionScreen} {history : History ConnectionScreen RowEvent}
    (run : Run rowStep (ConnectionScreen.viewDidLoad world hasDelegate).reloadData history screen) :
    (∀ inSection, screen.numberOfRows inSection = 0 ∨ 2 ≤ screen.numberOfRows inSection) ∧
      ∀ inSection, inSection = 0 ∨ inSection = 1 → screen.InsertsInBatches inSection := by
  have hInsertable : screen.Insertable := by
    refine run.invariant ConnectionScreen.Insertable ⟨⟨rfl, nofun⟩, ?_⟩ ?_
    · intro inSection
      left
      simp [ConnectionScreen.numberOfRows, ConnectionScreen.viewDidLoad,
        ConnectionScreen.reloadData, ConnectionScreen.setTableView]
    · intro state event after hState hStep
      cases event with
      | newBluetoothDevice inSection => exact hState.newBluetoothDevice hStep
      | viewDidAppear world =>
          cases hStep
          exact .viewDidAppear world
  exact ⟨hInsertable.encoded, fun inSection hSection => hInsertable.insertsInBatches hSection⟩

/-- Two devices of one section and one of the other, with an appearance between them. -/
def insertAndAppear : List RowEvent :=
  [.newBluetoothDevice 1, .newBluetoothDevice 1, .viewDidAppear frontDoorWorld,
    .newBluetoothDevice 1]

theorem rows_inserted_by_contract_after_appearance :
    ∃ screen, exec rowStep freshConnectionScreen.reloadData insertAndAppear = .ok screen ∧
      screen.numberOfRows 0 = 2 ∧ screen.InsertsInBatches 0 := by
  have hFinal : ∃ screen,
      exec rowStep freshConnectionScreen.reloadData insertAndAppear = .ok screen ∧
        screen.numberOfRows 0 = 2 := ⟨_, rfl, rfl⟩
  obtain ⟨screen, hExec, hRows⟩ := hFinal
  have hContract := rows_inserted_by_contract (run_of_exec hExec)
  exact ⟨screen, hExec, hRows, hContract.2 0 (.inl rfl)⟩

end LockJaw
