import LockJaw.Connection.Rows

/-! Which device a tap on a row selects. The cell of a row is drawn once and stays,
the row's number is resolved again at the tap; the two agree until a selection takes
a device out of section 1 at or above the row. -/
namespace LockJaw

open Cocoa Semantics

/-- The index at which a selection on section 1 takes a device out of its list. -/
def ControllerEvent.takenIndex : ControllerEvent → Option Int
  | .selectPeripheralAtIndex (.position index) inSection =>
      if inSection = 1 then some index else none
  | _ => none

def ConnectionEvent.takenIndex : ConnectionEvent → Option Int
  | .controller event => event.takenIndex
  | .didSelectRow path => if path.inSection = 1 then some (path.row - 1) else none
  | _ => none

namespace World

/-- The list a section of the table stands for. -/
def devices (world : World) (inSection : Int) : List CBPeripheral :=
  if inSection = 0 then world.controller.knownDevicesArray
  else world.controller.discoveredDevicesArray

/-- How a step changes the two lists: section 0 grows at its end, section 1 grows by
devices not seen before or loses the device at the index taken. -/
structure ListsChange (world after : World) (taken : Option Int) : Prop where
  known : ∃ added, after.controller.knownDevicesArray =
    world.controller.knownDevicesArray ++ added
  seen : ∀ peripheral, world.Seen peripheral → after.Seen peripheral
  discovered :
    (taken = none ∧ ∃ added, after.controller.discoveredDevicesArray =
      world.controller.discoveredDevicesArray ++ added ∧
      ∀ peripheral ∈ added, ¬ world.Seen peripheral) ∨
    ∃ n : Nat, taken = some (n : Int) ∧ after.controller.discoveredDevicesArray =
      world.controller.discoveredDevicesArray.eraseIdx n

section Lists
variable {world after : World}

/-- Equal lists have changed by nothing. -/
theorem ListsChange.unchanged (h : world.SameLists after) : ListsChange world after none := by
  constructor
  · exact ⟨[], by rw [h, List.append_nil]⟩
  · intro peripheral hSeen
    rw [Seen, h]
    exact hSeen
  · exact .inl ⟨rfl, [], by rw [h, List.append_nil], by simp⟩

/-- A discovery adds at the end, and takes nothing away. -/
theorem didDiscoverPeripheral_lists (peripheral : CBPeripheral) (now : NSDate) :
    ListsChange world (world.didDiscoverPeripheral peripheral now) none := by
  by_cases hName : (world.peripherals peripheral).name = none
  · rw [didDiscoverPeripheral_of_unnamed hName]
    exact .unchanged rfl
  have hKeeps : ∀ other, world.Seen other →
      (world.setDictionaryEntry peripheral).Seen other := by
    intro other hSeen
    exact (Refines.seen_setDictionaryEntry world peripheral other).mpr (.inr hSeen)
  by_cases hSeen : world.Seen peripheral
  · rw [didDiscoverPeripheral_of_seen hName hSeen]
    exact ⟨⟨[], (List.append_nil _).symm⟩, hKeeps,
      .inl ⟨rfl, [], (List.append_nil _).symm, by simp⟩⟩
  by_cases hRecord : world.HasRecord peripheral
  · rw [didDiscoverPeripheral_of_record hName hSeen hRecord]
    exact ⟨⟨[peripheral], rfl⟩, hKeeps, .inl ⟨rfl, [], (List.append_nil _).symm, by simp⟩⟩
  · rw [didDiscoverPeripheral_of_no_record hName hSeen hRecord]
    exact ⟨⟨[], (List.append_nil _).symm⟩, hKeeps,
      .inl ⟨rfl, [peripheral], rfl, by simpa using hSeen⟩⟩

/-- The selection of a device leaves its list alone. -/
theorem ListsChange.selectConnected {taken : Option Int} (h : ListsChange world after taken)
    (peripheral : CBPeripheral) :
    ListsChange world (after.selectConnected peripheral) taken := by
  obtain ⟨hKnown, hSeen, hDiscovered⟩ := h
  unfold World.selectConnected
  split
  · exact ⟨hKnown, hSeen, hDiscovered⟩
  · exact ⟨hKnown, hSeen, hDiscovered⟩

/-- A selection takes a device from section 1 if it is of that section. -/
theorem selectPeripheralAtIndex_lists {index : NSIndex} {inSection : Int}
    (hStep : world.selectPeripheralAtIndex index inSection = .ok after) :
    ListsChange world after
      (ControllerEvent.selectPeripheralAtIndex index inSection).takenIndex := by
  rcases selectPeripheralAtIndex_cases hStep with ⟨rfl, n, peripheral, rfl, _, rfl⟩ |
    ⟨rfl, n, peripheral, rfl, _, rfl⟩ | ⟨_, hOne, rfl⟩
  · exact (ListsChange.unchanged rfl).selectConnected peripheral
  · apply ListsChange.selectConnected
    exact ⟨⟨[peripheral], rfl⟩, fun _ hSeen => hSeen, .inr ⟨n, rfl, rfl⟩⟩
  · have hTaken :
        (ControllerEvent.selectPeripheralAtIndex index inSection).takenIndex = none := by
      unfold ControllerEvent.takenIndex
      split
      · rename_i hEvent
        cases hEvent
        exact if_neg hOne
      · rfl
    rw [hTaken]
    exact .unchanged rfl

/-- Without a pass the lists lose nothing but a selected device. -/
theorem step_lists {roster : Roster CBPeripheral} (hRefines : Refines world roster)
    {event : ControllerEvent} (hStep : world.step event = .ok after)
    (hPass : ∀ clock, event ≠ .removeExpiredDevices clock) :
    ListsChange world after event.takenIndex := by
  rcases step_cases hRefines.index_ne_notFound hStep with ⟨peripheral, now, rfl, rfl⟩ |
    ⟨index, inSection, rfl, hSelect⟩ | ⟨clock, rfl, _⟩ | ⟨_, _, hSame⟩
  · exact didDiscoverPeripheral_lists peripheral now
  · exact selectPeripheralAtIndex_lists hSelect
  · exact absurd rfl (hPass clock)
  · cases event with
    | selectPeripheralAtIndex index inSection => exact selectPeripheralAtIndex_lists hStep
    | _ => exact .unchanged hSame.1

end Lists

end World

/-- What has become of the cell of a row since the table last drew it. -/
inductive CellStatus where
  | undrawn
  | current
  | outdated
deriving DecidableEq, Repr

/-- A device row is outdated once a device at or above it was taken out of section 1. -/
def CellStatus.afterTaking (status : CellStatus) (path : NSIndexPath) : Option Int → CellStatus
  | none => status
  | some index =>
      if status = .current ∧ path.inSection = 1 ∧ index < path.row then .outdated else status

/-- The effect of one step on the cell of a row. -/
def CellStatus.after (status : CellStatus) (path : NSIndexPath)
    (entry : ConnectionScreen × ConnectionEvent) : CellStatus :=
  match entry.2 with
  | .viewDidAppear => if entry.1.appearance = .appearing then .undrawn else status
  | .drawRow drawn =>
      if drawn = path ∧ entry.1.tableView.hasRow path = true then .current else status
  | event => status.afterTaking path event.takenIndex

theorem CellStatus.after_drawRow (status : CellStatus) (path drawn : NSIndexPath)
    (screen : ConnectionScreen) :
    status.after path (screen, .drawRow drawn) =
      if drawn = path ∧ screen.tableView.hasRow path = true then .current else status := rfl

theorem CellStatus.after_viewDidAppear (status : CellStatus) (path : NSIndexPath)
    (screen : ConnectionScreen) :
    status.after path (screen, .viewDidAppear) =
      if screen.appearance = .appearing then .undrawn else status := rfl

def cellStatus (path : NSIndexPath) (history : History ConnectionScreen ConnectionEvent) :
    CellStatus :=
  history.foldl (fun status entry => status.after path entry) .undrawn

/-- The status of a cell is moved on by each event. -/
theorem cellStatus_concat (path : NSIndexPath)
    (history : History ConnectionScreen ConnectionEvent)
    (entry : ConnectionScreen × ConnectionEvent) :
    cellStatus path (history ++ [entry]) = (cellStatus path history).after path entry := by
  simp [cellStatus]

namespace ConnectionScreen

/-- What the status says of the cell of the `n`th device row of a section. The device
of an outdated cell stands above the row, or nowhere, and never comes back. -/
def CellTells (screen : ConnectionScreen) (path : NSIndexPath) (n : Nat) : CellStatus → Prop
  | .undrawn => screen.tableView.cells path = none
  | .current => ∃ peripheral,
      screen.tableView.cells path = some (.device (some peripheral)) ∧
      (screen.world.devices path.inSection)[n]? = some peripheral
  | .outdated => path.inSection = 1 ∧ ∃ peripheral,
      screen.tableView.cells path = some (.device (some peripheral)) ∧
      screen.world.Seen peripheral ∧
      ∀ m, n ≤ m → screen.world.controller.discoveredDevicesArray[m]? ≠ some peripheral

/-- The table shows as many rows as the screen counts, and draws no other. -/
structure TableInStep (screen : ConnectionScreen) : Prop where
  rows : screen.tableView.numberOfRows = screen.numberOfRows
  cells : ∀ path cell, screen.tableView.cells path = some cell →
    screen.tableView.hasRow path = true

section Cells
variable {screen after : ConnectionScreen} {path : NSIndexPath} {n : Nat}
  {status : CellStatus}

/-- The table has two sections. -/
theorem TableInStep.inSection (h : screen.TableInStep)
    (hRow : screen.tableView.hasRow path = true) :
    path.inSection = 0 ∨ path.inSection = 1 := by
  rw [UITableView.hasRow, h.rows, decide_eq_true_eq] at hRow
  by_contra hSection
  rw [not_or] at hSection
  have hNone : screen.numberOfRows path.inSection = 0 := by
    rw [numberOfRows, if_neg hSection.1, if_neg hSection.2]
  omega

/-- A list that grows at its end by devices not seen before keeps every cell's status. -/
theorem CellTells.append (h : screen.CellTells path n status)
    (hCells : after.tableView.cells path = screen.tableView.cells path)
    (hKnown : ∃ added, after.world.controller.knownDevicesArray =
      screen.world.controller.knownDevicesArray ++ added)
    (hSeen : ∀ peripheral, screen.world.Seen peripheral → after.world.Seen peripheral)
    (hDiscovered : ∃ added, after.world.controller.discoveredDevicesArray =
      screen.world.controller.discoveredDevicesArray ++ added ∧
      ∀ peripheral ∈ added, ¬ screen.world.Seen peripheral) :
    after.CellTells path n status := by
  obtain ⟨addedKnown, hKnown⟩ := hKnown
  obtain ⟨added, hDiscovered, hUnseen⟩ := hDiscovered
  cases status with
  | undrawn => exact hCells.trans h
  | current =>
      obtain ⟨peripheral, hCell, hGet⟩ := h
      refine ⟨peripheral, hCells.trans hCell, ?_⟩
      have hBound := (List.getElem?_eq_some_iff.mp hGet).1
      unfold World.devices at hGet hBound ⊢
      split at hGet
      · rename_i hZero
        rw [if_pos hZero] at hBound ⊢
        rw [hKnown, List.getElem?_append_left hBound]
        exact hGet
      · rename_i hZero
        rw [if_neg hZero] at hBound ⊢
        rw [hDiscovered, List.getElem?_append_left hBound]
        exact hGet
  | outdated =>
      obtain ⟨hOne, peripheral, hCell, hOld, hGone⟩ := h
      refine ⟨hOne, peripheral, hCells.trans hCell, hSeen peripheral hOld, ?_⟩
      intro m hm hGet
      rw [hDiscovered] at hGet
      rcases List.mem_append.mp (List.mem_of_getElem? hGet) with hMem | hMem
      · by_cases hBound : m < screen.world.controller.discoveredDevicesArray.length
        · rw [List.getElem?_append_left hBound] at hGet
          exact hGone m hm hGet
        · rw [List.getElem?_append_right (by omega)] at hGet
          exact hUnseen peripheral (List.mem_of_getElem? hGet) hOld
      · exact hUnseen peripheral hMem hOld

/-- A device taken out of section 1 moves the ones below it up by one row. -/
theorem CellTells.take (h : screen.CellTells path n status) (hPath : path.row = n + 1)
    (hSection : path.inSection = 0 ∨ path.inSection = 1)
    (hCells : after.tableView.cells path = screen.tableView.cells path)
    (hKnown : ∃ added, after.world.controller.knownDevicesArray =
      screen.world.controller.knownDevicesArray ++ added)
    (hSeen : ∀ peripheral, screen.world.Seen peripheral → after.world.Seen peripheral)
    {k : Nat} (hDiscovered : after.world.controller.discoveredDevicesArray =
      screen.world.controller.discoveredDevicesArray.eraseIdx k)
    (hNodup : screen.world.controller.discoveredDevicesArray.Nodup)
    (hListed : ∀ peripheral ∈ screen.world.controller.discoveredDevicesArray,
      screen.world.Seen peripheral) :
    after.CellTells path n (status.afterTaking path (some (k : Int))) := by
  obtain ⟨addedKnown, hKnown⟩ := hKnown
  cases status with
  | undrawn =>
      rw [CellStatus.afterTaking, if_neg (by simp)]
      exact hCells.trans h
  | current =>
      obtain ⟨peripheral, hCell, hGet⟩ := h
      have hBound := (List.getElem?_eq_some_iff.mp hGet).1
      rcases hSection with hZero | hOne
      · rw [CellStatus.afterTaking, if_neg (by simp [hZero])]
        refine ⟨peripheral, hCells.trans hCell, ?_⟩
        rw [World.devices, if_pos hZero] at hGet hBound ⊢
        rw [hKnown, List.getElem?_append_left hBound]
        exact hGet
      · rw [World.devices, if_neg (by omega)] at hGet hBound
        by_cases hAbove : k ≤ n
        · rw [CellStatus.afterTaking, if_pos ⟨rfl, hOne, by omega⟩]
          refine ⟨hOne, peripheral, hCells.trans hCell,
            hSeen peripheral (hListed peripheral (List.mem_of_getElem? hGet)), ?_⟩
          intro m hm hLater
          rw [hDiscovered, List.getElem?_eraseIdx_of_ge (by omega)] at hLater
          -- the list holds the device once, at `n`
          have hSame := (List.getElem?_inj (by
            exact (List.getElem?_eq_some_iff.mp hLater).1) hNodup).mp (hLater.trans hGet.symm)
          omega
        · rw [CellStatus.afterTaking, if_neg (by omega)]
          refine ⟨peripheral, hCells.trans hCell, ?_⟩
          rw [World.devices, if_neg (by omega), hDiscovered,
            List.getElem?_eraseIdx_of_lt (by omega)]
          exact hGet
  | outdated =>
      obtain ⟨hOne, peripheral, hCell, hOld, hGone⟩ := h
      rw [CellStatus.afterTaking, if_neg (by simp)]
      refine ⟨hOne, peripheral, hCells.trans hCell, hSeen peripheral hOld, ?_⟩
      intro m hm hGet
      rw [hDiscovered, List.getElem?_eraseIdx] at hGet
      split at hGet
      · exact hGone m hm hGet
      · exact hGone (m + 1) (by omega) hGet

end Cells

/-- One step of the controller, seen by a cell that the step does not redraw. -/
theorem CellTells.lists {screen after : ConnectionScreen} {path : NSIndexPath} {n : Nat}
    {status : CellStatus} (h : screen.CellTells path n status) (hPath : path.row = n + 1)
    (hTable : screen.TableInStep)
    (hCells : after.tableView.cells path = screen.tableView.cells path) {taken : Option Int}
    (hLists : World.ListsChange screen.world after.world taken)
    (hWellFormed : DeviceListsWellFormed screen.world) :
    after.CellTells path n (status.afterTaking path taken) := by
  rcases hLists.discovered with ⟨rfl, hAdded⟩ | ⟨k, rfl, hErased⟩
  · exact h.append hCells hLists.known hLists.seen hAdded
  · by_cases hDrawn : screen.tableView.cells path = none
    · have hUndrawn : status = .undrawn := by
        cases status with
        | undrawn => rfl
        | current =>
            obtain ⟨_, hCell, _⟩ := h
            simp [hDrawn] at hCell
        | outdated =>
            obtain ⟨_, _, hCell, _⟩ := h
            simp [hDrawn] at hCell
      subst hUndrawn
      exact hCells.trans hDrawn
    · obtain ⟨cell, hCell⟩ := Option.ne_none_iff_exists'.mp hDrawn
      have hSection := hTable.inSection (hTable.cells path cell hCell)
      exact h.take hPath hSection hCells hLists.known hLists.seen hErased
        hWellFormed.discovered_nodup hWellFormed.discovered_seen

section Rows
variable {screen after : ConnectionScreen}

/-- A row added below the last one of its section: the table stays in step and no cell
moves. -/
theorem TableInStep.appendRow (h : screen.TableInStep) {inSection : Int}
    (hSection : inSection = 0 ∨ inSection = 1)
    (hAppend : (screen.setNumberOfRows inSection (screen.numberOfRows inSection + 1)).insertRow
      ⟨screen.numberOfRows inSection, inSection⟩ = .ok after) :
    after.TableInStep ∧ after.tableView.cells = screen.tableView.cells ∧
      after.numberOfRows inSection = screen.numberOfRows inSection + 1 := by
  obtain ⟨tableView, hInsert, rfl⟩ := insertRow_eq_ok hAppend
  rw [setNumberOfRows_tableView] at hInsert
  obtain ⟨_, _, _, rfl⟩ := UITableView.insertRow_eq_ok hInsert
  have hCells : screen.tableView.cellsAfterInsert ⟨screen.numberOfRows inSection, inSection⟩ =
      screen.tableView.cells := by
    apply UITableView.cellsAfterInsert_of_end h.cells
    rw [h.rows]
  have hCount := numberOfRows_setNumberOfRows screen hSection
    (screen.numberOfRows inSection + 1) inSection
  rw [if_pos rfl] at hCount
  refine ⟨⟨rfl, ?_⟩, hCells, hCount⟩
  intro path cell hCell
  change screen.tableView.cellsAfterInsert _ path = some cell at hCell
  rw [hCells] at hCell
  have hRow := h.cells path cell hCell
  rw [UITableView.hasRow, h.rows, decide_eq_true_eq] at hRow
  change decide (0 ≤ path.row ∧ path.row < (screen.setNumberOfRows inSection
    (screen.numberOfRows inSection + 1)).numberOfRows path.inSection) = true
  rw [decide_eq_true_eq, numberOfRows_setNumberOfRows _ hSection]
  split
  · rename_i hSame
    rw [hSame] at hRow
    omega
  · exact hRow

/-- The block of a discovery adds its rows at the end of the section, the header first
where there was none. -/
theorem TableInStep.newBluetoothDevice (h : screen.TableInStep) {inSection : Int}
    (hStep : screen.newBluetoothDevice inSection = .ok after) :
    after.TableInStep ∧ after.tableView.cells = screen.tableView.cells := by
  unfold ConnectionScreen.newBluetoothDevice at hStep
  split at hStep
  · rename_i hSection
    split at hStep
    · rename_i hEmpty
      obtain ⟨middle, hHeader, hDevice⟩ := bind_eq_ok.mp hStep
      rw [← hEmpty] at hHeader
      obtain ⟨hMiddle, hMiddleCells, hMiddleRows⟩ := h.appendRow hSection hHeader
      rw [← hMiddleRows] at hDevice
      obtain ⟨hAfter, hAfterCells, _⟩ := hMiddle.appendRow hSection hDevice
      exact ⟨hAfter, hAfterCells.trans hMiddleCells⟩
    · obtain ⟨hAfter, hAfterCells, _⟩ := h.appendRow hSection hStep
      exact ⟨hAfter, hAfterCells⟩
  · cases hStep

/-- An inserted row leaves the cells that are drawn alone. -/
theorem TableInStep.runMainBlock (h : screen.TableInStep) (hFree : screen.PassFree)
    (hStep : screen.runMainBlock = .ok after) :
    after.TableInStep ∧ after.tableView.cells = screen.tableView.cells := by
  unfold ConnectionScreen.runMainBlock at hStep
  split at hStep
  · cases hStep
    exact ⟨h, rfl⟩
  · rename_i object rest _
    have hRest : TableInStep { screen with mainQueue := rest } := ⟨h.rows, h.cells⟩
    exact hRest.newBluetoothDevice hStep
  · rename_i path rest hQueue
    have hHead := hFree.blocks (hQueue ▸ List.mem_cons_self)
    simp at hHead

/-- Without losses a delivery changes the controller's queue and the main queue only. -/
theorem PassFree.runNotificationBlock_eq (hFree : screen.PassFree) :
    ∃ mainQueue, screen.runNotificationBlock =
      { screen with world := screen.world.runNotificationBlock.2, mainQueue := mainQueue } := by
  cases hQueue : screen.world.controller.notificationQueue with
  | nil => exact ⟨screen.mainQueue, by simp [ConnectionScreen.runNotificationBlock,
      World.runNotificationBlock, hQueue]⟩
  | cons block rest =>
      have hBlock := hFree.queue (hQueue ▸ List.mem_cons_self)
      have hWorld : ∀ posted, block = .post posted → screen.world.runNotificationBlock.2 =
          { screen.world with controller.notificationQueue := rest } := by
        rintro posted rfl
        simp [World.runNotificationBlock, hQueue]
      rcases mem_discoveryBlocks.mp hBlock with ⟨object, _, rfl⟩ | rfl | rfl
      · rw [runNotificationBlock_of_post hQueue, hWorld _ rfl, observe]
        split
        · exact ⟨screen.mainQueue, rfl⟩
        · exact ⟨_, rfl⟩
      · rw [runNotificationBlock_of_post hQueue, hWorld _ rfl]
        exact ⟨screen.mainQueue, rfl⟩
      · rw [runNotificationBlock_of_post hQueue, hWorld _ rfl]
        exact ⟨screen.mainQueue, rfl⟩

/-- What drawing a device row reads. -/
theorem cellForRow_eq_ok {path : NSIndexPath} {n : Nat} {cell : ConnectionCell}
    (hPath : path.row = n + 1) (hSection : path.inSection = 0 ∨ path.inSection = 1) :
    screen.cellForRow path = .ok cell ↔ ∃ peripheral,
      (screen.world.devices path.inSection)[n]? = some peripheral ∧
      cell = .device (some peripheral) := by
  have hRow : path.row ≠ 0 := by omega
  have hIndex : path.row - 1 = n := by omega
  rw [cellForRow, if_neg hRow, hIndex, World.peripheralAtIndex, World.devices]
  have hRead : ∀ array : List CBPeripheral,
      ((some <$> objectAtIndex array (.position n) : Except NSException _) >>=
        fun peripheral => (.ok (.device peripheral) : Except NSException ConnectionCell)) =
          .ok cell ↔
      ∃ peripheral, array[n]? = some peripheral ∧ cell = .device (some peripheral) := by
    intro array
    cases hGet : array[n]? with
    | none =>
        have hRaises : objectAtIndex array (.position n) = .error .rangeException := by
          apply objectAtIndex_out_of_range
          rw [List.getElem?_eq_none_iff] at hGet
          omega
        rw [hRaises]
        constructor
        · intro hCell
          cases hCell
        · rintro ⟨_, hNone, _⟩
          cases hNone
    | some peripheral =>
        rw [objectAtIndex_natCast array n hGet]
        constructor
        · intro hCell
          cases hCell
          exact ⟨peripheral, rfl, rfl⟩
        · rintro ⟨_, hSome, rfl⟩
          cases hSome
          rfl
  rcases hSection with hZero | hOne
  · rw [if_pos hZero, if_pos hZero]
    exact hRead _
  · rw [if_neg (by omega), if_pos hOne, if_neg (by omega)]
    exact hRead _

end Rows

end ConnectionScreen

/-- What holds along every run without a pass: the controller is well formed, the table
is in step, and every device row's cell is as its status tells. -/
structure CellsTell (history : History ConnectionScreen ConnectionEvent)
    (screen : ConnectionScreen) : Prop where
  free : screen.PassFree
  wellFormed : ∃ roster : Roster CBPeripheral, Refines screen.world roster
  table : screen.TableInStep
  cell : ∀ (path : NSIndexPath) (n : Nat), path.row = n + 1 →
    screen.CellTells path n (cellStatus path history)

namespace CellsTell

open ConnectionScreen

variable {history : History ConnectionScreen ConnectionEvent} {screen after : ConnectionScreen}
  {event : ConnectionEvent}

/-- At first no cell is drawn. -/
theorem start {world : World} {hasDelegate : Bool} (hInit : world.controller = .init) :
    CellsTell [] (viewDidLoad world hasDelegate) := by
  have hScanning : Refines world.beginScanning (.empty : Roster CBPeripheral) := by
    unfold World.beginScanning
    split
    · exact .init hInit
    · exact .init hInit
  refine ⟨passFree_viewDidLoad hInit, ⟨.empty, hScanning⟩, ⟨?_, ?_⟩, fun _ _ _ => rfl⟩
  · funext inSection
    change 0 = numberOfRows _ inSection
    simp [numberOfRows, viewDidLoad]
  · intro path cell hCell
    cases hCell

/-- A step of the controller, with whatever it does to queues and transitions. -/
theorem controllerStep (h : CellsTell history screen) (controllerEvent : ControllerEvent)
    (hWorld : screen.world.step controllerEvent = .ok after.world)
    (hPass : ∀ clock, controllerEvent ≠ .removeExpiredDevices clock)
    (hStatus : ∀ path status, CellStatus.after status path (screen, event) =
      status.afterTaking path controllerEvent.takenIndex)
    (hFree : after.PassFree) (hTableView : after.tableView = screen.tableView)
    (hRows : after.numberOfRows = screen.numberOfRows) :
    CellsTell (history ++ [(screen, event)]) after := by
  obtain ⟨roster, hRefines⟩ := h.wellFormed
  obtain ⟨next, _, hNext⟩ := hRefines.step hWorld
  have hLists := World.step_lists hRefines hWorld hPass
  refine ⟨hFree, ⟨next, hNext⟩, ⟨?_, ?_⟩, ?_⟩
  · rw [hTableView, hRows, h.table.rows]
  · rw [hTableView]
    exact h.table.cells
  · intro path n hPath
    rw [cellStatus_concat, hStatus]
    exact (h.cell path n hPath).lists hPath h.table (by rw [hTableView]) hLists
      hRefines.wellFormed

/-- A step that leaves the controller's lists, the cells and their status alone. -/
theorem frame (h : CellsTell history screen) (hWorld : after.world = screen.world)
    (hFree : after.PassFree) (hTable : after.TableInStep)
    (hCells : after.tableView.cells = screen.tableView.cells)
    (hStatus : ∀ path status, CellStatus.after status path (screen, event) = status) :
    CellsTell (history ++ [(screen, event)]) after := by
  obtain ⟨roster, hRefines⟩ := h.wellFormed
  refine ⟨hFree, ⟨roster, hWorld ▸ hRefines⟩, hTable, ?_⟩
  intro path n hPath
  rw [cellStatus_concat, hStatus]
  exact (h.cell path n hPath).lists hPath h.table (by rw [hCells])
    (.unchanged (by rw [hWorld]; rfl)) hRefines.wellFormed

/-- A drawn cell tells the device of its row. -/
theorem drawing (h : CellsTell history screen) {path : NSIndexPath} {cell : ConnectionCell}
    (hRow : screen.tableView.hasRow path = true) (hCell : screen.cellForRow path = .ok cell)
    (hFree : PassFree { screen with tableView := screen.tableView.drawCell path cell }) :
    CellsTell (history ++ [(screen, .drawRow path)])
      { screen with tableView := screen.tableView.drawCell path cell } := by
  refine ⟨hFree, h.wellFormed, ⟨h.table.rows, ?_⟩, ?_⟩
  · intro other drawn hDrawn
    by_cases hSame : other = path
    · subst hSame
      exact hRow
    · have hOld : screen.tableView.cells other = some drawn := by
        simpa [UITableView.drawCell, hSame] using hDrawn
      exact h.table.cells other drawn hOld
  · intro other n hPath
    rw [cellStatus_concat]
    by_cases hSame : path = other
    · subst hSame
      rw [CellStatus.after_drawRow, if_pos ⟨rfl, hRow⟩]
      obtain ⟨peripheral, hGet, rfl⟩ :=
        (cellForRow_eq_ok hPath (h.table.inSection hRow)).mp hCell
      exact ⟨peripheral, by simp [UITableView.drawCell], hGet⟩
    · obtain ⟨roster, hRefines⟩ := h.wellFormed
      rw [CellStatus.after_drawRow, if_neg fun hBoth => hSame hBoth.1]
      have hOther : ¬ other = path := fun hEq => hSame hEq.symm
      have hCells : (screen.tableView.drawCell path cell).cells other =
          screen.tableView.cells other := by
        simp [UITableView.drawCell, hOther]
      have hTold : CellTells { screen with tableView := screen.tableView.drawCell path cell }
          other n ((cellStatus other history).afterTaking other none) :=
        (h.cell other n hPath).lists hPath h.table hCells (.unchanged rfl) hRefines.wellFormed
      exact hTold

/-- An appearance reloads the table. -/
theorem viewDidAppear (h : CellsTell history screen)
    (hAppearing : screen.appearance = .appearing) :
    CellsTell (history ++ [(screen, .viewDidAppear)]) screen.viewDidAppear := by
  refine ⟨h.free.viewDidAppear, h.wellFormed, ⟨rfl, ?_⟩, ?_⟩
  · intro path cell hCell
    cases hCell
  · intro path n _
    rw [cellStatus_concat, CellStatus.after_viewDidAppear, if_pos hAppearing]
    rfl

/-- Every step without a pass keeps the cells telling the truth as far as their status says.
-/
theorem step (h : CellsTell history screen) (hStep : connectionStep screen event = .ok after)
    (hPass : event.isPass = false) : CellsTell (history ++ [(screen, event)]) after := by
  have hFree := h.free.step hStep hPass
  cases connectionStep_takes hStep with
  | delivery =>
      obtain ⟨mainQueue, hDelivered⟩ := h.free.runNotificationBlock_eq
      rw [hDelivered] at hFree ⊢
      exact h.controllerStep .runNotificationBlock rfl (by simp) (fun _ _ => rfl) hFree rfl rfl
  | controller event world hDelivery hWorld =>
      have hNoPass : ∀ clock, event ≠ .removeExpiredDevices clock := by
        rintro clock rfl
        cases hPass
      exact h.controllerStep event hWorld hNoPass (fun _ _ => rfl) hFree rfl rfl
  | mainBlock _ hBlock =>
      obtain ⟨hTable, hCells⟩ := h.table.runMainBlock h.free hBlock
      have hWorld := (runMainBlock_frame hBlock).1
      exact h.frame hWorld hFree hTable hCells fun _ _ => rfl
  | selection path world transitions hWorld =>
      exact h.controllerStep
        (.selectPeripheralAtIndex (.position (path.row - 1)) path.inSection)
        hWorld (by simp) (fun _ _ => rfl) hFree rfl rfl
  | drawing path cell hRow hCell => exact h.drawing hRow hCell hFree
  | noRow path hRow =>
      refine h.frame rfl hFree h.table rfl ?_
      intro other status
      rw [CellStatus.after_drawRow, if_neg]
      rintro ⟨rfl, hHas⟩
      simp [hRow] at hHas
  | appearance hAppearing => exact h.viewDidAppear hAppearing
  | turning event turned hEvent _ =>
      refine h.frame rfl hFree ⟨h.table.rows, h.table.cells⟩ rfl ?_
      intro path status
      rcases hEvent with rfl | rfl
      · rfl
      · rfl
  | outOfTurn event hEvent hAppearance =>
      refine h.frame rfl hFree h.table rfl ?_
      intro path status
      rcases hEvent with rfl | rfl | rfl
      · rfl
      · exact if_neg (hAppearance rfl)
      · rfl

end CellsTell

/-- So it is in every run without a pass. -/
theorem cellsTell_of_run {world : World} {hasDelegate : Bool} {screen : ConnectionScreen}
    {history : History ConnectionScreen ConnectionEvent}
    (run : Run connectionStep (.viewDidLoad world hasDelegate) history screen)
    (hInit : world.controller = .init)
    (hNoPass : ∀ entry ∈ history, entry.2.isPass = false) : CellsTell history screen := by
  apply run.induction_of_permitted (fun _ event => event.isPass = false) CellsTell
    (.start hInit) ?_ hNoPass
  intro history state event after _ hState hEvent hStep
  exact hState.step hStep hEvent

namespace ConnectionScreen

/-- What a row shows: the cell drawn for it, or the one it would be drawn with now. -/
def shownCell (screen : ConnectionScreen) (path : NSIndexPath) :
    Except NSException ConnectionCell :=
  match screen.tableView.cells path with
  | some cell => .ok cell
  | none => screen.cellForRow path

/-- Neither drawing nor tapping the row raises, and the tap selects the device that a
device row shows and nothing on a header row. -/
structure SelectsWhatItShows (screen : ConnectionScreen) (path : NSIndexPath) : Prop where
  draws : ∃ cell, screen.cellForRow path = .ok cell
  taps : ∃ after, screen.didSelectRow path = .ok after
  device : path.row ≠ 0 → ∀ after, screen.didSelectRow path = .ok after →
    ∃ peripheral, screen.shownCell path = .ok (.device (some peripheral)) ∧
      after.world.Designates peripheral
  header : path.row = 0 → ∀ after, screen.didSelectRow path = .ok after →
    screen.world.SameDevices after.world

section Taps
variable {screen : ConnectionScreen} {path : NSIndexPath}

/-- A touched row whose selection does not raise does not raise. -/
theorem didSelectRow_of_ok {world : World}
    (h : screen.world.selectPeripheralAtIndex (.position (path.row - 1)) path.inSection =
      .ok world) : ∃ after, screen.didSelectRow path = .ok after := by
  rw [didSelectRow, h, ok_bind]
  dsimp only
  split
  · exact ⟨_, rfl⟩
  · exact ⟨_, rfl⟩

/-- A tap on a header asks for the device at index -1 and raises. -/
theorem didSelectRow_header (hRow : path.row = 0)
    (hSection : path.inSection = 0 ∨ path.inSection = 1) :
    screen.didSelectRow path = .error .rangeException := by
  have hRaises : screen.world.selectPeripheralAtIndex (.position (path.row - 1))
      path.inSection = .error .rangeException := by
    have hRead : ∀ array : List CBPeripheral,
        objectAtIndex array (.position (path.row - 1)) = .error .rangeException :=
      fun array => objectAtIndex_out_of_range (.inl (by omega))
    rcases hSection with hZero | hOne
    · rw [World.selectPeripheralAtIndex, if_pos hZero, hRead]
      rfl
    · rw [World.selectPeripheralAtIndex, if_neg (by omega), if_pos hOne, hRead]
      rfl
  rw [didSelectRow, hRaises]
  rfl

/-- A tap on a device row selects the device that stands there at the tap. -/
theorem designates_of_tap {roster : Roster CBPeripheral} (hRefines : Refines screen.world roster)
    {n : Nat} (hPath : path.row = n + 1)
    (hSection : path.inSection = 0 ∨ path.inSection = 1) {peripheral : CBPeripheral}
    (hGet : (screen.world.devices path.inSection)[n]? = some peripheral)
    {after : ConnectionScreen} (hTap : screen.didSelectRow path = .ok after) :
    after.world.Designates peripheral := by
  obtain ⟨world, transitions, hWorld, rfl⟩ := didSelectRow_eq_ok hTap
  have hIndex : path.row - 1 = n := by omega
  rw [hIndex] at hWorld
  have hPicked : screen.world.picked
      (.selectPeripheralAtIndex (.position n) path.inSection) = some peripheral := by
    rcases hSection with hZero | hOne
    · rw [World.devices, if_pos hZero] at hGet
      rw [hZero]
      exact World.picked_known hGet
    · rw [World.devices, if_neg (by omega)] at hGet
      rw [hOne]
      exact World.picked_discovered hGet
  obtain ⟨next, step, hNext⟩ := hRefines.selectPeripheralAtIndex hWorld
  have hSelection := hNext.selection
  rw [step.selected_eq, hPicked] at hSelection
  exact hSelection

/-- A tap on a row with a device behind it does not raise. -/
theorem didSelectRow_device {n : Nat} (hPath : path.row = n + 1)
    (hSection : path.inSection = 0 ∨ path.inSection = 1) {peripheral : CBPeripheral}
    (hGet : (screen.world.devices path.inSection)[n]? = some peripheral) :
    ∃ after, screen.didSelectRow path = .ok after := by
  have hIndex : path.row - 1 = n := by omega
  rcases hSection with hZero | hOne
  · rw [World.devices, if_pos hZero] at hGet
    apply didSelectRow_of_ok
    rw [hIndex, hZero]
    exact World.selectPeripheralAtIndex_known hGet
  · rw [World.devices, if_neg (by omega)] at hGet
    apply didSelectRow_of_ok
    rw [hIndex, hOne]
    exact World.selectPeripheralAtIndex_discovered hGet

/-- A section has as many devices as it counts. -/
theorem length_devices (world : World) (inSection : Int) :
    ((world.devices inSection).length : Int) = world.numberOfDevicesInSection inSection := by
  unfold World.devices World.numberOfDevicesInSection
  split <;> rfl

/-- A cell that is not outdated shows the device that stands at its row. -/
theorem CellTells.shownCell_of_fresh {n : Nat} {status : CellStatus}
    (h : screen.CellTells path n status) (hFresh : status ≠ .outdated)
    (hPath : path.row = n + 1) (hSection : path.inSection = 0 ∨ path.inSection = 1)
    {standing : CBPeripheral}
    (hGet : (screen.world.devices path.inSection)[n]? = some standing) :
    screen.shownCell path = .ok (.device (some standing)) := by
  unfold shownCell
  cases status with
  | undrawn =>
      rw [show screen.tableView.cells path = none from h]
      exact (cellForRow_eq_ok hPath hSection).mpr ⟨standing, hGet, rfl⟩
  | current =>
      obtain ⟨shown, hShown, hShownGet⟩ := h
      rw [hGet] at hShownGet
      cases hShownGet
      rw [hShown]
  | outdated => exact absurd rfl hFresh

/-- An outdated cell shows another device than the one that stands at its row. -/
theorem CellTells.shownCell_of_outdated {n : Nat} (h : screen.CellTells path n .outdated)
    {standing shown : CBPeripheral}
    (hGet : (screen.world.devices path.inSection)[n]? = some standing)
    (hShows : screen.shownCell path = .ok (.device (some shown))) : shown ≠ standing := by
  obtain ⟨hOne, drawn, hDrawn, _, hGone⟩ := h
  rw [shownCell, hDrawn] at hShows
  cases hShows
  rw [World.devices, if_neg (by omega)] at hGet
  rintro rfl
  exact hGone n (Nat.le_refl n) hGet

end Taps

end ConnectionScreen

/-- For every row the table has: drawing and tapping it go well, and the tap selects the
device it shows, exactly when it is a device row, a device stands at its number, and its
cell has not been outdated by a device taken out of section 1 at or above it. -/
theorem row_selects_what_it_shows_iff {world : World} {hasDelegate : Bool}
    {screen : ConnectionScreen} {history : History ConnectionScreen ConnectionEvent}
    (run : Run connectionStep (.viewDidLoad world hasDelegate) history screen)
    (hInit : world.controller = .init) (hNoPass : ∀ entry ∈ history, entry.2.isPass = false)
    (path : NSIndexPath) (hRow : screen.tableView.hasRow path = true) :
    screen.SelectsWhatItShows path ↔
      path.row ≠ 0 ∧
      path.row ≤ screen.world.numberOfDevicesInSection path.inSection ∧
      cellStatus path history ≠ .outdated := by
  have hTell := cellsTell_of_run run hInit hNoPass
  obtain ⟨roster, hRefines⟩ := hTell.wellFormed
  have hSection := hTell.table.inSection hRow
  by_cases hHeader : path.row = 0
  · constructor
    · intro hSelects
      obtain ⟨after, hTap⟩ := hSelects.taps
      rw [ConnectionScreen.didSelectRow_header hHeader hSection] at hTap
      cases hTap
    · exact fun hCondition => absurd hHeader hCondition.1
  · obtain ⟨n, hPath⟩ : ∃ n : Nat, path.row = n + 1 := by
      rw [UITableView.hasRow, decide_eq_true_eq] at hRow
      exact ⟨(path.row - 1).toNat, by omega⟩
    have hCell := hTell.cell path n hPath
    have hLength := ConnectionScreen.length_devices screen.world path.inSection
    constructor
    · intro hSelects
      obtain ⟨cell, hDraws⟩ := hSelects.draws
      obtain ⟨standing, hGet, _⟩ :=
        (ConnectionScreen.cellForRow_eq_ok hPath hSection).mp hDraws
      have hBound := (List.getElem?_eq_some_iff.mp hGet).1
      refine ⟨hHeader, by omega, ?_⟩
      intro hOutdated
      rw [hOutdated] at hCell
      obtain ⟨after, hTap⟩ := hSelects.taps
      obtain ⟨shown, hShows, hDesignates⟩ := hSelects.device hHeader after hTap
      have hStanding :=
        ConnectionScreen.designates_of_tap hRefines hPath hSection hGet hTap
      exact hCell.shownCell_of_outdated hGet hShows (hDesignates.unique hStanding)
    · rintro ⟨_, hCount, hFresh⟩
      have hBound : n < (screen.world.devices path.inSection).length := by omega
      obtain ⟨standing, hGet⟩ : ∃ peripheral,
          (screen.world.devices path.inSection)[n]? = some peripheral :=
        ⟨_, List.getElem?_eq_getElem hBound⟩
      have hDraws : screen.cellForRow path = .ok (.device (some standing)) :=
        (ConnectionScreen.cellForRow_eq_ok hPath hSection).mpr ⟨standing, hGet, rfl⟩
      have hShows := hCell.shownCell_of_fresh hFresh hPath hSection hGet
      refine ⟨⟨_, hDraws⟩, ConnectionScreen.didSelectRow_device hPath hSection hGet, ?_,
        fun hZero => absurd hZero hHeader⟩
      intro _ after hTap
      exact ⟨standing, hShows,
        ConnectionScreen.designates_of_tap hRefines hPath hSection hGet hTap⟩

theorem row_selects_what_it_shows_after_discovery :
    ∃ screen, exec connectionStep freshConnectionScreen appearThenDiscover = .ok screen ∧
      screen.SelectsWhatItShows ⟨1, 1⟩ := by
  have hFinal : ∃ screen,
      exec connectionStep freshConnectionScreen appearThenDiscover = .ok screen ∧
      screen.tableView.hasRow ⟨1, 1⟩ = true ∧
      1 ≤ screen.world.numberOfDevicesInSection 1 := ⟨_, rfl, by decide, by decide⟩
  obtain ⟨screen, hExec, hRow, hCount⟩ := hFinal
  have hEvents : ∀ event ∈ appearThenDiscover, event.isPass = false := by decide
  have hNoPass : ∀ entry ∈ historyOf connectionStep freshConnectionScreen appearThenDiscover,
      entry.2.isPass = false :=
    fun entry hEntry => hEvents entry.2 (action_mem_of_mem_historyOf hEntry)
  have hStatus : cellStatus ⟨1, 1⟩
      (historyOf connectionStep freshConnectionScreen appearThenDiscover) = .undrawn := rfl
  refine ⟨screen, hExec, ?_⟩
  refine (row_selects_what_it_shows_iff (run_of_exec hExec) rfl hNoPass ⟨1, 1⟩ hRow).mpr ?_
  exact ⟨by decide, hCount, fun hOutdated =>
    absurd (hStatus.symm.trans hOutdated) (by decide)⟩

/-- The table has a header row, and a tap on it raises. -/
theorem header_row_raises :
    ∃ screen, exec connectionStep freshConnectionScreen appearThenDiscover = .ok screen ∧
      screen.tableView.hasRow ⟨0, 1⟩ = true ∧
      screen.cellForRow ⟨0, 1⟩ = .ok (.header "Connect Device") ∧
      screen.didSelectRow ⟨0, 1⟩ = .error .rangeException ∧
      ¬ screen.SelectsWhatItShows ⟨0, 1⟩ := by
  refine ⟨_, rfl, by decide, rfl, rfl, ?_⟩
  intro hSelects
  obtain ⟨after, hTap⟩ := hSelects.taps
  cases hTap

end LockJaw
