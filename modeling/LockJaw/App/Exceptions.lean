import LockJaw.App.History
import LockJaw.App.Rows

/-! Where the application raises. Two of its reads are not checked against what is read: a
header row asks for the device before the first one, and a row of the table asks for a
device that the lists may not have. Nothing else raises, whatever was done before. -/
namespace LockJaw

open Cocoa Semantics

namespace ConnectionScreen

section Reads
variable {screen : ConnectionScreen} {path : NSIndexPath}

/-- A row past the devices of its section has none to read. -/
theorem objectAtIndex_of_missing
    (hMissing : screen.world.numberOfDevicesInSection path.inSection < path.row) :
    objectAtIndex (screen.world.devices path.inSection) (.position (path.row - 1)) =
      .error .rangeException := by
  have hLength := length_devices screen.world path.inSection
  exact objectAtIndex_out_of_range (.inr (by omega))

/-- A row without a device cannot be drawn. -/
theorem cellForRow_of_missing (hSection : path.inSection = 0 ∨ path.inSection = 1)
    (hMissing : screen.world.numberOfDevicesInSection path.inSection < path.row) :
    screen.cellForRow path = .error .rangeException := by
  have hCount := numberOfDevicesInSection_nonneg screen.world path.inSection
  have hRead := objectAtIndex_of_missing hMissing
  have hRow : path.row ≠ 0 := by omega
  rw [cellForRow, if_neg hRow, World.peripheralAtIndex]
  rw [World.devices] at hRead
  rcases hSection with hZero | hOne
  · rw [if_pos hZero] at hRead ⊢
    rw [hRead]
    rfl
  · have hNotZero : path.inSection ≠ 0 := by omega
    rw [if_neg hNotZero] at hRead ⊢
    rw [if_pos hOne, hRead]
    rfl

/-- A row without a device cannot be touched. -/
theorem didSelectRow_of_missing (hSection : path.inSection = 0 ∨ path.inSection = 1)
    (hMissing : screen.world.numberOfDevicesInSection path.inSection < path.row) :
    screen.didSelectRow path = .error .rangeException := by
  have hRead := objectAtIndex_of_missing hMissing
  rw [didSelectRow, World.selectPeripheralAtIndex]
  rw [World.devices] at hRead
  rcases hSection with hZero | hOne
  · rw [if_pos hZero] at hRead ⊢
    rw [hRead]
    rfl
  · have hNotZero : path.inSection ≠ 0 := by omega
    rw [if_neg hNotZero] at hRead ⊢
    rw [if_pos hOne, hRead]
    rfl

/-- A device row that is not past the devices has one. -/
theorem devices_of_present (hRow : 0 < path.row)
    (hPresent : path.row ≤ screen.world.numberOfDevicesInSection path.inSection) :
    ∃ (n : Nat) (peripheral : CBPeripheral), path.row = n + 1 ∧
      (screen.world.devices path.inSection)[n]? = some peripheral := by
  have hLength := length_devices screen.world path.inSection
  have hBound : (path.row - 1).toNat < (screen.world.devices path.inSection).length := by omega
  exact ⟨(path.row - 1).toNat, _, by omega, List.getElem?_eq_getElem hBound⟩

/-- A block of a discovery completes as long as no pass runs. -/
theorem runMainBlock_completes (hFree : screen.PassFree) (hTable : screen.TableInStep) :
    ∃ after, screen.runMainBlock = .ok after := by
  unfold runMainBlock
  split
  · exact ⟨screen, rfl⟩
  · rename_i object rest hQueue
    have hInsertable : Insertable { screen with mainQueue := rest } :=
      ⟨⟨hTable.rows, hTable.cells⟩, hFree.encoded⟩
    have hBlock := hFree.blocks (hQueue ▸ List.mem_cons_self)
    have hSection : object = 0 ∨ object = 1 := by simpa using hBlock
    exact (hInsertable.insertsInBatches hSection).completes
  · rename_i path rest hQueue
    have hBlock := hFree.blocks (hQueue ▸ List.mem_cons_self)
    simp at hBlock

end Reads

end ConnectionScreen

namespace TabScreen

/-- A selection that completes reaches the lock's tab. -/
theorem Navigable.didSelectRow_completes {screen : TabScreen} (h : screen.Navigable)
    (hCurrent : screen.current = some .connectionViewController) {path : NSIndexPath}
    {connection : ConnectionScreen}
    (hSelect : screen.connection.didSelectRow path = .ok connection) :
    ∃ after, screen.didSelectRow path = .ok after := by
  obtain ⟨_, hRequest⟩ := ConnectionScreen.didSelectRow_request h.delegate hSelect
  obtain ⟨i, _, hShowing⟩ := h.container
  have hClick : screen.container.selectButtonAtIndex kLKJControlLockIndex =
      .ok (.showing lockJawTabs lockJawControllers (some 0)) := by
    have hCount : lockJawControllers.length = lockJawTabs.length := rfl
    rw [hShowing]
    exact LKJTabViewController.buttonClicked_showing hCount (by decide)
  have hSame : some .connectionViewController =
      TabScreen.current { screen with connection := connection } := hCurrent.symm
  have hGranted : shouldTransition { screen with connection := connection }
      .connectionViewController .lockViewController = .ok (TabScreen.exchange
        { screen with connection := connection }
        (.showing lockJawTabs lockJawControllers (some 0))) := by
    rw [shouldTransition, if_pos hSame, if_pos rfl]
    unfold selectButtonAtIndex
    dsimp only
    rw [hClick]
    rfl
  unfold TabScreen.didSelectRow
  rw [if_pos hCurrent, hSelect, ok_bind]
  dsimp only
  rw [hRequest, List.foldlM_cons, hGranted]
  exact ⟨_, rfl⟩

end TabScreen

namespace Application

/-- The events to which the application has no answer: a touch on a header row, and a touch
on a device row, or its drawing, where the section has no such device. -/
def Raises (app : Application) : ApplicationEvent → Prop
  | .didSelectRow path => app.current = some .connectionViewController ∧
      app.tabs.connection.tableView.hasRow path = true ∧
      (path.row = 0 ∨ app.world.numberOfDevicesInSection path.inSection < path.row)
  | .drawConnectionRow path => app.current = some .connectionViewController ∧
      app.tabs.connection.tableView.hasRow path = true ∧
      app.world.numberOfDevicesInSection path.inSection < path.row
  | _ => False

section Steps
variable {platform : Platform} {app : Application} {event : ApplicationEvent}
  {roster : Roster CBPeripheral}

/-- The exceptions listed are raised. -/
theorem applicationStep_of_raises (hTable : app.tabs.connection.TableInStep)
    (h : app.Raises event) :
    applicationStep platform app event = .error .rangeException := by
  cases event with
  | didSelectRow path =>
      obtain ⟨hCurrent, hRow, hUnchecked⟩ := h
      have hContent : app.tabs.current = some .connectionViewController := hCurrent
      have hRaises : app.tabs.connection.didSelectRow path = .error .rangeException := by
        rcases hUnchecked with hHeader | hMissing
        · exact ConnectionScreen.didSelectRow_header hHeader (hTable.inSection hRow)
        · exact ConnectionScreen.didSelectRow_of_missing (hTable.inSection hRow) hMissing
      change app.didSelectRow path = _
      rw [Application.didSelectRow, if_pos ⟨hCurrent, hRow⟩, TabScreen.didSelectRow,
        if_pos hContent, hRaises]
      rfl
  | drawConnectionRow path =>
      obtain ⟨hCurrent, hRow, hMissing⟩ := h
      have hRaises : app.tabs.connection.cellForRow path = .error .rangeException :=
        ConnectionScreen.cellForRow_of_missing (hTable.inSection hRow) hMissing
      change app.drawConnectionRow path = _
      rw [drawConnectionRow, if_pos hCurrent, connectionStep, if_pos hRow, hRaises]
      rfl
  | _ => exact absurd h id

/-- What the user touches on the connection screen, with a device behind it, answers. -/
theorem didSelectRow_completes (hAssembled : app.Assembled)
    (hTable : app.tabs.connection.TableInStep) {path : NSIndexPath}
    (h : ¬ app.Raises (.didSelectRow path)) : ∃ after, app.didSelectRow path = .ok after := by
  unfold Application.didSelectRow
  split
  · rename_i hGate
    obtain ⟨hCurrent, hRow⟩ := hGate
    have hChecked : path.row ≠ 0 ∧
        path.row ≤ app.tabs.connection.world.numberOfDevicesInSection path.inSection := by
      constructor
      · exact fun hHeader => h ⟨hCurrent, hRow, .inl hHeader⟩
      · exact not_lt.mp fun hMissing => h ⟨hCurrent, hRow, .inr hMissing⟩
    have hPositive : 0 < path.row := by
      rw [UITableView.hasRow, decide_eq_true_eq] at hRow
      omega
    obtain ⟨n, peripheral, hPath, hGet⟩ :=
      ConnectionScreen.devices_of_present hPositive hChecked.2
    obtain ⟨connection, hSelect⟩ :=
      ConnectionScreen.didSelectRow_device hPath (hTable.inSection hRow) hGet
    obtain ⟨tabs, hTabs⟩ := hAssembled.navigable.didSelectRow_completes hCurrent hSelect
    rw [hTabs]
    exact ⟨_, rfl⟩
  · exact ⟨app, rfl⟩

/-- Every other row of the connection screen is drawn. -/
theorem drawConnectionRow_completes (hTable : app.tabs.connection.TableInStep)
    {path : NSIndexPath} (h : ¬ app.Raises (.drawConnectionRow path)) :
    ∃ after, app.drawConnectionRow path = .ok after := by
  unfold drawConnectionRow
  split
  · rename_i hCurrent
    rw [connectionStep]
    split
    · rename_i hRow
      have hCell : ∃ cell, app.tabs.connection.cellForRow path = .ok cell := by
        by_cases hHeader : path.row = 0
        · rw [ConnectionScreen.cellForRow, if_pos hHeader]
          split <;> exact ⟨_, rfl⟩
        · have hPresent : path.row ≤
              app.tabs.connection.world.numberOfDevicesInSection path.inSection :=
            not_lt.mp fun hMissing => h ⟨hCurrent, hRow, hMissing⟩
          have hPositive : 0 < path.row := by
            have hBound := hRow
            rw [UITableView.hasRow, decide_eq_true_eq] at hBound
            omega
          obtain ⟨n, peripheral, hPath, hGet⟩ :=
            ConnectionScreen.devices_of_present hPositive hPresent
          exact ⟨_, (ConnectionScreen.cellForRow_eq_ok hPath (hTable.inSection hRow)).mpr
            ⟨peripheral, hGet, rfl⟩⟩
      obtain ⟨cell, hCell⟩ := hCell
      rw [hCell]
      exact ⟨_, rfl⟩
    · exact ⟨_, rfl⟩
  · exact ⟨app, rfl⟩

/-- Every row of the history is drawn. -/
theorem drawHistoryRow_completes (h : app.HistoryInStep platform) (path : NSIndexPath)
    (now : NSDate) : ∃ after, app.drawHistoryRow platform path now = .ok after := by
  unfold drawHistoryRow
  split
  · rename_i hGate
    obtain ⟨_, hRow⟩ := hGate
    rw [UITableView.hasRow, decide_eq_true_eq] at hRow
    have hCount := h.rows path.inSection
    have hBound : 0 ≤ path.row ∧ path.row < app.world.realm.history.length := by
      unfold HistoryScreen.rowCounts HistoryScreen.numberOfRows at hCount
      split at hCount
      · rw [HistoryScreen.length_results] at hCount
        omega
      · omega
    obtain ⟨record, _, hCell⟩ := HistoryScreen.cellForRow_completes hBound
    rw [hCell]
    exact ⟨_, rfl⟩
  · exact ⟨app, rfl⟩

/-- No tap on the lock raises. -/
theorem changeLockStatus_completes (hRefines : Refines app.world roster) (now : NSDate) :
    ∃ after, app.changeLockStatus now = .ok after := by
  have hScreen : Refines app.lockScreen.world roster := hRefines
  obtain ⟨screen, hTap, _⟩ := LockScreen.changeLockStatus_taps hScreen now
  unfold Application.changeLockStatus
  split
  · rw [hTap]
    exact ⟨_, rfl⟩
  · exact ⟨app, rfl⟩

/-- The bar has three buttons. -/
theorem numberOfButtons (hAssembled : app.Assembled) :
    app.tabs.container.tabView.buttonArray.length = 3 := by
  obtain ⟨i, _, hShowing⟩ := hAssembled.navigable.container
  rw [hShowing]
  simp [LKJTabViewController.showing, paintedButtons, lockJawTabs]

/-- A click on a button of the bar shows its tab. -/
theorem buttonClicked_eq (hAssembled : app.Assembled) {sender : Nat} (hSender : sender < 3) :
    applicationStep platform app (.buttonClicked sender) = .ok (app.showTab sender) := by
  obtain ⟨i, _, hShowing⟩ := hAssembled.navigable.container
  have hCount : lockJawControllers.length = lockJawTabs.length := rfl
  unfold applicationStep
  dsimp only
  rw [if_pos (by rwa [numberOfButtons hAssembled]), TabScreen.buttonClicked, hShowing,
    LKJTabViewController.buttonClicked_showing hCount hSender]
  rfl

/-- No click on the bar raises. -/
theorem buttonClicked_completes (hAssembled : app.Assembled) (sender : Nat) :
    ∃ after, applicationStep platform app (.buttonClicked sender) = .ok after := by
  by_cases hSender : sender < 3
  · exact ⟨_, buttonClicked_eq hAssembled hSender⟩
  · exact ⟨app, if_neg (by rwa [numberOfButtons hAssembled])⟩

/-- Every other event has an answer. -/
theorem applicationStep_completes (hInStep : app.InStep) (hRefines : Refines app.world roster)
    (hRows : app.RowsInStep) (hHistory : app.HistoryInStep platform)
    (h : ¬ app.Raises event) : ∃ after, applicationStep platform app event = .ok after := by
  cases event with
  | buttonClicked sender => exact buttonClicked_completes hInStep.assembled sender
  | didSelectRow path => exact didSelectRow_completes hInStep.assembled hRows.table h
  | changeLockStatus now => exact changeLockStatus_completes hRefines now
  | contentDidAppear => exact ⟨_, rfl⟩
  | drawConnectionRow path => exact drawConnectionRow_completes hRows.table h
  | drawHistoryRow path now => exact drawHistoryRow_completes hHistory path now
  | loadHistoryTable =>
      unfold applicationStep
      dsimp only
      split <;> exact ⟨_, rfl⟩
  | didDiscoverPeripheral peripheral now => exact ⟨_, rfl⟩
  | centralManagerDidUpdateState state => exact ⟨_, rfl⟩
  | radio peripheral answer => exact ⟨_, rfl⟩
  | peripheralDidUpdateName peripheral name => exact ⟨_, rfl⟩
  | expirationTimerFires clock =>
      unfold applicationStep
      dsimp only
      rw [hInStep.assembled.timer]
      exact ⟨app, rfl⟩
  | runNotificationBlock => exact ⟨_, applicationStep_runNotificationBlock platform app⟩
  | runMainBlock =>
      obtain ⟨connection, hBlock⟩ :=
        ConnectionScreen.runMainBlock_completes hRows.free hRows.table
      exact ⟨_, applicationStep_runMainBlock hBlock⟩

end Steps

end Application

/-- Whatever was done since the launch, an event raises exactly when it touches a header
row, or touches or draws a device row that its section has no device for; the exception is
that of a range. -/
theorem application_raises_iff {platform : Platform}
    {peripherals : CBPeripheral → PeripheralObject} {realm : RLMRealm}
    {central : CBCentralManager} {start app : Application}
    {history : History Application ApplicationEvent}
    (hLaunch : Application.launch peripherals realm central = .ok start)
    (run : Run (applicationStep platform) start history app) (event : ApplicationEvent)
    (exception : NSException) :
    applicationStep platform app event = .error exception ↔
      app.Raises event ∧ exception = .rangeException := by
  have hReached := Application.Reached.of_run hLaunch run
  have hRows := Application.rowsInStep_of_run hLaunch run
  have hHistory := Application.HistoryInStep.of_run hLaunch run
  obtain ⟨roster, hRefines, _⟩ := hReached.roster
  constructor
  · intro hStep
    by_cases hRaises : app.Raises event
    · rw [Application.applicationStep_of_raises hRows.table hRaises] at hStep
      cases hStep
      exact ⟨hRaises, rfl⟩
    · obtain ⟨after, hCompletes⟩ := Application.applicationStep_completes hReached.inStep
        hRefines hRows hHistory hRaises
      rw [hCompletes] at hStep
      cases hStep
  · rintro ⟨hRaises, rfl⟩
    exact Application.applicationStep_of_raises hRows.table hRaises

/-- One device has appeared in its section, below the header. -/
def discoverAndAppear : List ApplicationEvent :=
  [.didDiscoverPeripheral frontDoor ⟨100, 20⟩, .contentDidAppear]

theorem application_raises_on_header :
    ∃ start app, Application.launch freshWorld.peripherals freshWorld.realm freshWorld.central =
        .ok start ∧
      exec (applicationStep samplePlatform) start discoverAndAppear = .ok app ∧
      applicationStep samplePlatform app (.didSelectRow ⟨0, 1⟩) = .error .rangeException := by
  obtain ⟨start, app, hLaunch, hExec, hRaises⟩ :
      ∃ start app, Application.launch freshWorld.peripherals freshWorld.realm
          freshWorld.central = .ok start ∧
        exec (applicationStep samplePlatform) start discoverAndAppear = .ok app ∧
        app.Raises (.didSelectRow ⟨0, 1⟩) :=
    ⟨_, _, rfl, rfl, rfl, by decide, .inl rfl⟩
  refine ⟨start, app, hLaunch, hExec, ?_⟩
  exact (application_raises_iff hLaunch (run_of_exec hExec) _ _).mpr ⟨hRaises, rfl⟩

end LockJaw
