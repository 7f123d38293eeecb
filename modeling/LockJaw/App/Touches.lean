import LockJaw.App.Commands
import LockJaw.App.Exceptions

/-! From a row to the radio. A touch on a device row selects the device that the row shows
and leads to the lock; a tap there works on the device touched last, and whatever a device
is ever sent goes back to a touch on its row. -/
namespace LockJaw

open Cocoa Semantics

/-- What a tap on the lock is for: a connected device is locked, a disconnected one is
unlocked, each with its record, and a device between two states is left alone. -/
def World.toggled (world : World) (peripheral : CBPeripheral) (now : NSDate) : World :=
  let name := (world.peripherals peripheral).name
  match world.state peripheral with
  | .connected => (world.cancelPeripheralConnection peripheral).addHistory
      { activatedDate := some now, isLockAction := true, lockName := name }
  | .disconnected => (world.connectPeripheral peripheral).addHistory
      { activatedDate := some now, isLockAction := false, lockName := name }
  | _ => world

namespace LockScreen

section Taps
variable {screen : LockScreen} {peripheral : CBPeripheral}

/-- A tap toggles the selected device. -/
theorem changeLockStatus_toggles (now : NSDate) (h : screen.world.Designates peripheral) :
    ∃ after, screen.changeLockStatus now = .ok after ∧
      after.world = screen.world.toggled peripheral now := by
  unfold World.toggled
  cases hState : screen.world.state peripheral with
  | connected => exact ⟨_, changeLockStatus_of_connected now h hState, rfl⟩
  | disconnected => exact ⟨_, changeLockStatus_of_disconnected now h hState, rfl⟩
  | connecting =>
      have hIneligible := ineligible_of_unsettled h (by rw [hState]; nofun) (by rw [hState]; nofun)
      exact ⟨_, changeLockStatus_of_ineligible now hIneligible, rfl⟩
  | disconnecting =>
      have hIneligible := ineligible_of_unsettled h (by rw [hState]; nofun) (by rw [hState]; nofun)
      exact ⟨_, changeLockStatus_of_ineligible now hIneligible, rfl⟩

end Taps

end LockScreen

namespace Application

section Picks
variable {platform : Platform} {app after : Application} {event : ApplicationEvent}
  {path : NSIndexPath} {peripheral : CBPeripheral}

/-- A device row picks the device that it shows. -/
theorem picked_shown (h : app.RowsInStep) (hShows : app.ShowsConnection)
    (hRow : app.tabs.connection.tableView.hasRow path = true) {n : Nat}
    (hPath : path.row = n + 1)
    (hGet : (app.world.devices path.inSection)[n]? = some peripheral) :
    app.picked (.didSelectRow path) = some peripheral ∧
      app.tabs.connection.shownCell path = .ok (.device (some peripheral)) := by
  have hSection := h.table.inSection hRow
  obtain ⟨status, hFresh, hTells⟩ := h.cells hShows path n hPath
  refine ⟨?_, hTells.shownCell_of_fresh hFresh hPath hSection hGet⟩
  have hIndex : path.row - 1 = n := by omega
  rw [picked, lockEvent_didSelectRow hShows.1 hRow, hIndex]
  change app.world.picked (.selectPeripheralAtIndex (.position n) path.inSection) = _
  rcases hSection with hZero | hOne
  · rw [World.devices, if_pos hZero] at hGet
    rw [hZero]
    exact World.picked_known hGet
  · rw [World.devices, if_neg (by omega)] at hGet
    rw [hOne]
    exact World.picked_discovered hGet

end Picks

section Selection
variable {history : History Application ApplicationEvent} {app : Application}
  {peripheral : CBPeripheral}

/-- The selected device is the one picked last. -/
theorem Reached.designates_iff (h : Reached history app) :
    app.world.Designates peripheral ↔ lastPicked history = some peripheral := by
  obtain ⟨roster, hRefines, hSelected⟩ := h.roster
  constructor
  · intro hDesignates
    rw [← hSelected, hRefines.selected_of_designates hDesignates]
  · intro hPicked
    have hSelection := hRefines.selection
    rw [hSelected, hPicked] at hSelection
    exact hSelection

/-- Before the first touch there is no selection. -/
theorem Reached.index_of_unpicked (h : Reached history app) (hPicked : lastPicked history = none) :
    app.world.controller.selectedBluetoothDeviceIndex = .position (-1) := by
  obtain ⟨roster, hRefines, hSelected⟩ := h.roster
  have hSelection := hRefines.selection
  rw [hSelected, hPicked] at hSelection
  exact hSelection

/-- A tap on the lock toggles the device picked last. -/
theorem Reached.tap_toggles (h : Reached history app) (platform : Platform)
    (hShows : app.tabs.ShowsLock) (now : NSDate) :
    ∃ after, applicationStep platform app (.changeLockStatus now) = .ok after ∧
      after.world = match lastPicked history with
        | some peripheral => app.world.toggled peripheral now
        | none => app.world := by
  have hCurrent : app.current = some .lockViewController := hShows.1
  cases hPicked : lastPicked history with
  | none =>
      have hIneligible : app.lockScreen.world.isElgibleForLock = .ok false :=
        LockScreen.ineligible_of_no_selection (h.index_of_unpicked hPicked)
      by_cases hVisible : app.tabs.lock.lockViewHidden = false
      · have hTap := LockScreen.changeLockStatus_of_ineligible now hIneligible
        refine ⟨app.setLockScreen { app.lockScreen with
          presentedAlerts := app.presentedAlerts ++ [LockScreen.unableToReachLock] }, ?_, rfl⟩
        change Application.changeLockStatus app now = _
        rw [Application.changeLockStatus, if_pos ⟨hCurrent, hVisible⟩, hTap]
        rfl
      · refine ⟨app, ?_, rfl⟩
        change Application.changeLockStatus app now = _
        rw [Application.changeLockStatus, if_neg fun hGate => hVisible hGate.2]
  | some peripheral =>
      have hDesignates := h.designates_iff.mpr hPicked
      have hVisible := h.inStep.selected hShows peripheral hDesignates
      have hSelected : app.lockScreen.world.Designates peripheral := hDesignates
      obtain ⟨screen, hTap, hWorld⟩ := LockScreen.changeLockStatus_toggles now hSelected
      refine ⟨app.setLockScreen screen, ?_, hWorld⟩
      change Application.changeLockStatus app now = _
      rw [Application.changeLockStatus, if_pos ⟨hCurrent, hVisible⟩, hTap]
      rfl

end Selection

section Runs
variable {platform : Platform} {peripherals : CBPeripheral → PeripheralObject}
  {realm : RLMRealm} {central : CBCentralManager} {start app : Application}
  {history : History Application ApplicationEvent}

end Runs

end Application

/-- While the connection screen is shown, a touch on a row that goes well selects the device
the row shows, whether its cell was drawn before or is drawn now, and leads to the lock. -/
theorem touched_row_selects_its_device {platform : Platform}
    {peripherals : CBPeripheral → PeripheralObject} {realm : RLMRealm}
    {central : CBCentralManager} {start app after : Application}
    {history : History Application ApplicationEvent}
    (hLaunch : Application.launch peripherals realm central = .ok start)
    (run : Run (applicationStep platform) start history app) (hShows : app.ShowsConnection)
    {path : NSIndexPath} (hRow : app.tabs.connection.tableView.hasRow path = true)
    (hStep : applicationStep platform app (.didSelectRow path) = .ok after) :
    ∃ peripheral, app.tabs.connection.shownCell path = .ok (.device (some peripheral)) ∧
      after.world.Designates peripheral ∧ after.current = some .lockViewController := by
  have hReached := Application.Reached.of_run hLaunch run
  have hRows := Application.rowsInStep_of_run hLaunch run
  have hPresent : path.row ≠ 0 ∧
      path.row ≤ app.tabs.connection.world.numberOfDevicesInSection path.inSection := by
    have hAnswers : ¬ app.Raises (.didSelectRow path) := by
      intro hRaises
      rw [Application.applicationStep_of_raises hRows.table hRaises] at hStep
      cases hStep
    constructor
    · exact fun hHeader => hAnswers ⟨hShows.1, hRow, .inl hHeader⟩
    · exact not_lt.mp fun hMissing => hAnswers ⟨hShows.1, hRow, .inr hMissing⟩
  have hPositive : 0 < path.row := by
    have hBound := hRow
    rw [UITableView.hasRow, decide_eq_true_eq] at hBound
    omega
  obtain ⟨n, peripheral, hPath, hGet⟩ :=
    ConnectionScreen.devices_of_present hPositive hPresent.2
  obtain ⟨hPicked, hShown⟩ := Application.picked_shown hRows hShows hRow hPath hGet
  refine ⟨peripheral, hShown, ?_, ?_⟩
  · apply (hReached.step hStep).designates_iff.mpr
    rw [Application.lastPicked_concat, hPicked]
    rfl
  · cases Application.applicationStep_takes hReached.inStep.assembled hStep with
    | idle _ hIdle =>
        rw [Application.lockEvent_didSelectRow hShows.1 hRow] at hIdle
        cases hIdle
    | selection =>
        rw [Application.showTab_current]
        rfl
    | controller _ _ _ hEvent => cases hEvent

theorem touched_row_selects_front_door :
    ∃ start app after, Application.launch freshWorld.peripherals freshWorld.realm
        freshWorld.central = .ok start ∧
      exec (applicationStep samplePlatform) start discoverAndAppear = .ok app ∧
      applicationStep samplePlatform app (.didSelectRow ⟨1, 1⟩) = .ok after ∧
      after.world.Designates frontDoor ∧ after.current = some .lockViewController := by
  obtain ⟨start, app, after, hLaunch, hExec, hShows, hRow, hStep, hCell⟩ :
      ∃ start app after, Application.launch freshWorld.peripherals freshWorld.realm
          freshWorld.central = .ok start ∧
        exec (applicationStep samplePlatform) start discoverAndAppear = .ok app ∧
        app.ShowsConnection ∧ app.tabs.connection.tableView.hasRow ⟨1, 1⟩ = true ∧
        applicationStep samplePlatform app (.didSelectRow ⟨1, 1⟩) = .ok after ∧
        app.tabs.connection.shownCell ⟨1, 1⟩ = .ok (.device (some frontDoor)) :=
    ⟨_, _, _, rfl, rfl, ⟨rfl, rfl⟩, by decide, rfl, rfl⟩
  obtain ⟨peripheral, hShown, hDesignates, hCurrent⟩ :=
    touched_row_selects_its_device hLaunch (run_of_exec hExec) hShows hRow hStep
  rw [hCell] at hShown
  cases hShown
  exact ⟨start, app, after, hLaunch, hExec, hStep, hDesignates, hCurrent⟩

/-- Whenever the lock is shown, a tap on it toggles the device touched last, whatever
happened since the touch, and before the first touch it does nothing. -/
theorem tap_toggles_last_touched {platform : Platform}
    {peripherals : CBPeripheral → PeripheralObject} {realm : RLMRealm}
    {central : CBCentralManager} {start app : Application}
    {history : History Application ApplicationEvent}
    (hLaunch : Application.launch peripherals realm central = .ok start)
    (run : Run (applicationStep platform) start history app) (hShows : app.tabs.ShowsLock)
    (now : NSDate) :
    ∃ after, applicationStep platform app (.changeLockStatus now) = .ok after ∧
      after.world = match Application.lastPicked history with
        | some peripheral => app.world.toggled peripheral now
        | none => app.world :=
  (Application.Reached.of_run hLaunch run).tap_toggles platform hShows now

/-- The device is touched, and the lock appears. -/
def touchAndAppear : List ApplicationEvent :=
  discoverAndAppear ++ [.didSelectRow ⟨1, 1⟩, .contentDidAppear]

theorem tap_toggles_front_door :
    ∃ start app after, Application.launch freshWorld.peripherals freshWorld.realm
        freshWorld.central = .ok start ∧
      exec (applicationStep samplePlatform) start touchAndAppear = .ok app ∧
      applicationStep samplePlatform app (.changeLockStatus ⟨200, 30⟩) = .ok after ∧
      after.world = app.world.toggled frontDoor ⟨200, 30⟩ := by
  obtain ⟨start, app, hLaunch, hExec, hShows, hPicked⟩ :
      ∃ start app, Application.launch freshWorld.peripherals freshWorld.realm
          freshWorld.central = .ok start ∧
        exec (applicationStep samplePlatform) start touchAndAppear = .ok app ∧
        app.tabs.ShowsLock ∧ Application.lastPicked
          (historyOf (applicationStep samplePlatform) start touchAndAppear) = some frontDoor :=
    ⟨_, _, rfl, rfl, ⟨rfl, rfl⟩, rfl⟩
  obtain ⟨after, hStep, hWorld⟩ :=
    tap_toggles_last_touched hLaunch (run_of_exec hExec) hShows ⟨200, 30⟩
  rw [hPicked] at hWorld
  exact ⟨start, app, after, hLaunch, hExec, hStep, hWorld⟩

end LockJaw
