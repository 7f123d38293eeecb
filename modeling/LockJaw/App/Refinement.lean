import LockJaw.App.Application
import LockJaw.Lock.History
import LockJaw.Semantics.Simulation

/-! The application against the lock's screen alone. Every run of the application is a run
of the lock's screen, with the steps that concern the tabs and the tables left out, so what
is proved of the lock's screen holds in the application. -/
namespace LockJaw

open Cocoa Semantics

/-- What a tap that completes does to the world: nothing, or one command to the selected
device with one record of its own time. -/
theorem LockScreen.changeLockStatus_world {screen after : LockScreen}
    {roster : Roster CBPeripheral} (hRefines : Refines screen.world roster) {now : NSDate}
    (hTap : screen.changeLockStatus now = .ok after) :
    after.world = screen.world ∨
      ∃ peripheral record, screen.world.Designates peripheral ∧
        record.activatedDate = some now ∧
        (after.world = (screen.world.cancelPeripheralConnection peripheral).addHistory record ∨
          after.world = (screen.world.connectPeripheral peripheral).addHistory record) := by
  rcases tap_cases hRefines with hIneligible | ⟨peripheral, hSelected, hState⟩ |
    ⟨peripheral, hSelected, hState⟩
  · rw [changeLockStatus_of_ineligible now hIneligible] at hTap
    cases hTap
    exact .inl rfl
  · rw [changeLockStatus_of_connected now hSelected hState] at hTap
    cases hTap
    exact .inr ⟨peripheral, _, hSelected, rfl, .inl rfl⟩
  · rw [changeLockStatus_of_disconnected now hSelected hState] at hTap
    cases hTap
    exact .inr ⟨peripheral, _, hSelected, rfl, .inr rfl⟩

namespace TabScreen

/-- An exchange, part by part: the content that leaves stops observing, and the
connection screen observes as soon as it comes. -/
theorem exchange_eq (screen : TabScreen)
    (container : LKJTabViewController ViewControllerClass) :
    screen.exchange container = {
      container := container
      appearance := .appearing
      connection := { screen.connection with
        appearance :=
          if container.currentContentViewController = some .connectionViewController then
            .appearing
          else if screen.current = some .connectionViewController then .hidden
          else screen.connection.appearance }
      lock := { screen.lock with
        observesRefresh := if screen.current = some .lockViewController then false
          else screen.lock.observesRefresh } } := by
  have hLeave : screen.contentWillDisappear = { screen with
      connection := { screen.connection with
        appearance := if screen.current = some .connectionViewController then .hidden
          else screen.connection.appearance }
      lock := { screen.lock with
        observesRefresh := if screen.current = some .lockViewController then false
          else screen.lock.observesRefresh } } := by
    unfold contentWillDisappear
    split
    · rename_i hCurrent
      rw [hCurrent]
      rfl
    · rename_i hCurrent
      rw [hCurrent]
      rfl
    · rename_i hLock hConnection
      rw [if_neg hLock, if_neg hConnection]
  have hCome : ∀ state : TabScreen, state.contentWillAppear = { state with
      connection := { state.connection with
        appearance := if state.current = some .connectionViewController then .appearing
          else state.connection.appearance } } := by
    intro state
    unfold contentWillAppear
    split
    · rename_i hCurrent
      rw [if_pos hCurrent]
      rfl
    · rename_i hCurrent
      rw [if_neg hCurrent]
  unfold exchange
  rw [hLeave, hCome]
  rfl

/-- An appearance, part by part. -/
theorem contentDidAppear_of_appearing {screen : TabScreen}
    (hAppearing : screen.appearance = .appearing) :
    screen.contentDidAppear = { screen with
      appearance := .appeared
      connection := if screen.current = some .connectionViewController then
        screen.connection.viewDidAppear else screen.connection
      lock := if screen.current = some .lockViewController then
        screen.lock.viewDidAppear screen.connection.world.existsBluetoothDevice
        else screen.lock } := by
  unfold contentDidAppear
  rw [if_pos hAppearing]
  dsimp only
  split
  · rename_i hCurrent
    have hLock : screen.current = some .lockViewController := hCurrent
    rw [hLock]
    rfl
  · rename_i hCurrent
    have hConnection : screen.current = some .connectionViewController := hCurrent
    rw [hConnection]
    rfl
  · rename_i hLock hConnection
    have hNotLock : screen.current ≠ some .lockViewController := hLock
    have hNotConnection : screen.current ≠ some .connectionViewController := hConnection
    rw [if_neg hNotLock, if_neg hNotConnection]

/-- A screen that has appeared does not appear once more. -/
theorem contentDidAppear_of_appeared {screen : TabScreen}
    (hAppeared : screen.appearance ≠ .appearing) : screen.contentDidAppear = screen :=
  if_neg hAppeared

end TabScreen

namespace Application

section Components
variable (platform : Platform) (app : Application)

/-- A click on the bar leaves the controller alone. -/
@[simp] theorem showTab_world (sender : Nat) : (app.showTab sender).world = app.world := by
  simp [showTab, world, TabScreen.exchange_eq]

@[simp] theorem setWorld_world (world : World) : (app.setWorld world).world = world := rfl

@[simp] theorem setConnection_world (connection : ConnectionScreen) :
    (app.setConnection connection).world = connection.world := rfl

/-- An appearance leaves the controller alone. -/
@[simp] theorem contentDidAppear_world : (app.contentDidAppear platform).world = app.world := by
  have hTabs : app.tabs.contentDidAppear.connection.world = app.tabs.connection.world := by
    by_cases hAppearing : app.tabs.appearance = .appearing
    · rw [TabScreen.contentDidAppear_of_appearing hAppearing]
      dsimp only
      split <;> rfl
    · rw [TabScreen.contentDidAppear_of_appeared hAppearing]
  unfold contentDidAppear
  dsimp only
  split
  · exact hTabs
  · exact hTabs

/-- A click shows the screen of its button. -/
theorem showTab_current (sender : Nat) :
    (app.showTab sender).current = lockJawControllers[sender]? := by
  rw [current, TabScreen.current, showTab, TabScreen.exchange_container]
  rfl

theorem showTab_appearance (sender : Nat) :
    (app.showTab sender).tabs.appearance = .appearing := by
  rw [showTab, TabScreen.exchange_eq]

/-- The screen that a click shows has yet to appear. -/
theorem showTab_not_appeared (sender : Nat) :
    (app.showTab sender).tabs.appearance ≠ .appeared := by
  rw [showTab_appearance]
  exact Appearance.noConfusion

/-- The tabs change nothing of the connection screen but whether it is on its way. -/
theorem showTab_connection (sender : Nat) :
    (app.showTab sender).tabs.connection = { app.tabs.connection with
      appearance := if (app.showTab sender).current = some .connectionViewController then
          .appearing
        else if app.current = some .connectionViewController then .hidden
        else app.tabs.connection.appearance } := by
  rw [showTab_current, showTab, TabScreen.exchange_eq]
  rfl

/-- The lock's screen stops to observe when it is left. -/
theorem showTab_observesRefresh (sender : Nat) :
    (app.showTab sender).tabs.lock.observesRefresh =
      if app.current = some .lockViewController then false
      else app.tabs.lock.observesRefresh := by
  rw [showTab, TabScreen.exchange_eq]
  rfl

theorem contentDidAppear_tabs :
    (app.contentDidAppear platform).tabs = app.tabs.contentDidAppear := by
  unfold contentDidAppear
  dsimp only
  split <;> rfl

/-- An appearance keeps the screen that is shown. -/
theorem contentDidAppear_current : (app.contentDidAppear platform).current = app.current := by
  rw [current, contentDidAppear_tabs]
  by_cases hAppearing : app.tabs.appearance = .appearing
  · rw [TabScreen.contentDidAppear_of_appearing hAppearing]
    rfl
  · rw [TabScreen.contentDidAppear_of_appeared hAppearing]
    rfl

section Appearing
variable {platform app}

theorem contentDidAppear_appearance (hAppearing : app.tabs.appearance = .appearing) :
    (app.contentDidAppear platform).tabs.appearance = .appeared := by
  rw [contentDidAppear_tabs, TabScreen.contentDidAppear_of_appearing hAppearing]

/-- The table is loaded when the connection screen appears, and at no other appearance. -/
theorem contentDidAppear_connection (hAppearing : app.tabs.appearance = .appearing) :
    (app.contentDidAppear platform).tabs.connection =
      if app.current = some .connectionViewController then app.tabs.connection.viewDidAppear
      else app.tabs.connection := by
  rw [contentDidAppear_tabs, TabScreen.contentDidAppear_of_appearing hAppearing]
  rfl

/-- The picture and the choice of views follow the controller when the lock appears. -/
theorem contentDidAppear_lock (hAppearing : app.tabs.appearance = .appearing) :
    (app.contentDidAppear platform).tabs.lock =
      if app.current = some .lockViewController then
        app.tabs.lock.viewDidAppear app.world.existsBluetoothDevice
      else app.tabs.lock := by
  rw [contentDidAppear_tabs, TabScreen.contentDidAppear_of_appearing hAppearing]
  rfl

end Appearing

end Components

/-- All that the lock's screen has of the application. -/
theorem lockScreen_eq_of_world {app after : Application} (hWorld : after.world = app.world)
    (hView : after.lockView = app.lockView)
    (hAlerts : after.presentedAlerts = app.presentedAlerts) :
    after.lockScreen = app.lockScreen := by
  rw [lockScreen, lockScreen, hWorld, hView, hAlerts]

/-- Neither the lock's picture nor what it commands depends on the tab shown. -/
@[simp] theorem showTab_lockScreen (app : Application) (sender : Nat) :
    (app.showTab sender).lockScreen = app.lockScreen :=
  lockScreen_eq_of_world (showTab_world app sender) rfl rfl

/-- Nor does it depend on which screens have appeared. -/
@[simp] theorem contentDidAppear_lockScreen (platform : Platform) (app : Application) :
    (app.contentDidAppear platform).lockScreen = app.lockScreen := by
  apply lockScreen_eq_of_world (contentDidAppear_world platform app)
  · unfold contentDidAppear
    dsimp only
    split <;> rfl
  · unfold contentDidAppear
    dsimp only
    split <;> rfl

section Assembly
variable {platform : Platform} {app after : Application} {event : ApplicationEvent}

/-- What changes the connection screen keeps the parts together if it keeps the delegate. -/
theorem Assembled.setConnection (h : app.Assembled) {connection : ConnectionScreen}
    (hDelegate : connection.hasDelegate = app.tabs.connection.hasDelegate) :
    (app.setConnection connection).Assembled where
  navigable := ⟨h.navigable.container, hDelegate.trans h.navigable.delegate⟩
  timer := h.timer

/-- A click on one of the three buttons keeps the parts together. -/
theorem Assembled.showTab (h : app.Assembled) {sender : Nat} (hSender : sender < 3) :
    (app.showTab sender).Assembled where
  navigable := h.navigable.exchange hSender
  timer := h.timer

theorem Assembled.contentDidAppear (h : app.Assembled) :
    (app.contentDidAppear platform).Assembled := by
  unfold Application.contentDidAppear
  dsimp only
  split
  · exact ⟨h.navigable.contentDidAppear, h.timer⟩
  · exact ⟨h.navigable.contentDidAppear, h.timer⟩

/-- No step takes the parts of the application apart. -/
theorem Assembled.takes (h : app.Assembled) (hTakes : app.Takes platform event after) :
    after.Assembled := by
  cases hTakes with
  | idle => exact h
  | click sender hSender => exact h.showTab hSender
  | selection path world transitions =>
      have hSelected : (app.setConnection { app.tabs.connection with
          world := world, transitions := transitions }).Assembled := h.setConnection rfl
      exact hSelected.showTab (by decide)
  | tap now screen => exact ⟨⟨h.navigable.container, h.navigable.delegate⟩, h.timer⟩
  | appearance => exact h.contentDidAppear
  | connectionDrawing path cell => exact h.setConnection rfl
  | historyDrawing path now cell => exact ⟨h.navigable, h.timer⟩
  | historyLoading => exact ⟨h.navigable, h.timer⟩
  | controller event controllerEvent world => exact h.setConnection rfl
  | radio peripheral answer => exact h.setConnection rfl
  | delivery => exact h.setConnection ConnectionScreen.runNotificationBlock_hasDelegate
  | mainBlock connection hBlock =>
      exact h.setConnection (ConnectionScreen.runMainBlock_hasDelegate hBlock)

theorem Assembled.step (h : app.Assembled)
    (hStep : applicationStep platform app event = .ok after) : after.Assembled :=
  h.takes (applicationStep_takes h hStep)

/-- The launch puts the parts together. -/
theorem assembled_of_launch {peripherals : CBPeripheral → PeripheralObject} {realm : RLMRealm}
    {central : CBCentralManager} (hLaunch : launch peripherals realm central = .ok app) :
    app.Assembled := by
  obtain ⟨tabs, hTabs, hApp⟩ := bind_eq_ok.mp hLaunch
  cases hApp
  exact ⟨TabScreen.navigable_of_viewDidLoad hTabs, rfl⟩

/-- What the delivery of a notification is to the controller. -/
theorem runNotificationBlock_world (screen : ConnectionScreen) :
    screen.runNotificationBlock.world = screen.world.runNotificationBlock.2 := by
  have hObserve : ∀ (state : ConnectionScreen) (posted : NSNotification),
      (state.observe posted).world = state.world := by
    intro state posted
    unfold ConnectionScreen.observe
    split
    · split <;> rfl
    · split
      · rfl
      · unfold ConnectionScreen.lostBluetoothDevice
        dsimp only
        split <;> rfl
    · rfl
  unfold ConnectionScreen.runNotificationBlock
  dsimp only
  split
  · rw [hObserve]
  · rfl

/-- A touched row selects the device at its place in the list. -/
theorem lockEvent_didSelectRow {path : NSIndexPath}
    (hCurrent : app.current = some .connectionViewController)
    (hRow : app.tabs.connection.tableView.hasRow path = true) :
    app.lockEvent (.didSelectRow path) = some (.controller
      (.selectPeripheralAtIndex (.position (path.row - 1)) path.inSection)) :=
  if_pos ⟨hCurrent, hRow⟩

/-- A tap on the lock in sight reaches it. -/
theorem lockEvent_changeLockStatus {now : NSDate}
    (hCurrent : app.current = some .lockViewController)
    (hVisible : app.tabs.lock.lockViewHidden = false) :
    app.lockEvent (.changeLockStatus now) = some (.changeLockStatus now) :=
  if_pos ⟨hCurrent, hVisible⟩

/-- What CoreBluetooth reports reaches the controller whatever is shown. -/
theorem lockEvent_of_controllerEvent {controllerEvent : ControllerEvent}
    (h : event.controllerEvent app = some controllerEvent) :
    app.lockEvent event = some (.controller controllerEvent) := by
  have hLabel : app.lockEvent event = (event.controllerEvent app).map .controller := by
    cases event with
    | didDiscoverPeripheral => rfl
    | centralManagerDidUpdateState => rfl
    | peripheralDidUpdateName => rfl
    | _ => cases h
  rw [hLabel, h]
  rfl

/-- A labelled step of the application is the step of the lock's screen. -/
theorem Takes.labelled (hTakes : app.Takes platform event after) {seen : LockScreenEvent}
    (hSeen : app.lockEvent event = some seen) :
    lockScreenStep app.lockScreen seen = .ok after.lockScreen := by
  cases hTakes with
  | idle _ hIdle =>
      rw [hIdle] at hSeen
      cases hSeen
  | click sender => cases hSeen
  | selection path world transitions hCurrent hRow hWorld =>
      rw [lockEvent_didSelectRow hCurrent hRow] at hSeen
      cases hSeen
      have hStep : app.lockScreen.world.step
          (.selectPeripheralAtIndex (.position (path.row - 1)) path.inSection) = .ok world :=
        hWorld
      rw [lockScreenStep, hStep, showTab_lockScreen]
      rfl
  | tap now screen hCurrent hVisible hScreen =>
      rw [lockEvent_changeLockStatus hCurrent hVisible] at hSeen
      cases hSeen
      exact hScreen
  | appearance => cases hSeen
  | connectionDrawing path cell => cases hSeen
  | historyDrawing path now cell => cases hSeen
  | historyLoading => cases hSeen
  | controller event controllerEvent world hEvent hWorld =>
      rw [lockEvent_of_controllerEvent hEvent] at hSeen
      cases hSeen
      have hStep : app.lockScreen.world.step controllerEvent = .ok world := hWorld
      rw [lockScreenStep, hStep]
      rfl
  | radio peripheral answer =>
      cases hSeen
      rfl
  | delivery =>
      cases hSeen
      have hWorld := runNotificationBlock_world app.tabs.connection
      rw [lockScreenStep, lockScreen, lockScreen, setConnection_world, hWorld]
      rfl
  | mainBlock connection => cases hSeen

/-- Any other step is out of the sight of the lock's screen. -/
theorem Takes.silent (hTakes : app.Takes platform event after)
    (hNone : app.lockEvent event = none) : after.lockScreen = app.lockScreen := by
  cases hTakes with
  | idle => rfl
  | click sender => exact showTab_lockScreen app sender
  | selection path world transitions hCurrent hRow =>
      rw [lockEvent_didSelectRow hCurrent hRow] at hNone
      cases hNone
  | tap now screen hCurrent hVisible =>
      rw [lockEvent_changeLockStatus hCurrent hVisible] at hNone
      cases hNone
  | appearance => exact contentDidAppear_lockScreen platform app
  | connectionDrawing path cell => rfl
  | historyDrawing path now cell => rfl
  | historyLoading => rfl
  | controller event controllerEvent world hEvent =>
      rw [lockEvent_of_controllerEvent hEvent] at hNone
      cases hNone
  | radio peripheral answer => cases hNone
  | delivery => cases hNone
  | mainBlock connection hBlock =>
      have hWorld := (ConnectionScreen.runMainBlock_frame hBlock).1
      exact lockScreen_eq_of_world (by rw [setConnection_world, hWorld]; rfl) rfl rfl

/-- An event that means nothing to the lock leaves the controller alone. -/
theorem Takes.silent_world (hTakes : app.Takes platform event after)
    (hNone : app.lockEvent event = none) : after.world = app.world :=
  congrArg LockScreen.world (hTakes.silent hNone)

/-- The application simulates the lock's screen. -/
theorem simulates_lockScreen (platform : Platform) :
    Simulates (applicationStep platform) lockScreenStep lockScreen lockEvent Assembled where
  preserved := fun _ _ _ hState hStep => hState.step hStep
  labelled := by
    intro state action after seen hState hStep hSeen
    exact (applicationStep_takes hState hStep).labelled hSeen
  silent := by
    intro state action after hState hStep hNone
    exact (applicationStep_takes hState hStep).silent hNone

end Assembly

end Application

end LockJaw
