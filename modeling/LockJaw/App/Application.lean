import LockJaw.History.Table
import LockJaw.Lock.Screen
import LockJaw.Tab.Navigation

/-! The whole application: one controller under three screens in a container. The user
reaches a screen only while it is the content, and only through what it shows; the radio,
the two queues and the tables act at any time. The expiration timer is created and never
added to a run loop. -/
namespace LockJaw

open Cocoa Semantics

/-- The screens with what the lock's and the history's hold besides their part in the
navigation. -/
structure Application where
  tabs : TabScreen
  lockView : LKJLockView
  presentedAlerts : List UIAlertController
  historyTable : UITableView LKJHistoryTableViewCell
  expirationTimerScheduled : Bool

/-- What the user, the radio and the queues do. A handler is one step: no other event, and no
change of a link, falls inside it. A touch is taken whether or not an alert is in front;
`foregroundStep` lets only those through that reach the application. -/
inductive ApplicationEvent where
  | buttonClicked (sender : Nat)
  | didSelectRow (path : NSIndexPath)
  | changeLockStatus (now : NSDate)
  | contentDidAppear
  | drawConnectionRow (path : NSIndexPath)
  | drawHistoryRow (path : NSIndexPath) (now : NSDate)
  | loadHistoryTable
  | didDiscoverPeripheral (peripheral : CBPeripheral) (now : NSDate)
  | centralManagerDidUpdateState (state : CBCentralManagerState)
  | radio (peripheral : CBPeripheral) (answer : RadioAnswer)
  | peripheralDidUpdateName (peripheral : CBPeripheral) (name : Option String)
  | expirationTimerFires (clock : PassClock)
  | runNotificationBlock
  | runMainBlock

namespace Application

def current (app : Application) : Option ViewControllerClass := app.tabs.current

def world (app : Application) : World := app.tabs.connection.world

def setConnection (app : Application) (connection : ConnectionScreen) : Application :=
  { app with tabs.connection := connection }

def setWorld (app : Application) (world : World) : Application :=
  app.setConnection { app.tabs.connection with world := world }

/-- The lock's screen with the controller it works on. -/
def lockScreen (app : Application) : LockScreen where
  world := app.world
  lockView := app.lockView
  presentedAlerts := app.presentedAlerts

def setLockScreen (app : Application) (screen : LockScreen) : Application :=
  { app.setWorld screen.world with
    lockView := screen.lockView
    presentedAlerts := screen.presentedAlerts }

/-- `application:didFinishLaunchingWithOptions:`, over what the store and CoreBluetooth
hold from before. -/
def launch (peripherals : CBPeripheral → PeripheralObject) (realm : RLMRealm)
    (central : CBCentralManager) : Except NSException Application := do
  let tabs ← TabScreen.viewDidLoad
    { controller := .init, peripherals := peripherals, realm := realm, central := central }
  return {
    tabs := tabs
    lockView := .init
    presentedAlerts := []
    historyTable := .init
    expirationTimerScheduled := false }

def controllerStep (app : Application) (event : ControllerEvent) :
    Except NSException Application := do
  let world ← app.world.step event
  return app.setWorld world

/-- A touch on a row of the connection screen. -/
def didSelectRow (app : Application) (path : NSIndexPath) : Except NSException Application :=
  if app.current = some .connectionViewController ∧
      app.tabs.connection.tableView.hasRow path = true then do
    let tabs ← app.tabs.didSelectRow path
    return { app with tabs := tabs }
  else .ok app

/-- A touch on the lock. -/
def changeLockStatus (app : Application) (now : NSDate) : Except NSException Application :=
  if app.current = some .lockViewController ∧ app.tabs.lock.lockViewHidden = false then do
    let screen ← app.lockScreen.changeLockStatus now
    return app.setLockScreen screen
  else .ok app

def reloadHistory (platform : Platform) (app : Application) : Application :=
  { app with
    historyTable :=
      app.historyTable.reloadData (HistoryScreen.rowCounts platform app.world.realm) }

/-- The content has appeared; `viewDidAppear:` of the history reloads its table. -/
def contentDidAppear (platform : Platform) (app : Application) : Application :=
  let after := { app with tabs := app.tabs.contentDidAppear }
  if app.tabs.appearance = .appearing ∧ app.current = some .historyTableViewController then
    after.reloadHistory platform
  else after

def drawConnectionRow (app : Application) (path : NSIndexPath) :
    Except NSException Application :=
  if app.current = some .connectionViewController then do
    let connection ← connectionStep app.tabs.connection (.drawRow path)
    return app.setConnection connection
  else .ok app

def drawHistoryRow (platform : Platform) (app : Application) (path : NSIndexPath)
    (now : NSDate) : Except NSException Application :=
  if app.current = some .historyTableViewController ∧ app.historyTable.hasRow path = true then do
    let cell ← HistoryScreen.cellForRow platform app.world.realm now path
    return { app with historyTable := app.historyTable.drawCell path cell }
  else .ok app

end Application

/-- What an event asks of the controller, if it comes from CoreBluetooth. -/
def ApplicationEvent.controllerEvent (app : Application) :
    ApplicationEvent → Option ControllerEvent
  | .didDiscoverPeripheral peripheral now => some (.didDiscoverPeripheral peripheral now)
  | .centralManagerDidUpdateState state => some (.centralManagerDidUpdateState state)
  | .peripheralDidUpdateName peripheral name =>
      some (.peripheralChanges peripheral name (app.world.peripherals peripheral).link)
  | _ => none

def applicationStep (platform : Platform) (app : Application) :
    ApplicationEvent → Except NSException Application
  | .buttonClicked sender =>
      if sender < app.tabs.container.tabView.buttonArray.length then do
        let tabs ← app.tabs.buttonClicked sender
        return { app with tabs := tabs }
      else .ok app
  | .didSelectRow path => app.didSelectRow path
  | .changeLockStatus now => app.changeLockStatus now
  | .contentDidAppear => .ok (app.contentDidAppear platform)
  | .drawConnectionRow path => app.drawConnectionRow path
  | .drawHistoryRow path now => app.drawHistoryRow platform path now
  | .loadHistoryTable =>
      if app.current = some .historyTableViewController then .ok (app.reloadHistory platform)
      else .ok app
  | .didDiscoverPeripheral peripheral now =>
      app.controllerStep (.didDiscoverPeripheral peripheral now)
  | .centralManagerDidUpdateState state =>
      app.controllerStep (.centralManagerDidUpdateState state)
  | .radio peripheral answer => .ok (app.setWorld (app.world.radio peripheral answer))
  | .peripheralDidUpdateName peripheral name =>
      app.controllerStep
        (.peripheralChanges peripheral name (app.world.peripherals peripheral).link)
  | .expirationTimerFires clock =>
      if app.expirationTimerScheduled then app.controllerStep (.removeExpiredDevices clock)
      else .ok app
  | .runNotificationBlock => do
      let tabs ← app.tabs.runNotificationBlock
      return { app with tabs := tabs }
  | .runMainBlock => do
      let connection ← app.tabs.connection.runMainBlock
      return app.setConnection connection

namespace Application

/-- The container shows one tab with its delegate set, and no timer is scheduled. -/
structure Assembled (app : Application) : Prop where
  navigable : app.tabs.Navigable
  timer : app.expirationTimerScheduled = false

/-- The tabs after a click on a button of the bar. -/
def showTab (app : Application) (sender : Nat) : Application :=
  { app with tabs := app.tabs.exchange (.showing lockJawTabs lockJawControllers (some sender)) }

/-- What an event means to the lock's screen and the controller behind it. -/
def lockEvent (app : Application) (event : ApplicationEvent) : Option LockScreenEvent :=
  match event with
  | .didSelectRow path =>
      if app.current = some .connectionViewController ∧
          app.tabs.connection.tableView.hasRow path = true then
        some (.controller
          (.selectPeripheralAtIndex (.position (path.row - 1)) path.inSection))
      else none
  | .changeLockStatus now =>
      if app.current = some .lockViewController ∧ app.tabs.lock.lockViewHidden = false then
        some (.changeLockStatus now)
      else none
  | .radio peripheral answer => some (.radio peripheral answer)
  | .runNotificationBlock => some (.controller .runNotificationBlock)
  | event => (event.controllerEvent app).map .controller

/-- What a step can do, by cases. An event out of the user's reach does nothing. -/
inductive Takes (platform : Platform) (app : Application) :
    ApplicationEvent → Application → Prop where
  | idle (event : ApplicationEvent) (hIdle : app.lockEvent event = none) :
      Takes platform app event app
  | click (sender : Nat) (hSender : sender < 3) :
      Takes platform app (.buttonClicked sender) (app.showTab sender)
  | selection (path : NSIndexPath) (world : World) (transitions : List ViewControllerClass)
      (hCurrent : app.current = some .connectionViewController)
      (hRow : app.tabs.connection.tableView.hasRow path = true)
      (hWorld : app.world.selectPeripheralAtIndex (.position (path.row - 1)) path.inSection =
        .ok world) :
      Takes platform app (.didSelectRow path)
        ((app.setConnection { app.tabs.connection with
          world := world, transitions := transitions }).showTab 0)
  | tap (now : NSDate) (screen : LockScreen)
      (hCurrent : app.current = some .lockViewController)
      (hVisible : app.tabs.lock.lockViewHidden = false)
      (hScreen : app.lockScreen.changeLockStatus now = .ok screen) :
      Takes platform app (.changeLockStatus now) (app.setLockScreen screen)
  | appearance :
      Takes platform app .contentDidAppear (app.contentDidAppear platform)
  | connectionDrawing (path : NSIndexPath) (cell : ConnectionCell)
      (hCurrent : app.current = some .connectionViewController)
      (hRow : app.tabs.connection.tableView.hasRow path = true)
      (hCell : app.tabs.connection.cellForRow path = .ok cell) :
      Takes platform app (.drawConnectionRow path)
        (app.setConnection { app.tabs.connection with
          tableView := app.tabs.connection.tableView.drawCell path cell })
  | historyDrawing (path : NSIndexPath) (now : NSDate) (cell : LKJHistoryTableViewCell)
      (hCurrent : app.current = some .historyTableViewController)
      (hRow : app.historyTable.hasRow path = true)
      (hCell : HistoryScreen.cellForRow platform app.world.realm now path = .ok cell) :
      Takes platform app (.drawHistoryRow path now)
        { app with historyTable := app.historyTable.drawCell path cell }
  | historyLoading (hCurrent : app.current = some .historyTableViewController) :
      Takes platform app .loadHistoryTable (app.reloadHistory platform)
  | controller (event : ApplicationEvent) (controllerEvent : ControllerEvent) (world : World)
      (hEvent : event.controllerEvent app = some controllerEvent)
      (hWorld : app.world.step controllerEvent = .ok world) :
      Takes platform app event (app.setWorld world)
  | radio (peripheral : CBPeripheral) (answer : RadioAnswer) :
      Takes platform app (.radio peripheral answer)
        (app.setWorld (app.world.radio peripheral answer))
  | delivery :
      Takes platform app .runNotificationBlock
        (app.setConnection app.tabs.connection.runNotificationBlock)
  | mainBlock (connection : ConnectionScreen)
      (hBlock : app.tabs.connection.runMainBlock = .ok connection) :
      Takes platform app .runMainBlock (app.setConnection connection)

section Steps
variable {platform : Platform} {app after : Application}

/-- A call of the controller that does not raise changes the world alone. -/
theorem controllerStep_eq_ok {event : ControllerEvent}
    (h : app.controllerStep event = .ok after) :
    ∃ world, app.world.step event = .ok world ∧ after = app.setWorld world := by
  obtain ⟨world, hWorld, hAfter⟩ := bind_eq_ok.mp h
  cases hAfter
  exact ⟨world, hWorld, rfl⟩

/-- A delivery changes the connection screen alone, and never raises. -/
theorem applicationStep_runNotificationBlock (platform : Platform) (app : Application) :
    applicationStep platform app .runNotificationBlock =
      .ok (app.setConnection app.tabs.connection.runNotificationBlock) := by
  unfold applicationStep
  dsimp only
  rw [TabScreen.runNotificationBlock_eq]
  rfl

/-- A block of the main queue changes the connection screen alone. -/
theorem applicationStep_runMainBlock {connection : ConnectionScreen}
    (hBlock : app.tabs.connection.runMainBlock = .ok connection) :
    applicationStep platform app .runMainBlock = .ok (app.setConnection connection) := by
  unfold applicationStep
  dsimp only
  rw [hBlock]
  rfl

/-- A selection asks for the lock once, and the container grants it. -/
theorem didSelectRow_tabs {path : NSIndexPath} {tabs : TabScreen}
    (hNavigable : app.tabs.Navigable)
    (hCurrent : app.current = some .connectionViewController)
    (hStep : app.tabs.didSelectRow path = .ok tabs) :
    ∃ world transitions,
      app.world.selectPeripheralAtIndex (.position (path.row - 1)) path.inSection =
        .ok world ∧
      { app with tabs := tabs } = (app.setConnection { app.tabs.connection with
        world := world, transitions := transitions }).showTab 0 := by
  have hContent : app.tabs.current = some .connectionViewController := hCurrent
  unfold TabScreen.didSelectRow at hStep
  rw [if_pos hContent] at hStep
  obtain ⟨connection, hSelect, hRequests⟩ := bind_eq_ok.mp hStep
  obtain ⟨_, hRequest⟩ := ConnectionScreen.didSelectRow_request hNavigable.delegate hSelect
  obtain ⟨world, transitions, hWorld, rfl⟩ := ConnectionScreen.didSelectRow_eq_ok hSelect
  dsimp only at hRequests
  rw [hRequest, List.foldlM_cons] at hRequests
  obtain ⟨next, hTransition, hNext⟩ := bind_eq_ok.mp hRequests
  cases hNext
  have hSame : some .connectionViewController = TabScreen.current { app.tabs with
      connection := { app.tabs.connection with world := world, transitions := transitions } } :=
    hCurrent.symm
  rw [TabScreen.shouldTransition, if_pos hSame, if_pos rfl] at hTransition
  obtain ⟨container, hContainer, hTabs⟩ := bind_eq_ok.mp hTransition
  obtain ⟨i, _, hShowing⟩ := hNavigable.container
  change app.tabs.container.selectButtonAtIndex _ = _ at hContainer
  rw [hShowing] at hContainer
  have hCount : lockJawControllers.length = lockJawTabs.length := rfl
  obtain ⟨sender, hIndex, _, rfl⟩ :=
    LKJTabViewController.selectButtonAtIndex_cases hCount hContainer
  have hZero : sender = 0 := by
    rw [kLKJControlLockIndex] at hIndex
    omega
  subst hZero
  cases hTabs
  exact ⟨world, transitions, hWorld, rfl⟩

/-- Every step that does not raise is of one of the cases. -/
theorem applicationStep_takes (h : app.Assembled) {event : ApplicationEvent}
    (hStep : applicationStep platform app event = .ok after) :
    app.Takes platform event after := by
  cases event with
  | buttonClicked sender =>
      unfold applicationStep at hStep
      dsimp only at hStep
      split at hStep
      · obtain ⟨tabs, hClick, hAfter⟩ := bind_eq_ok.mp hStep
        cases hAfter
        obtain ⟨i, _, hShowing⟩ := h.navigable.container
        obtain ⟨container, hContainer, hTabs⟩ := bind_eq_ok.mp hClick
        rw [hShowing] at hContainer
        have hCount : lockJawControllers.length = lockJawTabs.length := rfl
        obtain ⟨hSender, rfl⟩ := LKJTabViewController.buttonClicked_cases hCount hContainer
        cases hTabs
        exact .click sender hSender
      · cases hStep
        exact .idle _ rfl
  | didSelectRow path =>
      change app.didSelectRow path = _ at hStep
      unfold didSelectRow at hStep
      split at hStep
      · rename_i hGate
        obtain ⟨tabs, hSelect, hAfter⟩ := bind_eq_ok.mp hStep
        cases hAfter
        obtain ⟨world, transitions, hWorld, hTabs⟩ :=
          didSelectRow_tabs h.navigable hGate.1 hSelect
        rw [hTabs]
        exact .selection path world transitions hGate.1 hGate.2 hWorld
      · rename_i hGate
        cases hStep
        exact .idle _ (if_neg hGate)
  | changeLockStatus now =>
      change app.changeLockStatus now = _ at hStep
      unfold changeLockStatus at hStep
      split at hStep
      · rename_i hGate
        obtain ⟨screen, hScreen, hAfter⟩ := bind_eq_ok.mp hStep
        cases hAfter
        exact .tap now screen hGate.1 hGate.2 hScreen
      · rename_i hGate
        cases hStep
        exact .idle _ (if_neg hGate)
  | contentDidAppear =>
      cases hStep
      exact .appearance
  | drawConnectionRow path =>
      change app.drawConnectionRow path = _ at hStep
      unfold drawConnectionRow at hStep
      split at hStep
      · rename_i hCurrent
        obtain ⟨connection, hDraw, hAfter⟩ := bind_eq_ok.mp hStep
        cases hAfter
        cases connectionStep_takes hDraw with
        | drawing _ cell hRow hCell => exact .connectionDrawing path cell hCurrent hRow hCell
        | noRow => exact .idle _ rfl
        | outOfTurn => exact .idle _ rfl
        | turning _ _ hEvent => simp at hEvent
      · cases hStep
        exact .idle _ rfl
  | drawHistoryRow path now =>
      change app.drawHistoryRow platform path now = _ at hStep
      unfold drawHistoryRow at hStep
      split at hStep
      · rename_i hGate
        obtain ⟨cell, hCell, hAfter⟩ := bind_eq_ok.mp hStep
        cases hAfter
        exact .historyDrawing path now cell hGate.1 hGate.2 hCell
      · cases hStep
        exact .idle _ rfl
  | loadHistoryTable =>
      unfold applicationStep at hStep
      dsimp only at hStep
      split at hStep
      · rename_i hCurrent
        cases hStep
        exact .historyLoading hCurrent
      · cases hStep
        exact .idle _ rfl
  | didDiscoverPeripheral peripheral now =>
      obtain ⟨world, hWorld, rfl⟩ := controllerStep_eq_ok hStep
      exact .controller _ _ world rfl hWorld
  | centralManagerDidUpdateState state =>
      obtain ⟨world, hWorld, rfl⟩ := controllerStep_eq_ok hStep
      exact .controller _ _ world rfl hWorld
  | radio peripheral answer =>
      cases hStep
      exact .radio peripheral answer
  | peripheralDidUpdateName peripheral name =>
      obtain ⟨world, hWorld, rfl⟩ := controllerStep_eq_ok hStep
      exact .controller _ _ world rfl hWorld
  | expirationTimerFires clock =>
      unfold applicationStep at hStep
      dsimp only at hStep
      rw [h.timer] at hStep
      cases hStep
      exact .idle _ rfl
  | runNotificationBlock =>
      rw [applicationStep_runNotificationBlock] at hStep
      cases hStep
      exact .delivery
  | runMainBlock =>
      obtain ⟨connection, hBlock, hAfter⟩ := bind_eq_ok.mp hStep
      cases hAfter
      exact .mainBlock connection hBlock

end Steps

end Application

end LockJaw
