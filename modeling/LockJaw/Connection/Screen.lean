import LockJaw.Bluetooth.Selection
import LockJaw.Cocoa.TableView

/-! The connection screen, `LKJConnectionViewController`, between three queues: the
controller's callbacks, `notificationQueue`, on which notifications are posted and
handled, and the main queue, on which the handlers update the table. Its two row
counts include one header row for each section that is not empty. -/
namespace LockJaw

open Cocoa Semantics

/-- What a row shows: a section header, or the peripheral it was configured with. -/
inductive ConnectionCell where
  | header (text : String)
  | device (peripheral : Option CBPeripheral)
deriving DecidableEq

/-- A block on the main queue. -/
inductive MainBlock where
  | newBluetoothDevice (object : Int)
  | deleteRow (path : NSIndexPath)
deriving DecidableEq

/-- Where the screen is between `viewWillAppear:`, `viewDidAppear:` and
`viewWillDisappear:`. It observes notifications unless it is hidden. -/
inductive Appearance where
  | hidden
  | appearing
  | appeared
deriving DecidableEq, Repr

inductive ViewControllerClass where
  | lockViewController
  | connectionViewController
  | historyTableViewController
deriving DecidableEq, Repr

structure ConnectionScreen where
  world : World
  numberOfRowsInSectionZero : Int
  numberofRowsInSectionOne : Int
  tableView : UITableView ConnectionCell
  noDevicesLabelHidden : Bool
  appearance : Appearance
  mainQueue : List MainBlock
  hasDelegate : Bool
  transitions : List ViewControllerClass

/-- `numberOfSectionsInTableView:` is 2. -/
def tableSections : List Int := [0, 1]

namespace ConnectionScreen

/-- `viewDidLoad`, and the delegate that the tab controller sets. -/
def viewDidLoad (world : World) (hasDelegate : Bool) : ConnectionScreen where
  world := world.beginScanning
  numberOfRowsInSectionZero := 0
  numberofRowsInSectionOne := 0
  tableView := .init
  noDevicesLabelHidden := true
  appearance := .hidden
  mainQueue := []
  hasDelegate := hasDelegate
  transitions := []

/-- `tableView:numberOfRowsInSection:`. -/
def numberOfRows (screen : ConnectionScreen) (inSection : Int) : Int :=
  if inSection = 0 then screen.numberOfRowsInSectionZero
  else if inSection = 1 then screen.numberofRowsInSectionOne
  else 0

/-- The table has read the counts, and is what it became. Reading them is a call of
`tableView:numberOfRowsInSection:` for each section, which also sets the label. -/
def setTableView (screen : ConnectionScreen) (tableView : UITableView ConnectionCell) :
    ConnectionScreen :=
  { screen with
    tableView := tableView
    noDevicesLabelHidden :=
      !decide (screen.numberofRowsInSectionOne = 0 ∧ screen.numberOfRowsInSectionZero = 0) }

def setNumberOfRows (screen : ConnectionScreen) (inSection count : Int) : ConnectionScreen :=
  if inSection = 0 then { screen with numberOfRowsInSectionZero := count }
  else { screen with numberofRowsInSectionOne := count }

section Components
variable (screen : ConnectionScreen) (inSection count : Int)

@[simp] theorem setNumberOfRows_world :
    (screen.setNumberOfRows inSection count).world = screen.world := by
  unfold setNumberOfRows
  split <;> rfl

@[simp] theorem setNumberOfRows_tableView :
    (screen.setNumberOfRows inSection count).tableView = screen.tableView := by
  unfold setNumberOfRows
  split <;> rfl

@[simp] theorem setNumberOfRows_appearance :
    (screen.setNumberOfRows inSection count).appearance = screen.appearance := by
  unfold setNumberOfRows
  split <;> rfl

@[simp] theorem setNumberOfRows_mainQueue :
    (screen.setNumberOfRows inSection count).mainQueue = screen.mainQueue := by
  unfold setNumberOfRows
  split <;> rfl

@[simp] theorem setTableView_world (tableView : UITableView ConnectionCell) :
    (screen.setTableView tableView).world = screen.world := rfl

@[simp] theorem setTableView_appearance (tableView : UITableView ConnectionCell) :
    (screen.setTableView tableView).appearance = screen.appearance := rfl

@[simp] theorem setTableView_mainQueue (tableView : UITableView ConnectionCell) :
    (screen.setTableView tableView).mainQueue = screen.mainQueue := rfl

@[simp] theorem setTableView_numberOfRows (tableView : UITableView ConnectionCell) :
    (screen.setTableView tableView).numberOfRows = screen.numberOfRows := rfl

end Components

def reloadData (screen : ConnectionScreen) : ConnectionScreen :=
  screen.setTableView (screen.tableView.reloadData screen.numberOfRows)

def insertRow (screen : ConnectionScreen) (path : NSIndexPath) :
    Except NSException ConnectionScreen := do
  let tableView ← screen.tableView.insertRow tableSections screen.numberOfRows path
  return screen.setTableView tableView

def deleteRow (screen : ConnectionScreen) (path : NSIndexPath) :
    Except NSException ConnectionScreen := do
  let tableView ← screen.tableView.deleteRow tableSections screen.numberOfRows path
  return screen.setTableView tableView

/-- The full recount of one section in `viewDidAppear:`. -/
def recount (world : World) (inSection : Int) : Int :=
  let count := world.numberOfDevicesInSection inSection
  if count > 0 then count + 1 else count

def viewWillAppear (screen : ConnectionScreen) : ConnectionScreen :=
  { screen with appearance := .appearing }

def viewDidAppear (screen : ConnectionScreen) : ConnectionScreen :=
  let screen := { screen with
    appearance := .appeared
    numberOfRowsInSectionZero := recount screen.world 0
    numberofRowsInSectionOne := recount screen.world 1 }
  screen.reloadData

def viewWillDisappear (screen : ConnectionScreen) : ConnectionScreen :=
  { screen with appearance := .hidden }

/-- `tableView:cellForRowAtIndexPath:`. -/
def cellForRow (screen : ConnectionScreen) (path : NSIndexPath) :
    Except NSException ConnectionCell := do
  if path.row = 0 then
    if path.inSection = 0 then return .header "My Devices"
    else return .header "Connect Device"
  else
    let peripheral ←
      screen.world.peripheralAtIndex (.position (path.row - 1)) path.inSection
    return .device peripheral

/-- `tableView:didSelectRowAtIndexPath:`. -/
def didSelectRow (screen : ConnectionScreen) (path : NSIndexPath) :
    Except NSException ConnectionScreen := do
  let world ← screen.world.selectPeripheralAtIndex (.position (path.row - 1)) path.inSection
  let screen := { screen with world := world }
  if screen.hasDelegate then
    return { screen with transitions := screen.transitions ++ [.lockViewController] }
  else return screen

/-- The block that `newBluetoothDevice:` puts on the main queue. The source writes
its two sections out; for another section the path stays `nil` and the array literal
with it raises. -/
def newBluetoothDevice (screen : ConnectionScreen) (inSection : Int) :
    Except NSException ConnectionScreen := do
  if inSection = 0 ∨ inSection = 1 then
    if screen.numberOfRows inSection = 0 then
      let path : NSIndexPath := ⟨screen.numberOfRows inSection + 1, inSection⟩
      let headerPath : NSIndexPath := ⟨0, inSection⟩
      let screen := screen.setNumberOfRows inSection (screen.numberOfRows inSection + 1)
      let screen ← screen.insertRow headerPath
      let screen := screen.setNumberOfRows inSection (screen.numberOfRows inSection + 1)
      screen.insertRow path
    else
      let path : NSIndexPath := ⟨screen.numberOfRows inSection, inSection⟩
      let screen := screen.setNumberOfRows inSection (screen.numberOfRows inSection + 1)
      screen.insertRow path
  else .error .invalidArgumentException

/-- `[object[key] intValue]`. An absent key gives `nil`, whose `intValue` is 0; the low
bits of `NSNotFound` are all set. -/
def intValue (object : List (String × NSIndex)) (key : String) : Int :=
  match object.lookup key with
  | some (.position value) => value
  | some .notFound => -1
  | none => 0

/-- `lostBluetoothDevice:`. The counts change here, off the main queue. -/
def lostBluetoothDevice (screen : ConnectionScreen) (object : List (String × NSIndex)) :
    ConnectionScreen :=
  let inSection := intValue object "section"
  let row := intValue object "row"
  let path : NSIndexPath := ⟨row, inSection⟩
  let screen :=
    if inSection = 0 then
      { screen with numberOfRowsInSectionZero := screen.numberOfRowsInSectionZero - 1 }
    else { screen with numberofRowsInSectionOne := screen.numberofRowsInSectionOne + 1 }
  { screen with mainQueue := screen.mainQueue ++ [.deleteRow path] }

/-- A notification reaches the screen only while it observes. -/
def observe (screen : ConnectionScreen) : NSNotification → ConnectionScreen
  | .newBluetoothDeviceDiscovered object =>
      if screen.appearance = .hidden then screen
      else { screen with mainQueue := screen.mainQueue ++ [.newBluetoothDevice object] }
  | .bluetoothDeviceLost object =>
      if screen.appearance = .hidden then screen else screen.lostBluetoothDevice object
  | _ => screen

/-- Run the first block of `notificationQueue`, with the handlers of what it posts. -/
def runNotificationBlock (screen : ConnectionScreen) : ConnectionScreen :=
  let delivered := screen.world.runNotificationBlock
  let screen := { screen with world := delivered.2 }
  match delivered.1 with
  | some posted => screen.observe posted
  | none => screen

/-- Run the first block of the main queue, if there is one. -/
def runMainBlock (screen : ConnectionScreen) : Except NSException ConnectionScreen :=
  match screen.mainQueue with
  | [] => .ok screen
  | .newBluetoothDevice object :: rest =>
      { screen with mainQueue := rest }.newBluetoothDevice object
  | .deleteRow path :: rest => { screen with mainQueue := rest }.deleteRow path

end ConnectionScreen

/-- Everything that can happen to the screen. The table asks for the cell of a row it
has at any time. -/
inductive ConnectionEvent where
  | controller (event : ControllerEvent)
  | runMainBlock
  | didSelectRow (path : NSIndexPath)
  | drawRow (path : NSIndexPath)
  | viewWillAppear
  | viewDidAppear
  | viewWillDisappear

/-- One event. A call that does not come in the present appearance, and the drawing of
a row that the table does not have, change nothing. -/
def connectionStep (screen : ConnectionScreen) :
    ConnectionEvent → Except NSException ConnectionScreen
  | .controller .runNotificationBlock => .ok screen.runNotificationBlock
  | .controller event => do
      let world ← screen.world.step event
      return { screen with world := world }
  | .runMainBlock => screen.runMainBlock
  | .didSelectRow path => screen.didSelectRow path
  | .drawRow path =>
      if screen.tableView.hasRow path then do
        let cell ← screen.cellForRow path
        return { screen with tableView := screen.tableView.drawCell path cell }
      else .ok screen
  | .viewWillAppear =>
      if screen.appearance = .hidden then .ok screen.viewWillAppear else .ok screen
  | .viewDidAppear =>
      if screen.appearance = .appearing then .ok screen.viewDidAppear else .ok screen
  | .viewWillDisappear =>
      if screen.appearance = .hidden then .ok screen else .ok screen.viewWillDisappear

/-- What a step can do, by cases. -/
inductive ConnectionScreen.Takes (screen : ConnectionScreen) :
    ConnectionEvent → ConnectionScreen → Prop where
  | delivery : Takes screen (.controller .runNotificationBlock) screen.runNotificationBlock
  | controller (event : ControllerEvent) (world : World)
      (hDelivery : event ≠ .runNotificationBlock) (hWorld : screen.world.step event = .ok world) :
      Takes screen (.controller event) { screen with world := world }
  | mainBlock (after : ConnectionScreen) (hBlock : screen.runMainBlock = .ok after) :
      Takes screen .runMainBlock after
  | selection (path : NSIndexPath) (world : World) (transitions : List ViewControllerClass)
      (hWorld : screen.world.selectPeripheralAtIndex (.position (path.row - 1)) path.inSection =
        .ok world) :
      Takes screen (.didSelectRow path) { screen with world := world, transitions := transitions }
  | drawing (path : NSIndexPath) (cell : ConnectionCell)
      (hRow : screen.tableView.hasRow path = true) (hCell : screen.cellForRow path = .ok cell) :
      Takes screen (.drawRow path)
        { screen with tableView := screen.tableView.drawCell path cell }
  | noRow (path : NSIndexPath) (hRow : screen.tableView.hasRow path = false) :
      Takes screen (.drawRow path) screen
  | appearance (hAppearing : screen.appearance = .appearing) :
      Takes screen .viewDidAppear screen.viewDidAppear
  | turning (event : ConnectionEvent) (after : Appearance)
      (hEvent : event = .viewWillAppear ∨ event = .viewWillDisappear)
      (hAfter : after ≠ .appeared) : Takes screen event { screen with appearance := after }
  | outOfTurn (event : ConnectionEvent)
      (hEvent : event = .viewWillAppear ∨ event = .viewDidAppear ∨ event = .viewWillDisappear)
      (hAppearance : event = .viewDidAppear → screen.appearance ≠ .appearing) :
      Takes screen event screen

/-- A touched row is a selection one row above it, and a transition. -/
theorem ConnectionScreen.didSelectRow_eq_ok {screen after : ConnectionScreen}
    {path : NSIndexPath} (h : screen.didSelectRow path = .ok after) :
    ∃ world transitions,
      screen.world.selectPeripheralAtIndex (.position (path.row - 1)) path.inSection =
        .ok world ∧
      after = { screen with world := world, transitions := transitions } := by
  obtain ⟨world, hWorld, hAfter⟩ := bind_eq_ok.mp h
  dsimp only at hAfter
  split at hAfter
  · cases hAfter
    exact ⟨world, _, hWorld, rfl⟩
  · cases hAfter
    exact ⟨world, screen.transitions, hWorld, rfl⟩

/-- A step that does not raise is of one of the cases. -/
theorem connectionStep_takes {screen after : ConnectionScreen} {event : ConnectionEvent}
    (h : connectionStep screen event = .ok after) : screen.Takes event after := by
  cases event with
  | controller event =>
      by_cases hDelivery : event = .runNotificationBlock
      · subst hDelivery
        cases h
        exact .delivery
      · have hWorld : ∃ world, screen.world.step event = .ok world ∧
            after = { screen with world := world } := by
          cases event <;> first
            | exact absurd rfl hDelivery
            | obtain ⟨world, hWorld, hAfter⟩ := bind_eq_ok.mp h
              cases hAfter
              exact ⟨world, hWorld, rfl⟩
        obtain ⟨world, hWorld, rfl⟩ := hWorld
        exact .controller event world hDelivery hWorld
  | runMainBlock => exact .mainBlock after h
  | didSelectRow path =>
      obtain ⟨world, transitions, hWorld, rfl⟩ := ConnectionScreen.didSelectRow_eq_ok h
      exact .selection path world transitions hWorld
  | drawRow path =>
      simp only [connectionStep] at h
      split at h
      · rename_i hRow
        obtain ⟨cell, hCell, hAfter⟩ := bind_eq_ok.mp h
        cases hAfter
        exact .drawing path cell hRow hCell
      · rename_i hRow
        cases h
        exact .noRow path (by simpa using hRow)
  | viewWillAppear =>
      simp only [connectionStep] at h
      split at h
      · cases h
        exact .turning _ _ (.inl rfl) (by decide)
      · cases h
        exact .outOfTurn _ (.inl rfl) (by simp)
  | viewDidAppear =>
      simp only [connectionStep] at h
      split at h
      · rename_i hAppearing
        cases h
        exact .appearance hAppearing
      · rename_i hAppearing
        cases h
        exact .outOfTurn _ (.inr (.inl rfl)) fun _ => hAppearing
  | viewWillDisappear =>
      simp only [connectionStep] at h
      split at h
      · cases h
        exact .outOfTurn _ (.inr (.inr rfl)) (by simp)
      · cases h
        exact .turning _ _ (.inr rfl) (by decide)

end LockJaw
