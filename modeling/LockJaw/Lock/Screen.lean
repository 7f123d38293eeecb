import LockJaw.Lock.Commands

/-! The lock screen, `LKJLockViewController` with its `LKJLockView`. A tap toggles
the view's own flag, issues a command and writes a record; the radio's answers
reach the controller and never the view. -/
namespace LockJaw

open Cocoa Semantics

structure LKJLockView where
  isLocked : Bool
deriving DecidableEq

namespace LKJLockView

/-- `commonInit`. -/
def init : LKJLockView := { isLocked := true }

def changeLockStatus (lockView : LKJLockView) : LKJLockView :=
  { lockView with isLocked := !lockView.isLocked }

end LKJLockView

structure UIAlertController where
  title : String
  message : String
deriving DecidableEq

structure LockScreen where
  world : World
  lockView : LKJLockView
  presentedAlerts : List UIAlertController

/-- The write transaction that adds a history object. -/
def World.addHistory (world : World) (object : LKJHistory) : World :=
  { world with realm.history := world.realm.history ++ [object] }

namespace LockScreen

def unableToReachLock : UIAlertController where
  title := "Unable to reach lock."
  message := "Please try again in a few seconds."

/-- `changeLockStatus:`. The state is read again after the record was begun, and once
more inside `lockDevice` and `unlockDevice`. -/
def changeLockStatus (screen : LockScreen) (now : NSDate) : Except NSException LockScreen := do
  let eligible ← screen.world.isElgibleForLock
  if eligible then
    let screen := { screen with lockView := screen.lockView.changeLockStatus }
    let lockName ← screen.world.currentName
    let locked ← screen.world.isLocked
    if locked then
      let world ← screen.world.unlockDevice
      let historyObject : LKJHistory :=
        { activatedDate := some now, isLockAction := false, lockName := lockName }
      return { screen with world := world.addHistory historyObject }
    else
      let world ← screen.world.lockDevice
      let historyObject : LKJHistory :=
        { activatedDate := some now, isLockAction := true, lockName := lockName }
      return { screen with world := world.addHistory historyObject }
  else
    return { screen with presentedAlerts := screen.presentedAlerts ++ [unableToReachLock] }

end LockScreen

inductive LockScreenEvent where
  | changeLockStatus (now : NSDate)
  | controller (event : ControllerEvent)
  | radio (peripheral : CBPeripheral) (answer : RadioAnswer)

def lockScreenStep (screen : LockScreen) : LockScreenEvent → Except NSException LockScreen
  | .changeLockStatus now => screen.changeLockStatus now
  | .controller event => do
      let world ← screen.world.step event
      return { screen with world := world }
  | .radio peripheral answer => .ok { screen with world := screen.world.radio peripheral answer }

namespace LockScreen

section Taps
variable {screen : LockScreen} {peripheral : CBPeripheral}

theorem changeLockStatus_of_ineligible (now : NSDate)
    (h : screen.world.isElgibleForLock = .ok false) :
    screen.changeLockStatus now =
      .ok { screen with presentedAlerts := screen.presentedAlerts ++ [unableToReachLock] } := by
  simp [changeLockStatus, h]

/-- A tap on a connected device locks it. -/
theorem changeLockStatus_of_connected (now : NSDate)
    (h : screen.world.Designates peripheral) (hState : screen.world.state peripheral = .connected) :
    screen.changeLockStatus now = .ok { screen with
      lockView := screen.lockView.changeLockStatus
      world := (screen.world.cancelPeripheralConnection peripheral).addHistory
        { activatedDate := some now
          isLockAction := true
          lockName := (screen.world.peripherals peripheral).name } } := by
  simp [changeLockStatus, World.isElgibleForLock_of_designates h,
    World.currentName_of_designates h, World.isLocked_of_designates h,
    World.lockDevice_of_designates h, hState]

/-- A tap on a disconnected device unlocks it. -/
theorem changeLockStatus_of_disconnected (now : NSDate)
    (h : screen.world.Designates peripheral)
    (hState : screen.world.state peripheral = .disconnected) :
    screen.changeLockStatus now = .ok { screen with
      lockView := screen.lockView.changeLockStatus
      world := (screen.world.connectPeripheral peripheral).addHistory
        { activatedDate := some now
          isLockAction := false
          lockName := (screen.world.peripherals peripheral).name } } := by
  simp [changeLockStatus, World.isElgibleForLock_of_designates h,
    World.currentName_of_designates h, World.isLocked_of_designates h,
    World.unlockDevice_of_designates h, hState]

/-- A tap on a device between two states, or without a selection, is refused. -/
theorem ineligible_of_unsettled (h : screen.world.Designates peripheral)
    (hConnected : screen.world.state peripheral ≠ .connected)
    (hDisconnected : screen.world.state peripheral ≠ .disconnected) :
    screen.world.isElgibleForLock = .ok false := by
  rw [World.isElgibleForLock_of_designates h]
  simp [hConnected, hDisconnected]

theorem ineligible_of_no_selection
    (h : screen.world.controller.selectedBluetoothDeviceIndex = .position (-1)) :
    screen.world.isElgibleForLock = .ok false := by
  simp [World.isElgibleForLock, h, NSIndex.isNegative]

/-- Every tap on a well-formed controller is one of three. -/
theorem tap_cases {roster : Roster CBPeripheral} (hRefines : Refines screen.world roster) :
    screen.world.isElgibleForLock = .ok false ∨
    (∃ peripheral, screen.world.Designates peripheral ∧
      screen.world.state peripheral = .connected) ∨
    ∃ peripheral, screen.world.Designates peripheral ∧
      screen.world.state peripheral = .disconnected := by
  have hSelection := hRefines.selection
  cases hSelected : roster.selected with
  | none =>
      rw [hSelected] at hSelection
      exact .inl (ineligible_of_no_selection hSelection)
  | some peripheral =>
      rw [hSelected] at hSelection
      by_cases hConnected : screen.world.state peripheral = .connected
      · exact .inr (.inl ⟨peripheral, hSelection, hConnected⟩)
      by_cases hDisconnected : screen.world.state peripheral = .disconnected
      · exact .inr (.inr ⟨peripheral, hSelection, hDisconnected⟩)
      · exact .inl (ineligible_of_unsettled hSelection hConnected hDisconnected)

end Taps

end LockScreen

/-- A lock screen that was just loaded, over a fresh controller. -/
def freshScreen : LockScreen where
  world := freshWorld
  lockView := .init
  presentedAlerts := []

theorem freshWorld_reachable : freshWorld.Reachable := ⟨freshWorld, [], rfl, .nil⟩

/-- Nothing is selected before the first pick. -/
theorem World.not_designates_of_empty {world : World} {peripheral : CBPeripheral}
    (h : world.controller.connectedPeripherals = []) : ¬ world.Designates peripheral := by
  rintro ⟨n, _, hGet⟩
  rw [h] at hGet
  cases hGet

end LockJaw
