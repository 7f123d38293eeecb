import LockJaw.Cocoa.Array
import LockJaw.Cocoa.Bluetooth
import Mathlib.Logic.Function.Basic

/-! Everything the application's methods read and write: the properties of
`LKJBluetoothController`, the peripheral objects, the Realm store and the central
manager. Updates that several methods share are definitions of their own, each
with the components it leaves alone. -/
namespace LockJaw

open Cocoa

/-- A persisted device. Both properties are optional strings, `nil` at first. -/
structure LKJPeripheral where
  uuid : Option String
  name : Option String
deriving DecidableEq

/-- One entry of the lock history. -/
structure LKJHistory where
  activatedDate : Option NSDate
  isLockAction : Bool
  lockName : Option String
deriving DecidableEq

/-- The default Realm: its objects of each class, in the order they were added. -/
structure RLMRealm where
  peripherals : List LKJPeripheral
  history : List LKJHistory
deriving DecidableEq

/-- `objectsWhere:` with the predicate `uuid = '…'`. -/
def RLMRealm.objectsWhereUUID (realm : RLMRealm) (uuid : String) : List LKJPeripheral :=
  realm.peripherals.filter fun object => object.uuid = some uuid

/-- The notifications the controller posts, each with its object. -/
inductive NSNotification where
  | newBluetoothDeviceDiscovered (object : Int)
  | bluetoothDeviceLost (object : List (String × NSIndex))
  | shouldRefreshConnectedBluetoothDevices (object : Bool)
  | locked
  | unlocked
deriving DecidableEq

/-- A block on `notificationQueue`. All but one post what they captured when they
were queued; the last block of an expiration pass reads the selection when it runs. -/
inductive NotificationBlock where
  | post (notificationPosted : NSNotification)
  | refreshConnected
deriving DecidableEq

/-- The properties of the controller. -/
structure LKJBluetoothController where
  connectedPeripherals : List CBPeripheral
  discoveredDevicesArray : List CBPeripheral
  knownDevicesArray : List CBPeripheral
  discoveredDevicesDictionary : NSUUID → Option CBPeripheral
  isOnline : Bool
  notificationQueue : List NotificationBlock
  selectedBluetoothDeviceIndex : NSIndex

/-- `init`. -/
def LKJBluetoothController.init : LKJBluetoothController where
  connectedPeripherals := []
  discoveredDevicesArray := []
  knownDevicesArray := []
  discoveredDevicesDictionary := fun _ => none
  isOnline := false
  notificationQueue := []
  selectedBluetoothDeviceIndex := .position (-1)

structure World where
  controller : LKJBluetoothController
  peripherals : CBPeripheral → PeripheralObject
  realm : RLMRealm
  central : CBCentralManager

namespace World

def state (world : World) (peripheral : CBPeripheral) : CBPeripheralState :=
  (world.peripherals peripheral).link.state

def setPeripheral (world : World) (peripheral : CBPeripheral) (object : PeripheralObject) :
    World :=
  { world with peripherals := Function.update world.peripherals peripheral object }

def setDiscoveryDate (world : World) (peripheral : CBPeripheral) (date : NSDate) : World :=
  world.setPeripheral peripheral
    { world.peripherals peripheral with discoveryDate := some date }

def setLink (world : World) (peripheral : CBPeripheral) (link : Link) : World :=
  world.setPeripheral peripheral { world.peripherals peripheral with link := link }

/-- `dispatch_async` on the serial `notificationQueue`. -/
def dispatchAsync (world : World) (block : NotificationBlock) : World :=
  { world with controller.notificationQueue := world.controller.notificationQueue ++ [block] }

def setDictionaryEntry (world : World) (peripheral : CBPeripheral) : World :=
  { world with
    controller.discoveredDevicesDictionary := Function.update
      world.controller.discoveredDevicesDictionary peripheral.identifier (some peripheral) }

def send (world : World) (command : Command) : World :=
  { world with central.commands := world.central.commands ++ [command] }

section Components
variable (world : World) (peripheral : CBPeripheral)

@[simp] theorem setDiscoveryDate_controller (date : NSDate) :
    (world.setDiscoveryDate peripheral date).controller = world.controller := rfl

@[simp] theorem setDiscoveryDate_realm (date : NSDate) :
    (world.setDiscoveryDate peripheral date).realm = world.realm := rfl

@[simp] theorem setDiscoveryDate_discoveryDate (date : NSDate) :
    ((world.setDiscoveryDate peripheral date).peripherals peripheral).discoveryDate =
      some date := by
  simp [setDiscoveryDate, setPeripheral]

@[simp] theorem setLink_link (link : Link) :
    ((world.setLink peripheral link).peripherals peripheral).link = link := by
  simp [setLink, setPeripheral]

/-- A link is changed for its own device alone. -/
theorem setLink_link_of_ne {other : CBPeripheral} (link : Link) (h : other ≠ peripheral) :
    ((world.setLink peripheral link).peripherals other).link =
      (world.peripherals other).link := by
  simp [setLink, setPeripheral, Function.update_of_ne h]

@[simp] theorem setDiscoveryDate_link (date : NSDate) (other : CBPeripheral) :
    ((world.setDiscoveryDate peripheral date).peripherals other).link =
      (world.peripherals other).link := by
  by_cases h : other = peripheral
  · subst other
    simp [setDiscoveryDate, setPeripheral]
  · simp [setDiscoveryDate, setPeripheral, Function.update_of_ne h]

end Components

end World
end LockJaw
