import LockJaw.Bluetooth.World

/-! The methods of `LKJBluetoothController`, statement by statement. A method
that can raise returns in `Except NSException`. -/
namespace LockJaw

open Cocoa

/-- `kLKJExpirationTimeInterval`, in seconds. -/
def kLKJExpirationTimeInterval : ℚ := 30

/-- What the runtime supplies to one expiration pass: the current date, and the
address at which the pass's `n`th shifted date is allocated. -/
structure PassClock where
  currentDate : NSDate
  shiftedAddress : Nat → Nat

namespace World

/-- The branch of a discovery that found a persisted record. -/
def listKnown (world : World) (peripheral : CBPeripheral) : World :=
  let world := { world with
    controller.connectedPeripherals := world.controller.connectedPeripherals ++ [peripheral]
    controller.knownDevicesArray := world.controller.knownDevicesArray ++ [peripheral] }
  world.dispatchAsync (.post (.newBluetoothDeviceDiscovered 0))

/-- The branch of a discovery that found no record. -/
def listDiscovered (world : World) (peripheral : CBPeripheral) : World :=
  let world := { world with
    controller.discoveredDevicesArray := world.controller.discoveredDevicesArray ++ [peripheral] }
  world.dispatchAsync (.post (.newBluetoothDeviceDiscovered 1))

/-- `centralManager:didDiscoverPeripheral:advertisementData:RSSI:`. -/
def didDiscoverPeripheral (world : World) (peripheral : CBPeripheral) (now : NSDate) : World :=
  if (world.peripherals peripheral).name = none then world
  else
    let world := world.setDiscoveryDate peripheral now
    let world :=
      if world.controller.discoveredDevicesDictionary peripheral.identifier = none then
        match (world.realm.objectsWhereUUID peripheral.identifier.UUIDString).head? with
        | some _ => world.listKnown peripheral
        | none => world.listDiscovered peripheral
      else world
    world.setDictionaryEntry peripheral

/-- `centralManager:didConnectPeripheral:`. -/
def didConnectPeripheral (world : World) : World := world.dispatchAsync (.post .unlocked)

/-- `centralManager:didDisconnectPeripheral:error:`. -/
def didDisconnectPeripheral (world : World) : World := world.dispatchAsync (.post .locked)

def beginScanning (world : World) : World :=
  if world.controller.isOnline then world.send .scanForPeripherals else world

/-- `centralManagerDidUpdateState:`. Only the report of `poweredOn` is acted on. -/
def centralManagerDidUpdateState (world : World) : World :=
  match world.central.state with
  | .poweredOn => beginScanning { world with controller.isOnline := true }
  | _ => world

def peripheralAtIndex (world : World) (index : NSIndex) (inSection : Int) :
    Except NSException (Option CBPeripheral) :=
  if inSection = 0 then some <$> objectAtIndex world.controller.knownDevicesArray index
  else if inSection = 1 then some <$> objectAtIndex world.controller.discoveredDevicesArray index
  else .ok none

/-- The end of `selectPeripheralAtIndex:inSection:`, where the selection is set. -/
def selectConnected (world : World) (peripheral : CBPeripheral) : World :=
  if containsObject world.controller.connectedPeripherals peripheral then
    { world with
      controller.selectedBluetoothDeviceIndex :=
        indexOfObject world.controller.connectedPeripherals peripheral }
  else
    let connected := world.controller.connectedPeripherals ++ [peripheral]
    { world with
      controller.connectedPeripherals := connected
      controller.selectedBluetoothDeviceIndex := .position (connected.length - 1) }

/-- Move a device to the known ones and persist it. The record's name is assigned
from itself, so it keeps the `nil` of a fresh object. -/
def persistPeripheral (world : World) (peripheral : CBPeripheral) : World :=
  let peripheralPeristed : LKJPeripheral := { uuid := none, name := none }
  let peripheralPeristed :=
    { peripheralPeristed with uuid := some peripheral.identifier.UUIDString }
  let peripheralPeristed := { peripheralPeristed with name := peripheralPeristed.name }
  { world with
    controller.knownDevicesArray := world.controller.knownDevicesArray ++ [peripheral]
    realm.peripherals := world.realm.peripherals ++ [peripheralPeristed] }

def selectPeripheralAtIndex (world : World) (index : NSIndex) (inSection : Int) :
    Except NSException World := do
  if inSection = 0 then
    let peripheral ← objectAtIndex world.controller.knownDevicesArray index
    return world.selectConnected peripheral
  else if inSection = 1 then
    let peripheral ← objectAtIndex world.controller.discoveredDevicesArray index
    let discovered ← removeObjectAtIndex world.controller.discoveredDevicesArray index
    let world := { world with controller.discoveredDevicesArray := discovered }
    return (world.persistPeripheral peripheral).selectConnected peripheral
  else return world

/-- The peripheral at the selection; the index is not checked before the access. -/
def selectedPeripheral (world : World) : Except NSException CBPeripheral :=
  objectAtIndex world.controller.connectedPeripherals
    world.controller.selectedBluetoothDeviceIndex

def isLocked (world : World) : Except NSException Bool := do
  let peripheral ← world.selectedPeripheral
  if world.state peripheral = .connected then return false else return true

/-- `connectPeripheral:options:` on the central manager. -/
def connectPeripheral (world : World) (peripheral : CBPeripheral) : World :=
  (world.send (.connectPeripheral peripheral)).setLink peripheral
    (world.peripherals peripheral).link.connect

/-- `cancelPeripheralConnection:` on the central manager. -/
def cancelPeripheralConnection (world : World) (peripheral : CBPeripheral) : World :=
  (world.send (.cancelPeripheralConnection peripheral)).setLink peripheral
    (world.peripherals peripheral).link.cancel

def lockDevice (world : World) : Except NSException World := do
  let locked ← world.isLocked
  if !locked then
    let peripheral ← world.selectedPeripheral
    return world.cancelPeripheralConnection peripheral
  else return world

def unlockDevice (world : World) : Except NSException World := do
  let locked ← world.isLocked
  if locked then
    let peripheral ← world.selectedPeripheral
    return world.connectPeripheral peripheral
  else return world

def existsBluetoothDevice (world : World) : Bool :=
  decide (world.controller.connectedPeripherals.length > 0)

def isElgibleForLock (world : World) : Except NSException Bool := do
  if world.controller.selectedBluetoothDeviceIndex.isNegative then return false
  else
    let peripheral ← world.selectedPeripheral
    if world.state peripheral = .connected then return true
    else if world.state peripheral = .disconnected then return true
    else return false

def currentName (world : World) : Except NSException (Option String) := do
  let peripheral ← world.selectedPeripheral
  return (world.peripherals peripheral).name

def existsCurrentPeripheral (world : World) : Bool :=
  world.controller.selectedBluetoothDeviceIndex.isPositive

def isConnectedToPeripheral (world : World) (peripheral : CBPeripheral) : Bool :=
  containsObject world.controller.connectedPeripherals peripheral

def numberOfDevicesInSection (world : World) (inSection : Int) : Int :=
  if inSection = 0 then world.controller.knownDevicesArray.length
  else world.controller.discoveredDevicesArray.length

/-- Whether a pass takes a device for expired: it compares the pointers of the
shifted and of the current date. -/
def isExpired (objects : CBPeripheral → PeripheralObject) (clock : PassClock)
    (allocation : Nat) (peripheral : CBPeripheral) : Bool :=
  pointerLess
    (dateByAddingTimeInterval (objects peripheral).discoveryDate kLKJExpirationTimeInterval
      (clock.shiftedAddress allocation))
    (some clock.currentDate)

/-- The loop that fills `peripheralsToRemove`. Each comparison allocates one date. -/
def peripheralsToRemove (objects : CBPeripheral → PeripheralObject) (clock : PassClock) :
    Nat → List CBPeripheral → List CBPeripheral
  | _, [] => []
  | allocation, peripheral :: rest =>
      if isExpired objects clock allocation peripheral then
        peripheral :: peripheralsToRemove objects clock (allocation + 1) rest
      else peripheralsToRemove objects clock (allocation + 1) rest

/-- The notification of one lost device. -/
def deviceLost (index : NSIndex) (inSection : Int) : NSNotification :=
  .bluetoothDeviceLost [("index", index), ("section", .position inSection)]

/-- The loop that removes what was collected. Both loops of the pass search and
remove in `discoveredDevicesArray`; they differ in the section they post. -/
def removePeripherals (world : World) (inSection : Int) :
    List CBPeripheral → Except NSException World
  | [] => .ok world
  | peripheral :: rest => do
      let index := indexOfObject world.controller.discoveredDevicesArray peripheral
      let devices ← removeObjectAtIndex world.controller.discoveredDevicesArray index
      let world := { world with controller.discoveredDevicesArray := devices }
      (world.dispatchAsync (.post (deviceLost index inSection))).removePeripherals inSection rest

/-- `removeExpiredDevices:`. The array `keysToRemove` is created and never used,
so no entry of the dictionary is removed. -/
def removeExpiredDevices (world : World) (clock : PassClock) : Except NSException World := do
  let currentPeripheral ← world.selectedPeripheral
  let discovered := world.controller.discoveredDevicesArray
  let world ← world.removePeripherals 0
    (peripheralsToRemove world.peripherals clock 0 discovered)
  let world ← world.removePeripherals 1
    (peripheralsToRemove world.peripherals clock discovered.length
      world.controller.connectedPeripherals)
  let world := { world with
    controller.selectedBluetoothDeviceIndex :=
      indexOfObject world.controller.connectedPeripherals currentPeripheral }
  return world.dispatchAsync .refreshConnected

/-- Run the first block of `notificationQueue`; it posts a notification. The queue
may be empty, and then nothing runs. -/
def runNotificationBlock (world : World) : Option NSNotification × World :=
  match world.controller.notificationQueue with
  | [] => (none, world)
  | .post posted :: rest =>
      (some posted, { world with controller.notificationQueue := rest })
  | .refreshConnected :: rest =>
      let world := { world with controller.notificationQueue := rest }
      if world.controller.selectedBluetoothDeviceIndex = .notFound then
        (some (.shouldRefreshConnectedBluetoothDevices true),
          { world with controller.selectedBluetoothDeviceIndex := .position (-1) })
      else (some (.shouldRefreshConnectedBluetoothDevices false), world)

end World

/-- Everything that can happen to the controller: callbacks of the central
manager, calls of its methods, a block of its queue, and a peripheral object that
CoreBluetooth changes. -/
inductive ControllerEvent where
  | didDiscoverPeripheral (peripheral : CBPeripheral) (now : NSDate)
  | didConnectPeripheral
  | didDisconnectPeripheral
  | centralManagerDidUpdateState (state : CBCentralManagerState)
  | beginScanning
  | selectPeripheralAtIndex (index : NSIndex) (inSection : Int)
  | lockDevice
  | unlockDevice
  | removeExpiredDevices (clock : PassClock)
  | runNotificationBlock
  | peripheralChanges (peripheral : CBPeripheral) (name : Option String) (link : Link)

namespace World

/-- One event. A method that raises ends the run. -/
def step (world : World) : ControllerEvent → Except NSException World
  | .didDiscoverPeripheral peripheral now => .ok (world.didDiscoverPeripheral peripheral now)
  | .didConnectPeripheral => .ok world.didConnectPeripheral
  | .didDisconnectPeripheral => .ok world.didDisconnectPeripheral
  | .centralManagerDidUpdateState state =>
      .ok (centralManagerDidUpdateState { world with central.state := state })
  | .beginScanning => .ok world.beginScanning
  | .selectPeripheralAtIndex index inSection => world.selectPeripheralAtIndex index inSection
  | .lockDevice => world.lockDevice
  | .unlockDevice => world.unlockDevice
  | .removeExpiredDevices clock => world.removeExpiredDevices clock
  | .runNotificationBlock => .ok world.runNotificationBlock.2
  | .peripheralChanges peripheral name link =>
      .ok (world.setPeripheral peripheral
        { world.peripherals peripheral with name := name, link := link })

end World
end LockJaw
