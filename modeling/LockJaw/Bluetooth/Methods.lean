import LockJaw.Bluetooth.Controller

/-! What each method of the controller can do, stated once. Everything proved
about runs rests on these lemmas and not on the methods' bodies. -/
namespace LockJaw

open Cocoa

namespace World

/-- The store has a record with this peripheral's `UUIDString`. -/
def HasRecord (world : World) (peripheral : CBPeripheral) : Prop :=
  ∃ object ∈ world.realm.peripherals, object.uuid = some peripheral.identifier.UUIDString

theorem hasRecord_iff_head? (world : World) (peripheral : CBPeripheral) :
    world.HasRecord peripheral ↔
      (world.realm.objectsWhereUUID peripheral.identifier.UUIDString).head? ≠ none := by
  rw [Ne, List.head?_eq_none_iff, RLMRealm.objectsWhereUUID, List.filter_eq_nil_iff]
  simp [HasRecord]

/-- The peripheral's identifier is a key of the dictionary. -/
def Seen (world : World) (peripheral : CBPeripheral) : Prop :=
  world.controller.discoveredDevicesDictionary peripheral.identifier ≠ none

section Discovery
variable {world : World} {peripheral : CBPeripheral} {now : NSDate}

/-- A device without a name is not listed. -/
theorem didDiscoverPeripheral_of_unnamed (h : (world.peripherals peripheral).name = none) :
    world.didDiscoverPeripheral peripheral now = world := by
  simp [didDiscoverPeripheral, h]

/-- A device seen before gets a new time and a new entry. -/
theorem didDiscoverPeripheral_of_seen (hName : (world.peripherals peripheral).name ≠ none)
    (hSeen : world.Seen peripheral) :
    world.didDiscoverPeripheral peripheral now =
      (world.setDiscoveryDate peripheral now).setDictionaryEntry peripheral := by
  rw [Seen] at hSeen
  simp [didDiscoverPeripheral, hName, hSeen]

/-- A device with a record is listed with the known ones. -/
theorem didDiscoverPeripheral_of_record (hName : (world.peripherals peripheral).name ≠ none)
    (hSeen : ¬ world.Seen peripheral) (hRecord : world.HasRecord peripheral) :
    world.didDiscoverPeripheral peripheral now =
      ((world.setDiscoveryDate peripheral now).listKnown peripheral).setDictionaryEntry
        peripheral := by
  rw [Seen, not_not] at hSeen
  obtain ⟨object, hHead⟩ :=
    Option.ne_none_iff_exists'.mp ((hasRecord_iff_head? world peripheral).mp hRecord)
  simp [didDiscoverPeripheral, hName, hSeen, hHead]

/-- A device without a record is listed with the discovered ones. -/
theorem didDiscoverPeripheral_of_no_record
    (hName : (world.peripherals peripheral).name ≠ none) (hSeen : ¬ world.Seen peripheral)
    (hRecord : ¬ world.HasRecord peripheral) :
    world.didDiscoverPeripheral peripheral now =
      ((world.setDiscoveryDate peripheral now).listDiscovered peripheral).setDictionaryEntry
        peripheral := by
  rw [Seen, not_not] at hSeen
  have hHead := not_not.mp (mt (hasRecord_iff_head? world peripheral).mpr hRecord)
  simp [didDiscoverPeripheral, hName, hSeen, hHead]

/-- A named advertisement dates its device, may list it, and makes it a key of the
dictionary. -/
theorem didDiscoverPeripheral_of_named (hName : (world.peripherals peripheral).name ≠ none) :
    ∃ listed, (listed = world.setDiscoveryDate peripheral now ∨
        listed = (world.setDiscoveryDate peripheral now).listKnown peripheral ∨
        listed = (world.setDiscoveryDate peripheral now).listDiscovered peripheral) ∧
      world.didDiscoverPeripheral peripheral now = listed.setDictionaryEntry peripheral := by
  by_cases hSeen : world.Seen peripheral
  · exact ⟨_, .inl rfl, didDiscoverPeripheral_of_seen hName hSeen⟩
  by_cases hRecord : world.HasRecord peripheral
  · exact ⟨_, .inr (.inl rfl), didDiscoverPeripheral_of_record hName hSeen hRecord⟩
  · exact ⟨_, .inr (.inr rfl), didDiscoverPeripheral_of_no_record hName hSeen hRecord⟩

/-- A discovery leaves the store and every link alone. -/
theorem didDiscoverPeripheral_frame (world : World) (peripheral : CBPeripheral) (now : NSDate) :
    (world.didDiscoverPeripheral peripheral now).realm = world.realm ∧
      ∀ other, ((world.didDiscoverPeripheral peripheral now).peripherals other).link =
        (world.peripherals other).link := by
  by_cases hName : (world.peripherals peripheral).name = none
  · rw [didDiscoverPeripheral_of_unnamed hName]
    exact ⟨rfl, fun _ => rfl⟩
  · have hDated := setDiscoveryDate_link world peripheral now
    obtain ⟨listed, hListed, hAfter⟩ := @didDiscoverPeripheral_of_named _ _ now hName
    rw [hAfter]
    rcases hListed with rfl | rfl | rfl
    · exact ⟨rfl, hDated⟩
    · exact ⟨rfl, hDated⟩
    · exact ⟨rfl, hDated⟩

/-- A discovery changes no name. -/
theorem didDiscoverPeripheral_name (world : World) (peripheral : CBPeripheral) (now : NSDate)
    (other : CBPeripheral) :
    ((world.didDiscoverPeripheral peripheral now).peripherals other).name =
      (world.peripherals other).name := by
  by_cases hName : (world.peripherals peripheral).name = none
  · rw [didDiscoverPeripheral_of_unnamed hName]
  · have hDated : ((world.setDiscoveryDate peripheral now).peripherals other).name =
        (world.peripherals other).name := by
      by_cases hSame : other = peripheral
      · subst hSame
        simp [setDiscoveryDate, setPeripheral]
      · simp [setDiscoveryDate, setPeripheral, Function.update_of_ne hSame]
    obtain ⟨listed, hListed, hAfter⟩ := @didDiscoverPeripheral_of_named _ _ now hName
    rw [hAfter]
    rcases hListed with rfl | rfl | rfl
    · exact hDated
    · exact hDated
    · exact hDated

end Discovery

section Selection
variable {world after : World} {index : NSIndex} {inSection : Int}

/-- The world in which a section-1 selection sets the selection: the device has
moved from the discovered to the known ones and is persisted. -/
def moveToKnown (world : World) (n : Nat) (peripheral : CBPeripheral) : World :=
  persistPeripheral { world with
    controller.discoveredDevicesArray := world.controller.discoveredDevicesArray.eraseIdx n }
    peripheral

/-- A selection that does not raise takes the device at its index in section 0 or 1, and does
nothing in another section. -/
theorem selectPeripheralAtIndex_cases
    (h : world.selectPeripheralAtIndex index inSection = .ok after) :
    (inSection = 0 ∧ ∃ (n : Nat) (peripheral : CBPeripheral), index = .position n ∧
      world.controller.knownDevicesArray[n]? = some peripheral ∧
      after = world.selectConnected peripheral) ∨
    (inSection = 1 ∧ ∃ (n : Nat) (peripheral : CBPeripheral), index = .position n ∧
      world.controller.discoveredDevicesArray[n]? = some peripheral ∧
      after = (world.moveToKnown n peripheral).selectConnected peripheral) ∨
    (inSection ≠ 0 ∧ inSection ≠ 1 ∧ after = world) := by
  unfold selectPeripheralAtIndex at h
  split at h
  · rename_i hSection
    obtain ⟨peripheral, hRead, hAfter⟩ := bind_eq_ok.mp h
    obtain ⟨n, hIndex, hGet⟩ := objectAtIndex_eq_ok.mp hRead
    exact .inl ⟨hSection, n, peripheral, hIndex, hGet, by cases hAfter; rfl⟩
  · split at h
    · rename_i hSection
      obtain ⟨peripheral, hRead, h⟩ := bind_eq_ok.mp h
      obtain ⟨rest, hRemove, hAfter⟩ := bind_eq_ok.mp h
      obtain ⟨n, hIndex, hGet⟩ := objectAtIndex_eq_ok.mp hRead
      obtain ⟨m, hSame, _, rfl⟩ := removeObjectAtIndex_eq_ok.mp hRemove
      obtain rfl : m = n := by simpa [hIndex, eq_comm] using hSame
      exact .inr (.inl ⟨hSection, m, peripheral, hIndex, hGet, by cases hAfter; rfl⟩)
    · rename_i hZero hOne
      exact .inr (.inr ⟨hZero, hOne, by cases h; rfl⟩)

theorem selectPeripheralAtIndex_known {n : Nat} {peripheral : CBPeripheral}
    (h : world.controller.knownDevicesArray[n]? = some peripheral) :
    world.selectPeripheralAtIndex (.position n) 0 = .ok (world.selectConnected peripheral) := by
  simp only [selectPeripheralAtIndex, ↓reduceIte, objectAtIndex_natCast _ n h]
  rfl

theorem selectPeripheralAtIndex_discovered {n : Nat} {peripheral : CBPeripheral}
    (h : world.controller.discoveredDevicesArray[n]? = some peripheral) :
    world.selectPeripheralAtIndex (.position n) 1 =
      .ok ((world.moveToKnown n peripheral).selectConnected peripheral) := by
  have hBound := (List.getElem?_eq_some_iff.mp h).1
  have hRemove : removeObjectAtIndex world.controller.discoveredDevicesArray (.position n) =
      .ok (world.controller.discoveredDevicesArray.eraseIdx n) :=
    removeObjectAtIndex_eq_ok.mpr ⟨n, rfl, hBound, rfl⟩
  simp only [selectPeripheralAtIndex, one_ne_zero, ↓reduceIte, objectAtIndex_natCast _ n h, hRemove]
  rfl

/-- A device chosen before is selected at its place. -/
theorem selectConnected_of_mem {peripheral : CBPeripheral}
    (h : peripheral ∈ world.controller.connectedPeripherals) :
    world.selectConnected peripheral = { world with
      controller.selectedBluetoothDeviceIndex :=
        .position (world.controller.connectedPeripherals.idxOf peripheral) } := by
  simp [selectConnected, containsObject, h, indexOfObject_of_mem]

/-- A device chosen for the first time is selected at the end. -/
theorem selectConnected_of_not_mem {peripheral : CBPeripheral}
    (h : peripheral ∉ world.controller.connectedPeripherals) :
    world.selectConnected peripheral = { world with
      controller.connectedPeripherals := world.controller.connectedPeripherals ++ [peripheral]
      controller.selectedBluetoothDeviceIndex :=
        .position world.controller.connectedPeripherals.length } := by
  simp [selectConnected, containsObject, h]

end Selection

section Commands
variable {world after : World}

/-- The index designates this element of `connectedPeripherals`. -/
def Designates (world : World) (peripheral : CBPeripheral) : Prop :=
  ∃ n : Nat, world.controller.selectedBluetoothDeviceIndex = .position n ∧
    world.controller.connectedPeripherals[n]? = some peripheral

theorem selectedPeripheral_eq_ok {peripheral : CBPeripheral} :
    world.selectedPeripheral = .ok peripheral ↔ world.Designates peripheral :=
  objectAtIndex_eq_ok

/-- At most one device is selected. -/
theorem Designates.unique {first second : CBPeripheral} (hFirst : world.Designates first)
    (hSecond : world.Designates second) : first = second := by
  rw [← selectedPeripheral_eq_ok] at hFirst hSecond
  rw [hFirst] at hSecond
  exact Except.ok.inj hSecond

variable {peripheral : CBPeripheral}

theorem isLocked_of_designates (h : world.Designates peripheral) :
    world.isLocked = .ok (decide (world.state peripheral ≠ .connected)) := by
  simp only [isLocked, selectedPeripheral_eq_ok.mpr h, ok_bind]
  by_cases hState : world.state peripheral = .connected <;> simp [hState]

theorem currentName_of_designates (h : world.Designates peripheral) :
    world.currentName = .ok (world.peripherals peripheral).name := by
  simp [currentName, selectedPeripheral_eq_ok.mpr h]

/-- Locking cancels the connection of a connected device, and does nothing else. -/
theorem lockDevice_of_designates (h : world.Designates peripheral) :
    world.lockDevice = .ok (if world.state peripheral = .connected then
      world.cancelPeripheralConnection peripheral else world) := by
  simp only [lockDevice, isLocked_of_designates h, selectedPeripheral_eq_ok.mpr h, ok_bind]
  by_cases hState : world.state peripheral = .connected <;> simp [hState]

/-- Unlocking connects any device that is not connected. -/
theorem unlockDevice_of_designates (h : world.Designates peripheral) :
    world.unlockDevice = .ok (if world.state peripheral = .connected then world
      else world.connectPeripheral peripheral) := by
  simp only [unlockDevice, isLocked_of_designates h, selectedPeripheral_eq_ok.mpr h, ok_bind]
  by_cases hState : world.state peripheral = .connected <;> simp [hState]

/-- A device is eligible while it is connected or disconnected, and not in between. -/
theorem isElgibleForLock_of_designates (h : world.Designates peripheral) :
    world.isElgibleForLock = .ok (decide (world.state peripheral = .connected ∨
      world.state peripheral = .disconnected)) := by
  have hNegative : world.controller.selectedBluetoothDeviceIndex.isNegative = false := by
    obtain ⟨n, hIndex, _⟩ := h
    simp [hIndex, NSIndex.isNegative]
  simp only [isElgibleForLock, hNegative, selectedPeripheral_eq_ok.mpr h, ok_bind]
  cases hState : world.state peripheral <;> simp

/-- A method that reads the selection raises unless the index designates an element. -/
theorem designates_of_isLocked {locked : Bool} (h : world.isLocked = .ok locked) :
    ∃ peripheral, world.Designates peripheral := by
  obtain ⟨peripheral, hSelected, _⟩ := bind_eq_ok.mp h
  exact ⟨peripheral, selectedPeripheral_eq_ok.mp hSelected⟩

/-- Locking raises unless a device is selected. -/
theorem designates_of_lockDevice (h : world.lockDevice = .ok after) :
    ∃ peripheral, world.Designates peripheral := by
  obtain ⟨_, hLocked, _⟩ := bind_eq_ok.mp h
  exact designates_of_isLocked hLocked

/-- Unlocking raises unless a device is selected. -/
theorem designates_of_unlockDevice (h : world.unlockDevice = .ok after) :
    ∃ peripheral, world.Designates peripheral := by
  obtain ⟨_, hLocked, _⟩ := bind_eq_ok.mp h
  exact designates_of_isLocked hLocked

end Commands

section Expiration
variable {world after : World} {clock : PassClock}

/-- What is collected is a part of the list, in its order. -/
theorem peripheralsToRemove_sublist (objects : CBPeripheral → PeripheralObject)
    (clock : PassClock) (allocation : Nat) (devices : List CBPeripheral) :
    (peripheralsToRemove objects clock allocation devices).Sublist devices := by
  induction devices generalizing allocation with
  | nil => exact .slnil
  | cons peripheral rest ih =>
      simp only [peripheralsToRemove]
      split
      · exact (ih _).cons_cons _
      · exact (ih _).cons _

/-- A device is collected when it is expired at its own allocation. -/
theorem mem_peripheralsToRemove {objects : CBPeripheral → PeripheralObject}
    {allocation : Nat} {devices : List CBPeripheral} {peripheral : CBPeripheral} :
    peripheral ∈ peripheralsToRemove objects clock allocation devices ↔
      ∃ n, devices[n]? = some peripheral ∧
        isExpired objects clock (allocation + n) peripheral = true := by
  induction devices generalizing allocation with
  | nil => simp [peripheralsToRemove]
  | cons first rest ih =>
      have hRest : (∃ n, (first :: rest)[n]? = some peripheral ∧
          isExpired objects clock (allocation + n) peripheral = true) ↔
          (first = peripheral ∧ isExpired objects clock allocation peripheral = true) ∨
          ∃ n, rest[n]? = some peripheral ∧
            isExpired objects clock (allocation + 1 + n) peripheral = true := by
        constructor
        · rintro ⟨_ | n, hGet, hExpired⟩
          · exact .inl ⟨Option.some.inj hGet, hExpired⟩
          · rw [← Nat.add_assoc, Nat.add_right_comm] at hExpired
            exact .inr ⟨n, hGet, hExpired⟩
        · rintro (⟨rfl, hExpired⟩ | ⟨n, hGet, hExpired⟩)
          · exact ⟨0, rfl, hExpired⟩
          · rw [Nat.add_right_comm] at hExpired
            exact ⟨n + 1, hGet, hExpired⟩
      rw [hRest, ← ih, peripheralsToRemove]
      split
      · rename_i hExpired
        rw [List.mem_cons, eq_comm]
        constructor
        · rintro (rfl | hMem)
          · exact .inl ⟨rfl, hExpired⟩
          · exact .inr hMem
        · rintro (⟨rfl, _⟩ | hMem)
          · exact .inl rfl
          · exact .inr hMem
      · rename_i hFresh
        constructor
        · exact .inr
        · rintro (⟨rfl, hExpired⟩ | hMem)
          · exact absurd hExpired hFresh
          · exact hMem

/-- The notifications of one removal loop: each index is a position in the list
as the removals before it left it. -/
def lossBlocks (inSection : Int) : List CBPeripheral → List CBPeripheral → List NotificationBlock
  | _, [] => []
  | devices, peripheral :: rest =>
      .post (deviceLost (indexOfObject devices peripheral) inSection) ::
        lossBlocks inSection (devices.erase peripheral) rest

/-- A loop posts the index of each device in what the removals before it left. -/
theorem lossBlocks_eq_map (inSection : Int) (devices lost : List CBPeripheral) :
    lossBlocks inSection devices lost =
      (indicesInTurn devices lost).map fun index => .post (deviceLost index inSection) := by
  induction lost generalizing devices with
  | nil => rfl
  | cons peripheral rest ih => rw [lossBlocks, ih, indicesInTurn, List.map_cons]

/-- The removal loop completes exactly on devices that `discoveredDevicesArray` holds. It
takes one first occurrence of each out of it and queues one notification for each. -/
theorem removePeripherals_eq_ok {inSection : Int} {lost : List CBPeripheral} :
    world.removePeripherals inSection lost = .ok after ↔
      lost.Subperm world.controller.discoveredDevicesArray ∧
      after = { world with
        controller.discoveredDevicesArray := world.controller.discoveredDevicesArray.diff lost
        controller.notificationQueue := world.controller.notificationQueue ++
          lossBlocks inSection world.controller.discoveredDevicesArray lost } := by
  induction lost generalizing world with
  | nil =>
      rw [removePeripherals, lossBlocks, List.diff_nil, List.append_nil]
      constructor
      · intro h
        cases h
        exact ⟨List.nil_subperm, rfl⟩
      · rintro ⟨_, rfl⟩
        rfl
  | cons peripheral rest ih =>
      rw [cons_subperm_iff, removePeripherals]
      by_cases hMem : peripheral ∈ world.controller.discoveredDevicesArray
      · rw [removeObjectAtIndex_indexOfObject hMem, ok_bind, ih]
        simp only [dispatchAsync, List.diff_cons, lossBlocks, List.append_assoc,
          List.cons_append, List.nil_append, hMem, true_and]
      · rw [removeObjectAtIndex_indexOfObject_of_not_mem hMem]
        constructor
        · intro h
          cases h
        · rintro ⟨⟨hFound, _⟩, _⟩
          exact absurd hFound hMem

/-- What the first loop of a pass collects. -/
def lostDevices (world : World) (clock : PassClock) : List CBPeripheral :=
  peripheralsToRemove world.peripherals clock 0 world.controller.discoveredDevicesArray

/-- What the second loop of a pass collects, from the connected devices. -/
def staleDevices (world : World) (clock : PassClock) : List CBPeripheral :=
  peripheralsToRemove world.peripherals clock world.controller.discoveredDevicesArray.length
    world.controller.connectedPeripherals

/-- A pass that completes: the selection was valid, what both loops collected was
discovered, and nothing but the discovered devices, the queue and the index has
changed. The index is found again, since no loop removes a connected device. -/
theorem removeExpiredDevices_eq_ok (h : world.removeExpiredDevices clock = .ok after) :
    ∃ current, world.Designates current ∧
    (world.staleDevices clock).Subperm
      (world.controller.discoveredDevicesArray.diff (world.lostDevices clock)) ∧
    after = { world with
      controller.discoveredDevicesArray :=
        (world.controller.discoveredDevicesArray.diff (world.lostDevices clock)).diff
          (world.staleDevices clock)
      controller.notificationQueue := world.controller.notificationQueue ++
        (lossBlocks 0 world.controller.discoveredDevicesArray (world.lostDevices clock) ++
          (lossBlocks 1
            (world.controller.discoveredDevicesArray.diff (world.lostDevices clock))
            (world.staleDevices clock) ++ [.refreshConnected]))
      controller.selectedBluetoothDeviceIndex :=
        .position (world.controller.connectedPeripherals.idxOf current) } := by
  obtain ⟨current, hCurrent, h⟩ := bind_eq_ok.mp h
  obtain ⟨middle, hFirst, h⟩ := bind_eq_ok.mp h
  obtain ⟨last, hSecond, hAfter⟩ := bind_eq_ok.mp h
  have hDesignates := selectedPeripheral_eq_ok.mp hCurrent
  have hMem : current ∈ world.controller.connectedPeripherals := by
    obtain ⟨n, _, hGet⟩ := hDesignates
    exact List.mem_of_getElem? hGet
  obtain ⟨_, rfl⟩ := removePeripherals_eq_ok.mp hFirst
  obtain ⟨hStale, rfl⟩ := removePeripherals_eq_ok.mp hSecond
  refine ⟨current, hDesignates, hStale, ?_⟩
  cases hAfter
  simp only [dispatchAsync, indexOfObject_of_mem hMem, List.append_assoc, lostDevices,
    staleDevices]

end Expiration

/-- A queued block leaves the lists alone, and the selection unless it is `NSNotFound`. -/
theorem runNotificationBlock_eq {world : World}
    (h : world.controller.selectedBluetoothDeviceIndex ≠ .notFound) :
    world.runNotificationBlock.2 = { world with
      controller.notificationQueue := world.controller.notificationQueue.tail } := by
  unfold runNotificationBlock
  split
  · rename_i hQueue
    rw [hQueue, List.tail_nil, ← hQueue]
  · rename_i hQueue
    rw [hQueue, List.tail_cons]
  · rename_i hQueue
    rw [hQueue, List.tail_cons]
    simp only [if_neg h]

section Objects
variable {world after : World}

/-- The end of a selection changes the connected devices and the index, nothing else. -/
theorem selectConnected_frame (world : World) (peripheral : CBPeripheral) :
    ∃ connected index, world.selectConnected peripheral = { world with
      controller.connectedPeripherals := connected
      controller.selectedBluetoothDeviceIndex := index } := by
  unfold selectConnected
  split
  · exact ⟨_, _, rfl⟩
  · exact ⟨_, _, rfl⟩

theorem selectConnected_realm (peripheral : CBPeripheral) :
    (world.selectConnected peripheral).realm = world.realm := by
  obtain ⟨_, _, hAfter⟩ := world.selectConnected_frame peripheral
  rw [hAfter]

theorem selectConnected_peripherals (peripheral : CBPeripheral) :
    (world.selectConnected peripheral).peripherals = world.peripherals := by
  obtain ⟨_, _, hAfter⟩ := world.selectConnected_frame peripheral
  rw [hAfter]

/-- A selection changes nothing about the devices themselves. -/
theorem selectPeripheralAtIndex_peripherals {index : NSIndex} {inSection : Int}
    (hStep : world.selectPeripheralAtIndex index inSection = .ok after) :
    after.peripherals = world.peripherals := by
  rcases selectPeripheralAtIndex_cases hStep with ⟨_, n, peripheral, _, _, rfl⟩ |
    ⟨_, n, peripheral, _, _, rfl⟩ | ⟨_, _, rfl⟩
  · exact selectConnected_peripherals peripheral
  · exact selectConnected_peripherals peripheral
  · rfl

theorem runNotificationBlock_peripherals :
    world.runNotificationBlock.2.peripherals = world.peripherals := by
  unfold runNotificationBlock
  split
  · rfl
  · rfl
  · dsimp only
    split <;> rfl

/-- Discoveries, commands and CoreBluetooth itself apart, a step leaves every peripheral
object alone. -/
theorem step_peripherals {event : ControllerEvent} (hStep : world.step event = .ok after)
    (hDiscovery : ∀ peripheral now, event ≠ .didDiscoverPeripheral peripheral now)
    (hLock : event ≠ .lockDevice) (hUnlock : event ≠ .unlockDevice)
    (hChange : ∀ peripheral name link, event ≠ .peripheralChanges peripheral name link) :
    after.peripherals = world.peripherals := by
  cases event with
  | didDiscoverPeripheral peripheral now => exact absurd rfl (hDiscovery peripheral now)
  | selectPeripheralAtIndex index inSection => exact selectPeripheralAtIndex_peripherals hStep
  | removeExpiredDevices clock =>
      obtain ⟨_, _, _, rfl⟩ := removeExpiredDevices_eq_ok hStep
      rfl
  | runNotificationBlock =>
      cases hStep
      exact runNotificationBlock_peripherals
  | centralManagerDidUpdateState state =>
      cases hStep
      cases state <;> rfl
  | beginScanning =>
      cases hStep
      unfold beginScanning
      split <;> rfl
  | didConnectPeripheral =>
      cases hStep
      rfl
  | didDisconnectPeripheral =>
      cases hStep
      rfl
  | lockDevice => exact absurd rfl hLock
  | unlockDevice => exact absurd rfl hUnlock
  | peripheralChanges peripheral name link => exact absurd rfl (hChange peripheral name link)

/-- The controller's own steps leave every link alone, commands apart. -/
theorem step_link_of_not_command {event : ControllerEvent} (hStep : world.step event = .ok after)
    (hLock : event ≠ .lockDevice) (hUnlock : event ≠ .unlockDevice)
    (hChange : ∀ peripheral name link, event = .peripheralChanges peripheral name link →
      link = (world.peripherals peripheral).link) (peripheral : CBPeripheral) :
    (after.peripherals peripheral).link = (world.peripherals peripheral).link := by
  by_cases hDiscovery : ∃ other now, event = .didDiscoverPeripheral other now
  · obtain ⟨other, now, rfl⟩ := hDiscovery
    cases hStep
    exact (didDiscoverPeripheral_frame _ other now).2 peripheral
  by_cases hObject : ∃ other name link, event = .peripheralChanges other name link
  · obtain ⟨other, name, link, rfl⟩ := hObject
    cases hStep
    by_cases hOther : peripheral = other
    · subst hOther
      simp only [setPeripheral, Function.update_self]
      exact hChange peripheral name link rfl
    · simp [setPeripheral, Function.update_of_ne hOther]
  · push Not at hDiscovery hObject
    rw [step_peripherals hStep hDiscovery hLock hUnlock hObject]

end Objects

/-- The peripheral an event picks: a selection on section 0 or 1 picks the device
at that index of the section, before anything is moved. -/
def picked (world : World) : ControllerEvent → Option CBPeripheral
  | .selectPeripheralAtIndex index inSection =>
      match world.peripheralAtIndex index inSection with
      | .ok peripheral => peripheral
      | .error _ => none
  | _ => none

section Picks
variable {world : World} {n : Nat} {peripheral : CBPeripheral}

theorem picked_known (h : world.controller.knownDevicesArray[n]? = some peripheral) :
    world.picked (.selectPeripheralAtIndex (.position n) 0) = some peripheral := by
  simp [picked, peripheralAtIndex, objectAtIndex_natCast _ n h]

theorem picked_discovered (h : world.controller.discoveredDevicesArray[n]? = some peripheral) :
    world.picked (.selectPeripheralAtIndex (.position n) 1) = some peripheral := by
  simp [picked, peripheralAtIndex, objectAtIndex_natCast _ n h]

/-- A selection in a section that is not there picks nothing. -/
theorem picked_other_section {index : NSIndex} {inSection : Int} (hZero : inSection ≠ 0)
    (hOne : inSection ≠ 1) : world.picked (.selectPeripheralAtIndex index inSection) = none := by
  simp [picked, peripheralAtIndex, hZero, hOne]

end Picks

/-- The device whose named advertisement an event delivers. -/
def advertised (world : World) : ControllerEvent → Option CBPeripheral
  | .didDiscoverPeripheral peripheral _ =>
      if (world.peripherals peripheral).name = none then none else some peripheral
  | _ => none

/-- An advertisement is heard of with a name, and picks nothing. -/
theorem named_of_advertised {world : World} {event : ControllerEvent} {peripheral : CBPeripheral}
    (h : world.advertised event = some peripheral) :
    (world.peripherals peripheral).name ≠ none ∧ world.picked event = none := by
  cases event with
  | didDiscoverPeripheral other now =>
      by_cases hName : (world.peripherals other).name = none
      · simp [advertised, hName] at h
      · obtain rfl : other = peripheral := by simpa [advertised, hName] using h
        exact ⟨hName, rfl⟩
  | _ => cases h

/-- The device lists, the dictionary and the selection are the same. -/
def SameLists (world after : World) : Prop :=
  after.controller = { world.controller with
    notificationQueue := after.controller.notificationQueue
    isOnline := after.controller.isOnline }

/-- The lists and the store are the same. -/
def SameDevices (world after : World) : Prop :=
  world.SameLists after ∧ after.realm = world.realm

/-- Only discoveries, selections and expiration passes touch the devices. -/
theorem step_cases {world after : World} {event : ControllerEvent}
    (hIndex : world.controller.selectedBluetoothDeviceIndex ≠ .notFound)
    (h : world.step event = .ok after) :
    (∃ peripheral now, event = .didDiscoverPeripheral peripheral now ∧
      after = world.didDiscoverPeripheral peripheral now) ∨
    (∃ index inSection, event = .selectPeripheralAtIndex index inSection ∧
      world.selectPeripheralAtIndex index inSection = .ok after) ∨
    (∃ clock, event = .removeExpiredDevices clock ∧
      world.removeExpiredDevices clock = .ok after) ∨
    (world.picked event = none ∧ world.advertised event = none ∧ world.SameDevices after) := by
  cases event with
  | didDiscoverPeripheral peripheral now => exact .inl ⟨peripheral, now, rfl, by cases h; rfl⟩
  | selectPeripheralAtIndex index inSection => exact .inr (.inl ⟨index, inSection, rfl, h⟩)
  | removeExpiredDevices clock => exact .inr (.inr (.inl ⟨clock, rfl, h⟩))
  | didConnectPeripheral =>
      cases h
      exact .inr (.inr (.inr ⟨rfl, rfl, rfl, rfl⟩))
  | didDisconnectPeripheral =>
      cases h
      exact .inr (.inr (.inr ⟨rfl, rfl, rfl, rfl⟩))
  | centralManagerDidUpdateState state =>
      cases h
      refine .inr (.inr (.inr ⟨rfl, rfl, ?_⟩))
      cases state <;> exact ⟨rfl, rfl⟩
  | beginScanning =>
      cases h
      refine .inr (.inr (.inr ⟨rfl, rfl, ?_⟩))
      unfold beginScanning
      split <;> exact ⟨rfl, rfl⟩
  | lockDevice =>
      obtain ⟨peripheral, hDesignates⟩ := designates_of_lockDevice h
      change world.lockDevice = _ at h
      rw [lockDevice_of_designates hDesignates] at h
      cases h
      refine .inr (.inr (.inr ⟨rfl, rfl, ?_⟩))
      split <;> exact ⟨rfl, rfl⟩
  | unlockDevice =>
      obtain ⟨peripheral, hDesignates⟩ := designates_of_unlockDevice h
      change world.unlockDevice = _ at h
      rw [unlockDevice_of_designates hDesignates] at h
      cases h
      refine .inr (.inr (.inr ⟨rfl, rfl, ?_⟩))
      split <;> exact ⟨rfl, rfl⟩
  | runNotificationBlock =>
      cases h
      rw [runNotificationBlock_eq hIndex]
      exact .inr (.inr (.inr ⟨rfl, rfl, rfl, rfl⟩))
  | peripheralChanges peripheral name link =>
      cases h
      exact .inr (.inr (.inr ⟨rfl, rfl, rfl, rfl⟩))

end World
end LockJaw
