import LockJaw.Bluetooth.Refinement

/-! Selection safety and the representation of the device lists, over every run of
the controller. Both are read off the roster a reachable controller represents. -/
namespace LockJaw

open Cocoa Semantics

/-- A phone whose peripherals all have a name and no connection, with an empty
store and a controller that was just made. -/
def freshWorld : World where
  controller := .init
  peripherals := fun _ => { name := some "Capsus", link := .disconnected, discoveryDate := none }
  realm := { peripherals := [], history := [] }
  central := { state := .poweredOn, commands := [] }

def frontDoor : CBPeripheral := ⟨⟨0xE621E1F8C36C495A93FC0C247A3E6E5F⟩⟩

def backDoor : CBPeripheral := ⟨⟨0x6F1C2D0A7B3E4F589A0B1C2D3E4F5A6B⟩⟩

namespace World

variable {world : World}

/-- Lock and unlock commands go to the designated peripheral only. -/
theorem lockDevice_commands {after : World} (h : world.lockDevice = .ok after) :
    ∃ peripheral, world.Designates peripheral ∧
      (after.central.commands = world.central.commands ∨ after.central.commands =
        world.central.commands ++ [.cancelPeripheralConnection peripheral]) := by
  obtain ⟨peripheral, hDesignates⟩ := designates_of_lockDevice h
  rw [lockDevice_of_designates hDesignates] at h
  refine ⟨peripheral, hDesignates, ?_⟩
  cases h
  split
  · exact .inr rfl
  · exact .inl rfl

/-- Unlocking sends at most one command, and to the selected device. -/
theorem unlockDevice_commands {after : World} (h : world.unlockDevice = .ok after) :
    ∃ peripheral, world.Designates peripheral ∧
      (after.central.commands = world.central.commands ∨ after.central.commands =
        world.central.commands ++ [.connectPeripheral peripheral]) := by
  obtain ⟨peripheral, hDesignates⟩ := designates_of_unlockDevice h
  rw [unlockDevice_of_designates hDesignates] at h
  refine ⟨peripheral, hDesignates, ?_⟩
  cases h
  split
  · exact .inl rfl
  · exact .inr rfl

/-- An eligible world has a designated peripheral: the other answers of
`isElgibleForLock` are an exception and `NO`. -/
theorem designates_of_isElgibleForLock (h : world.isElgibleForLock = .ok true) :
    ∃ peripheral, world.Designates peripheral := by
  unfold isElgibleForLock at h
  split at h
  · cases h
  · obtain ⟨peripheral, hSelected, _⟩ := bind_eq_ok.mp h
    exact ⟨peripheral, selectedPeripheral_eq_ok.mp hSelected⟩

end World

/-- Whatever the order of steps, the index is `-1` before the first pick and
afterwards designates the device picked last. Commands go to that device only,
and an eligible tap finds every indexed access in range. -/
theorem selection_is_latest_pick {start world : World}
    {history : History World ControllerEvent}
    (run : Run World.step start history world) (hInit : start.controller = .init) :
    ((world.controller.selectedBluetoothDeviceIndex = .position (-1) ∧
        latestPick history = none) ∨
      ∃ (i : Nat) (peripheral : CBPeripheral),
        world.controller.selectedBluetoothDeviceIndex = .position i ∧
        i < world.controller.connectedPeripherals.length ∧
        world.controller.connectedPeripherals[i]? = some peripheral ∧
        latestPick history = some peripheral) ∧
    (∀ after, world.lockDevice = .ok after →
      ∃ peripheral, latestPick history = some peripheral ∧
        (after.central.commands = world.central.commands ∨ after.central.commands =
          world.central.commands ++ [.cancelPeripheralConnection peripheral])) ∧
    (∀ after, world.unlockDevice = .ok after →
      ∃ peripheral, latestPick history = some peripheral ∧
        (after.central.commands = world.central.commands ∨ after.central.commands =
          world.central.commands ++ [.connectPeripheral peripheral])) ∧
    (world.isElgibleForLock = .ok true →
      (∃ locked, world.isLocked = .ok locked) ∧ (∃ name, world.currentName = .ok name) ∧
      (∃ after, world.lockDevice = .ok after) ∧ ∃ after, world.unlockDevice = .ok after) := by
  obtain ⟨roster, hRefines, hSelected⟩ := reachable_refines run hInit
  have hSelection := hRefines.selection
  rw [hSelected] at hSelection
  have hLatest : ∀ peripheral, world.Designates peripheral →
      latestPick history = some peripheral := by
    intro peripheral hDesignates
    rw [← hSelected]
    exact hRefines.selected_of_designates hDesignates
  refine ⟨?_, ?_, ?_, ?_⟩
  · cases hPick : latestPick history with
    | none =>
        rw [hPick] at hSelection
        exact .inl ⟨hSelection, rfl⟩
    | some peripheral =>
        rw [hPick] at hSelection
        obtain ⟨i, hIndex, hGet⟩ := hSelection
        exact .inr ⟨i, peripheral, hIndex, (List.getElem?_eq_some_iff.mp hGet).1, hGet, rfl⟩
  · intro after hLock
    obtain ⟨peripheral, hDesignates, hCommands⟩ := World.lockDevice_commands hLock
    exact ⟨peripheral, hLatest peripheral hDesignates, hCommands⟩
  · intro after hUnlock
    obtain ⟨peripheral, hDesignates, hCommands⟩ := World.unlockDevice_commands hUnlock
    exact ⟨peripheral, hLatest peripheral hDesignates, hCommands⟩
  · intro hEligible
    obtain ⟨peripheral, hDesignates⟩ := World.designates_of_isElgibleForLock hEligible
    exact ⟨⟨_, World.isLocked_of_designates hDesignates⟩,
      ⟨_, World.currentName_of_designates hDesignates⟩,
      ⟨_, World.lockDevice_of_designates hDesignates⟩,
      ⟨_, World.unlockDevice_of_designates hDesignates⟩⟩

/-- A run that discovers two devices, picks one, lets a pass drop the other and
runs the blocks both queued. -/
def pickAndExpire : List ControllerEvent :=
  [.didDiscoverPeripheral frontDoor ⟨100, 20⟩, .didDiscoverPeripheral backDoor ⟨5, 0⟩,
    .selectPeripheralAtIndex (.position 0) 1,
    .removeExpiredDevices ⟨⟨50, 40⟩, fun n => 40 + 30 * n⟩,
    .runNotificationBlock, .runNotificationBlock, .runNotificationBlock, .runNotificationBlock]

theorem selection_is_latest_pick_after_pass :
    ∃ world, exec World.step freshWorld pickAndExpire = .ok world ∧
      ∃ i : Nat, world.controller.selectedBluetoothDeviceIndex = .position i ∧
        world.controller.connectedPeripherals[i]? = some frontDoor := by
  obtain ⟨world, hExec⟩ : ∃ world, exec World.step freshWorld pickAndExpire = .ok world :=
    ⟨_, rfl⟩
  have hPick : latestPick (historyOf World.step freshWorld pickAndExpire) = some frontDoor := rfl
  refine ⟨world, hExec, ?_⟩
  rcases (selection_is_latest_pick (run_of_exec hExec) rfl).1 with
    ⟨_, hNone⟩ | ⟨i, peripheral, hIndex, _, hGet, hLatest⟩
  · rw [hPick] at hNone
    cases hNone
  · rw [hPick] at hLatest
    cases hLatest
    exact ⟨i, hIndex, hGet⟩

/-- The representation of the device lists: one list of known peripherals kept
twice, a disjoint list of discovered ones, and a dictionary that covers both. -/
structure DeviceListsWellFormed (world : World) : Prop where
  known_eq_connected :
    world.controller.knownDevicesArray = world.controller.connectedPeripherals
  known_nodup : world.controller.knownDevicesArray.Nodup
  discovered_nodup : world.controller.discoveredDevicesArray.Nodup
  discovered_not_known : ∀ peripheral ∈ world.controller.discoveredDevicesArray,
    peripheral ∉ world.controller.knownDevicesArray
  known_seen : ∀ peripheral ∈ world.controller.knownDevicesArray, world.Seen peripheral
  discovered_seen : ∀ peripheral ∈ world.controller.discoveredDevicesArray,
    world.Seen peripheral

/-- Lists that refine a roster are well formed. -/
theorem Refines.wellFormed {world : World} {roster : Roster CBPeripheral}
    (h : Refines world roster) : DeviceListsWellFormed world where
  known_eq_connected := h.known.trans h.connected.symm
  known_nodup := h.known ▸ roster.chosen_nodup
  discovered_nodup := h.discovered ▸ roster.candidates_nodup
  discovered_not_known := by
    rw [h.known, h.discovered]
    exact fun peripheral hCandidate hChosen => roster.not_both peripheral hChosen hCandidate
  known_seen := by
    rw [h.known]
    exact fun peripheral hMem => (h.seen peripheral).mpr (roster.chosen_seen peripheral hMem)
  discovered_seen := by
    rw [h.discovered]
    exact fun peripheral hMem =>
      (h.seen peripheral).mpr (roster.candidates_seen peripheral hMem)

/-- The device lists are well formed in every reachable state, whatever the store
holds and however discoveries, selections and passes follow each other. -/
theorem deviceLists_wellFormed {start world : World} {history : History World ControllerEvent}
    (run : Run World.step start history world) (hInit : start.controller = .init) :
    DeviceListsWellFormed world := by
  obtain ⟨roster, hRefines, _⟩ := reachable_refines run hInit
  exact hRefines.wellFormed

theorem deviceLists_wellFormed_after_pass :
    ∃ world, exec World.step freshWorld pickAndExpire = .ok world ∧
      DeviceListsWellFormed world := by
  obtain ⟨world, hExec⟩ : ∃ world, exec World.step freshWorld pickAndExpire = .ok world :=
    ⟨_, rfl⟩
  exact ⟨world, hExec, deviceLists_wellFormed (run_of_exec hExec) rfl⟩

end LockJaw
