import LockJaw.Bluetooth.Expiration

/-! The indices of the loss notifications. The removal loop of a pass searches each device
in the list that the removals before it left, and posts the index it found. The indices are
no positions in the list before the pass, but removing at them one after another repeats
the loop on any copy of that list. -/
namespace LockJaw

open Cocoa Semantics

namespace World

/-- The notifications that the first blocks of `notificationQueue` post when they run. -/
def postings (world : World) : Nat → List NSNotification
  | 0 => []
  | count + 1 =>
      world.runNotificationBlock.1.toList ++ world.runNotificationBlock.2.postings count

section Postings
variable {world after : World}

/-- What a block posts is up to the block and the selection. -/
theorem runNotificationBlock_congr {block : NotificationBlock}
    {rest further : List NotificationBlock}
    (hSelection : after.controller.selectedBluetoothDeviceIndex =
      world.controller.selectedBluetoothDeviceIndex)
    (hQueue : world.controller.notificationQueue = block :: rest)
    (hFurther : after.controller.notificationQueue = block :: further) :
    after.runNotificationBlock.1 = world.runNotificationBlock.1 ∧
      after.runNotificationBlock.2.controller.selectedBluetoothDeviceIndex =
        world.runNotificationBlock.2.controller.selectedBluetoothDeviceIndex ∧
      world.runNotificationBlock.2.controller.notificationQueue = rest ∧
      after.runNotificationBlock.2.controller.notificationQueue = further := by
  cases block with
  | post posted => simp [runNotificationBlock, hQueue, hFurther, hSelection]
  | refreshConnected =>
      by_cases hIndex : world.controller.selectedBluetoothDeviceIndex = .notFound
      · simp [runNotificationBlock, hQueue, hFurther, hSelection, hIndex]
      · simp [runNotificationBlock, hQueue, hFurther, hSelection, hIndex]

theorem postings_of_posts {posted : List NSNotification}
    (hQueue : world.controller.notificationQueue = posted.map .post) :
    world.postings posted.length = posted := by
  induction posted generalizing world with
  | nil => rfl
  | cons first rest ih =>
      rw [List.map_cons] at hQueue
      have hAfter : world.runNotificationBlock = (some first, { world with
          controller.notificationQueue := rest.map .post }) := by
        simp only [runNotificationBlock, hQueue]
      rw [List.length_cons, postings, hAfter, ih rfl]
      rfl

/-- Blocks at the end of the queue post after what was queued before them, and change
nothing about it. -/
theorem postings_append {posted : List NSNotification}
    (hSelection : after.controller.selectedBluetoothDeviceIndex =
      world.controller.selectedBluetoothDeviceIndex)
    (hQueue : after.controller.notificationQueue =
      world.controller.notificationQueue ++ posted.map .post) :
    after.postings (world.controller.notificationQueue.length + posted.length) =
      world.postings world.controller.notificationQueue.length ++ posted := by
  generalize hBefore : world.controller.notificationQueue = queue at hQueue ⊢
  induction queue generalizing world after with
  | nil =>
      rw [List.length_nil, Nat.zero_add]
      exact postings_of_posts hQueue
  | cons block rest ih =>
      obtain ⟨hPosted, hIndex, hRest, hFurther⟩ :=
        runNotificationBlock_congr hSelection hBefore hQueue
      rw [List.length_cons, Nat.add_right_comm, postings, postings, hPosted,
        ih hIndex hRest hFurther, List.append_assoc]

end Postings

/-- The loop took the devices `lost` out of the list before it and posted `indices`, which
repeat what it did. -/
structure ReplaysRemoval (world after : World) (inSection : Int) (lost : List CBPeripheral)
    (indices : List NSIndex) : Prop where
  kept : after.controller.discoveredDevicesArray =
    world.controller.discoveredDevicesArray.filter (· ∉ lost)
  onePerDevice : indices.length = lost.length
  queued : after.controller.notificationQueue = world.controller.notificationQueue ++
    indices.map fun index => .post (deviceLost index inSection)
  posted : after.postings (world.controller.notificationQueue.length + indices.length) =
    world.postings world.controller.notificationQueue.length ++
      indices.map fun index => deviceLost index inSection
  replayed : removeObjectsInTurn world.controller.discoveredDevicesArray indices =
    .ok (lost, after.controller.discoveredDevicesArray)
  inStep : ∀ k, ∃ middle, world.removePeripherals inSection (lost.take k) = .ok middle ∧
    removeObjectsInTurn world.controller.discoveredDevicesArray (indices.take k) =
      .ok (lost.take k, middle.controller.discoveredDevicesArray)

section Replay
variable {world middle after : World} {clock : PassClock}

/-- A loop that completes is repeated by the indices it posted. -/
theorem replaysRemoval_of_loop {inSection : Int} {lost : List CBPeripheral}
    (hNodup : world.controller.discoveredDevicesArray.Nodup)
    (hLoop : world.removePeripherals inSection lost = .ok after) :
    ReplaysRemoval world after inSection lost
      (indicesInTurn world.controller.discoveredDevicesArray lost) := by
  obtain ⟨hLost, rfl⟩ := removePeripherals_eq_ok.mp hLoop
  constructor
  · exact hNodup.sdiff_eq_filter
  · exact length_indicesInTurn _ _
  · dsimp only
    rw [lossBlocks_eq_map]
  · rw [← List.length_map fun index => deviceLost index inSection]
    apply postings_append
    · rfl
    · dsimp only
      rw [lossBlocks_eq_map, List.map_map]
      rfl
  · exact removeObjectsInTurn_indicesInTurn hLost
  · intro k
    -- any prefix of the loop completes, and is repeated by the indices it posted
    have hPart : (lost.take k).Subperm world.controller.discoveredDevicesArray :=
      (List.take_sublist k lost).subperm.trans hLost
    refine ⟨_, removePeripherals_eq_ok.mpr ⟨hPart, rfl⟩, ?_⟩
    rw [take_indicesInTurn]
    exact removeObjectsInTurn_indicesInTurn hPart

/-- The whole pass: its second loop searches and removes in the same list, so its indices
go on where those of the first one end. -/
theorem replays_of_pass (hPass : world.removeExpiredDevices clock = .ok after)
    (hLoop : world.removePeripherals 0 (world.lostDevices clock) = .ok middle) :
    ∃ further, after.controller.notificationQueue = middle.controller.notificationQueue ++
        (further.map (fun index => .post (deviceLost index 1)) ++ [.refreshConnected]) ∧
      further.length = (world.staleDevices clock).length ∧
      removeObjectsInTurn middle.controller.discoveredDevicesArray further =
        .ok (world.staleDevices clock, after.controller.discoveredDevicesArray) := by
  obtain ⟨hLost, rfl⟩ := removePeripherals_eq_ok.mp hLoop
  obtain ⟨current, _, hStale, rfl⟩ := removeExpiredDevices_eq_ok hPass
  refine ⟨indicesInTurn (world.controller.discoveredDevicesArray.diff
    (world.lostDevices clock)) (world.staleDevices clock), ?_, length_indicesInTurn _ _, ?_⟩
  · dsimp only
    rw [lossBlocks_eq_map 1, List.append_assoc]
  · exact removeObjectsInTurn_indicesInTurn hStale

end Replay

/-- The loop collects what is picked when every comparison comes out so. -/
theorem peripheralsToRemove_eq_filter {objects : CBPeripheral → PeripheralObject}
    {clock : PassClock} {allocation : Nat} {devices : List CBPeripheral}
    {picked : CBPeripheral → Bool}
    (hPicked : ∀ n peripheral, devices[n]? = some peripheral →
      isExpired objects clock (allocation + n) peripheral = picked peripheral) :
    peripheralsToRemove objects clock allocation devices = devices.filter picked := by
  induction devices generalizing allocation with
  | nil => rfl
  | cons peripheral rest ih =>
      have hRest := @ih (allocation + 1) fun n other hGet => by
        rw [Nat.add_right_comm]
        exact hPicked (n + 1) other hGet
      have hFirst := hPicked 0 peripheral rfl
      rw [Nat.add_zero] at hFirst
      rw [peripheralsToRemove, hRest, hFirst, List.filter_cons]

/-- Any part of the discovered devices may be taken for expired, whatever their dates: it
is a matter of where the dates of the pass are allocated. -/
theorem exists_clock_of_picked (world : World) (picked : CBPeripheral → Bool)
    (hDates : ∀ peripheral ∈ world.controller.discoveredDevicesArray,
      (world.peripherals peripheral).discoveryDate ≠ none) (now : ℚ) :
    ∃ clock : PassClock, clock.currentDate.time = now ∧ world.lostDevices clock =
      world.controller.discoveredDevicesArray.filter picked := by
  let below : Nat → Bool := fun n =>
    (world.controller.discoveredDevicesArray[n]?).any picked
  refine ⟨⟨⟨2, now⟩, fun n => if below n then 1 else 3⟩, rfl, ?_⟩
  apply peripheralsToRemove_eq_filter
  intro n peripheral hGet
  obtain ⟨date, hDate⟩ :=
    Option.ne_none_iff_exists'.mp (hDates peripheral (List.mem_of_getElem? hGet))
  have hBelow : below n = picked peripheral := by
    simp only [below, hGet, Option.any_some]
  simp only [isExpired, hDate, dateByAddingTimeInterval, Option.map_some, pointerLess,
    pointer, Nat.zero_add, hBelow]
  cases picked peripheral with
  | true => rfl
  | false => rfl

end World

open World

/-- On a reachable controller the second loop of a pass that completes posts nothing, so
the indices of the first one alone lead to the list after the pass. -/
theorem reachable_pass_replays_losses {start world after : World}
    {history : History World ControllerEvent} {clock : PassClock}
    (run : Run World.step start history world) (hInit : start.controller = .init)
    (hPass : world.removeExpiredDevices clock = .ok after) :
    ∃ indices, after.controller.notificationQueue = world.controller.notificationQueue ++
        (indices.map (fun index => .post (deviceLost index 0)) ++ [.refreshConnected]) ∧
      removeObjectsInTurn world.controller.discoveredDevicesArray indices =
        .ok (world.lostDevices clock, after.controller.discoveredDevicesArray) := by
  obtain ⟨roster, hRefines, _⟩ := reachable_refines run hInit
  obtain ⟨current, _, hStale, rfl⟩ := removeExpiredDevices_eq_ok hPass
  have hNone := hRefines.staleDevices_eq_nil hStale
  have hLost : (world.lostDevices clock).Subperm world.controller.discoveredDevicesArray :=
    (peripheralsToRemove_sublist _ _ _ _).subperm
  refine ⟨indicesInTurn world.controller.discoveredDevicesArray (world.lostDevices clock),
    ?_, ?_⟩
  · dsimp only
    rw [hNone, lossBlocks_eq_map 0, lossBlocks, List.nil_append]
  · dsimp only
    rw [hNone, List.diff_nil]
    exact removeObjectsInTurn_indicesInTurn hLost

/-- The removal loop takes out exactly what the comparisons picked, and its indices, one
for each device it took, repeat it step by step on the list before the pass. With the
indices of the second loop behind them they lead to the list after the pass. -/
theorem loss_indices_replay_removal {world : World}
    (hNodup : world.controller.discoveredDevicesArray.Nodup) (clock : PassClock) :
    ∃ middle indices, world.removePeripherals 0 (world.lostDevices clock) = .ok middle ∧
      ReplaysRemoval world middle 0 (world.lostDevices clock) indices ∧
      ∀ after, world.removeExpiredDevices clock = .ok after →
        ∃ further, after.controller.notificationQueue = middle.controller.notificationQueue ++
            (further.map (fun index => .post (deviceLost index 1)) ++ [.refreshConnected]) ∧
          further.length = (world.staleDevices clock).length ∧
          removeObjectsInTurn world.controller.discoveredDevicesArray (indices ++ further) =
            .ok (world.lostDevices clock ++ world.staleDevices clock,
              after.controller.discoveredDevicesArray) := by
  have hLost : (world.lostDevices clock).Subperm world.controller.discoveredDevicesArray :=
    (peripheralsToRemove_sublist _ _ _ _).subperm
  have hLoop := (@removePeripherals_eq_ok world _ 0 _).mpr ⟨hLost, rfl⟩
  have hReplays := replaysRemoval_of_loop hNodup hLoop
  refine ⟨_, _, hLoop, hReplays, ?_⟩
  intro after hPass
  obtain ⟨further, hQueue, hLength, hFurther⟩ := replays_of_pass hPass hLoop
  exact ⟨further, hQueue, hLength, removeObjectsInTurn_append hReplays.replayed hFurther⟩

def garage : CBPeripheral := ⟨⟨0x1B9D6BCDBBFD4B2D9B5DAB8DFBBD4BED⟩⟩

def cellar : CBPeripheral := ⟨⟨0x3C5D7E9F1A2B4C6D8E0F1A2B3C4D5E6F⟩⟩

/-- Four devices were found, and the last one was selected. -/
def fourDiscovered : World :=
  (((freshWorld.didDiscoverPeripheral frontDoor ⟨5, 0⟩).didDiscoverPeripheral backDoor
    ⟨6, 20⟩).didDiscoverPeripheral garage ⟨7, 0⟩).didDiscoverPeripheral cellar ⟨8, 20⟩

/-- The shifted dates of the first and the third device lie below the current one. -/
def firstAndThirdExpire : PassClock := ⟨⟨50, 40⟩, fun n => if n = 0 ∨ n = 2 then 40 else 60⟩

/-- The first and the third device expire, and the selected one does not, so the pass
completes: the third is no longer at its old position when it is removed. -/
theorem loss_indices_replay_two_of_three :
    ∃ world middle after, fourDiscovered.selectPeripheralAtIndex (.position 3) 1 = .ok world ∧
      world.Designates cellar ∧
      world.controller.discoveredDevicesArray = [frontDoor, backDoor, garage] ∧
      ReplaysRemoval world middle 0 [frontDoor, garage] [.position 0, .position 1] ∧
      world.removeExpiredDevices firstAndThirdExpire = .ok after ∧
      after.controller.notificationQueue =
        middle.controller.notificationQueue ++ [.refreshConnected] ∧
      removeObjectsInTurn [frontDoor, backDoor, garage] [.position 0, .position 1] =
        .ok ([frontDoor, garage], after.controller.discoveredDevicesArray) := by
  obtain ⟨world, after, hSelect, hDesignates, hDevices, hLost, hStale, hAfter, hQueue⟩ :
      ∃ world after, fourDiscovered.selectPeripheralAtIndex (.position 3) 1 = .ok world ∧
        world.Designates cellar ∧
        world.controller.discoveredDevicesArray = [frontDoor, backDoor, garage] ∧
        world.lostDevices firstAndThirdExpire = [frontDoor, garage] ∧
        world.staleDevices firstAndThirdExpire = [] ∧
        world.removeExpiredDevices firstAndThirdExpire = .ok after ∧
        after.controller.notificationQueue = world.controller.notificationQueue ++
          [.post (deviceLost (.position 0) 0), .post (deviceLost (.position 1) 0)] ++
          [.refreshConnected] :=
    ⟨_, _, rfl, ⟨0, rfl, rfl⟩, rfl, by decide, by decide, rfl, rfl⟩
  have hNodup : world.controller.discoveredDevicesArray.Nodup := by
    rw [hDevices]
    decide
  obtain ⟨middle, indices, _, hReplays, hPass⟩ :=
    loss_indices_replay_removal hNodup firstAndThirdExpire
  obtain ⟨further, hFurther, hLength, hReplayed⟩ := hPass after hAfter
  rw [hStale, List.length_nil, List.length_eq_zero_iff] at hLength
  subst hLength
  rw [List.map_nil, List.nil_append] at hFurther
  have hMiddle := List.append_cancel_right (hFurther.symm.trans hQueue)
  have hInjective : Function.Injective fun index =>
      NotificationBlock.post (deviceLost index 0) := by
    intro first second hSame
    simpa [deviceLost] using hSame
  have hIndices : indices = [.position 0, .position 1] := by
    rw [hReplays.queued] at hMiddle
    exact List.map_injective_iff.mpr hInjective (List.append_cancel_left hMiddle)
  rw [hLost, hIndices] at hReplays
  rw [hLost, hStale, hIndices, hDevices] at hReplayed
  exact ⟨world, middle, after, hSelect, hDesignates, hDevices, hReplays, hAfter, hFurther,
    hReplayed⟩

end LockJaw
