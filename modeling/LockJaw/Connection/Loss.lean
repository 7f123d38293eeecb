import LockJaw.Connection.Rows

/-! The losses of an expiration pass on the screen. The pass queues one notification
for each device it removes, and its handler queues one deletion on the main queue. The
handler reads the row under a key that the notification does not have, so whatever the
order of the two queues, every deletion is of row 0, where no device is shown. -/
namespace LockJaw

open Cocoa Semantics

/-- The blocks of the two queues. A pass is worked off by these alone. -/
def ConnectionEvent.isQueued : ConnectionEvent → Bool
  | .controller .runNotificationBlock => true
  | .runMainBlock => true
  | _ => false

/-- The devices a pass takes out of `discoveredDevicesArray`, in the order it does. -/
def World.removedDevices (world : World) (clock : PassClock) : List CBPeripheral :=
  world.lostDevices clock ++ world.staleDevices clock

/-- The losses among the blocks of `notificationQueue`, all but the last block of a pass. -/
def lossesIn (queue : List NotificationBlock) : Nat := queue.countP (· ≠ .refreshConnected)

@[simp] theorem lossesIn_refreshConnected (rest : List NotificationBlock) :
    lossesIn (.refreshConnected :: rest) = lossesIn rest := by
  simp [lossesIn]

@[simp] theorem lossesIn_post (posted : NSNotification) (rest : List NotificationBlock) :
    lossesIn (.post posted :: rest) = lossesIn rest + 1 := by
  simp [lossesIn]

/-- The rows that show the removed devices, each in the table that the deletions before
it leave: device `i` of section 1 stands in row `i + 1`. -/
def rowsOfRemoved : List CBPeripheral → List CBPeripheral → List NSIndexPath
  | _, [] => []
  | devices, peripheral :: rest =>
      ⟨devices.idxOf peripheral + 1, 1⟩ :: rowsOfRemoved (devices.erase peripheral) rest

/-- The row that a step deletes from the table. -/
def ConnectionScreen.deletedPath (screen : ConnectionScreen) :
    ConnectionEvent → Option NSIndexPath
  | .runMainBlock =>
      match screen.mainQueue with
      | .deleteRow path :: _ => some path
      | _ => none
  | _ => none

/-- The deletions of a history, in their order. -/
def deletedPaths (history : History ConnectionScreen ConnectionEvent) : List NSIndexPath :=
  history.filterMap fun entry => entry.1.deletedPath entry.2

namespace ConnectionScreen

/-- A visible screen, with nothing under way, whose counts and table are those of the
controller's lists. -/
structure AgreesWithLists (screen : ConnectionScreen) : Prop where
  visible : screen.appearance = .appeared
  known : screen.numberOfRowsInSectionZero = recount screen.world 0
  discovered : screen.numberofRowsInSectionOne = recount screen.world 1
  table : screen.tableView.numberOfRows = screen.numberOfRows
  delivered : screen.world.controller.notificationQueue = []
  handled : screen.mainQueue = []

/-- Both queues are worked off. -/
def Settled (screen : ConnectionScreen) : Prop :=
  screen.world.controller.notificationQueue = [] ∧ screen.mainQueue = []

/-- The pass of `screen` ended in `passed`, and `schedule` works off its losses: no
update of the table raises, each deletion is of the row that showed the lost device, and
the counts end as those of a full recount. -/
def LossesHandled (screen passed : ConnectionScreen) (clock : PassClock)
    (schedule : List ConnectionEvent) : Prop :=
  ∃ final, exec connectionStep passed schedule = .ok final ∧
    deletedPaths (historyOf connectionStep passed schedule) <+:
      rowsOfRemoved screen.world.controller.discoveredDevicesArray
        (screen.world.removedDevices clock) ∧
    final.numberOfRowsInSectionZero = recount final.world 0 ∧
    final.numberofRowsInSectionOne = recount final.world 1

section Handlers
variable {screen : ConnectionScreen}

/-- The handler finds no row in a loss notification, and takes 0. -/
theorem observe_deviceLost (hVisible : screen.appearance = .appeared) (index : NSIndex)
    (inSection : Int) :
    ∃ zero one, screen.observe (World.deviceLost index inSection) = { screen with
      numberOfRowsInSectionZero := zero
      numberofRowsInSectionOne := one
      mainQueue := screen.mainQueue ++ [.deleteRow ⟨0, inSection⟩] } := by
  have hSection : intValue [("index", index), ("section", .position inSection)] "section" =
      inSection := rfl
  have hRow : intValue [("index", index), ("section", .position inSection)] "row" = 0 := rfl
  simp only [World.deviceLost, observe, hVisible, reduceCtorEq, if_false, lostBluetoothDevice,
    hSection, hRow]
  split
  · exact ⟨_, _, rfl⟩
  · exact ⟨_, _, rfl⟩

/-- The last block of a pass is nothing to the screen. -/
theorem runNotificationBlock_of_refreshConnected {rest : List NotificationBlock}
    (h : screen.world.controller.notificationQueue = .refreshConnected :: rest) :
    ∃ index, screen.runNotificationBlock = { screen with
      world := { screen.world with
        controller.notificationQueue := rest
        controller.selectedBluetoothDeviceIndex := index } } := by
  by_cases hIndex : screen.world.controller.selectedBluetoothDeviceIndex = .notFound
  · refine ⟨.position (-1), ?_⟩
    simp [runNotificationBlock, World.runNotificationBlock, h, hIndex, observe]
  · refine ⟨screen.world.controller.selectedBluetoothDeviceIndex, ?_⟩
    simp [runNotificationBlock, World.runNotificationBlock, h, hIndex, observe]

end Handlers

section Schedules
variable {screen after : ConnectionScreen}

/-- What a handler leaves is at most one block on the main queue. -/
theorem observe_queues (screen : ConnectionScreen) (posted : NSNotification) :
    (screen.observe posted).world = screen.world ∧
      (screen.observe posted).mainQueue.length ≤ screen.mainQueue.length + 1 := by
  cases posted with
  | newBluetoothDeviceDiscovered object =>
      simp only [observe]
      split <;> simp
  | bluetoothDeviceLost object =>
      simp only [observe, lostBluetoothDevice]
      split
      · simp
      · split <;> simp
  | shouldRefreshConnectedBluetoothDevices object => simp [observe]
  | locked => simp [observe]
  | unlocked => simp [observe]

theorem runNotificationBlock_queues {block : NotificationBlock} {rest : List NotificationBlock}
    (h : screen.world.controller.notificationQueue = block :: rest) :
    screen.runNotificationBlock.world.controller.notificationQueue = rest ∧
      screen.runNotificationBlock.mainQueue.length ≤ screen.mainQueue.length + 1 := by
  cases block with
  | refreshConnected =>
      obtain ⟨index, hAfter⟩ := runNotificationBlock_of_refreshConnected h
      rw [hAfter]
      exact ⟨rfl, Nat.le_succ _⟩
  | post posted =>
      obtain ⟨hWorld, hLength⟩ := observe_queues { screen with world := { screen.world with
        controller.notificationQueue := rest } } posted
      rw [runNotificationBlock_of_post h, hWorld]
      exact ⟨rfl, hLength⟩

/-- Every state has a schedule of its queues that works them off, unless a block of it
raises on the way. -/
theorem exists_complete_schedule (screen : ConnectionScreen) :
    ∃ schedule : List ConnectionEvent, (∀ event ∈ schedule, event.isQueued = true) ∧
      ∀ final, exec connectionStep screen schedule = .ok final → final.Settled := by
  generalize hSize : 2 * screen.world.controller.notificationQueue.length +
    screen.mainQueue.length = size
  induction size using Nat.strong_induction_on generalizing screen with
  | _ size ih =>
      -- a delivery weighs two blocks, since it may leave one on the main queue
      cases hDelivered : screen.world.controller.notificationQueue with
      | cons block rest =>
          obtain ⟨hRest, hLength⟩ := runNotificationBlock_queues hDelivered
          rw [hDelivered, List.length_cons] at hSize
          obtain ⟨schedule, hQueued, hComplete⟩ :=
            ih _ (by rw [hRest]; omega) screen.runNotificationBlock rfl
          exact ⟨.controller .runNotificationBlock :: schedule,
            List.forall_mem_cons.mpr ⟨rfl, hQueued⟩, hComplete⟩
      | nil =>
          cases hHandled : screen.mainQueue with
          | nil =>
              refine ⟨[], List.forall_mem_nil _, ?_⟩
              intro final hExec
              cases hExec
              exact ⟨hDelivered, hHandled⟩
          | cons block rest =>
              cases hStep : screen.runMainBlock with
              | error failure =>
                  refine ⟨[.runMainBlock], List.forall_mem_cons.mpr ⟨rfl, List.forall_mem_nil _⟩,
                    ?_⟩
                  intro final hExec
                  simp [exec, connectionStep, hStep] at hExec
              | ok after =>
                  obtain ⟨hWorld, _, hRest⟩ := runMainBlock_frame hStep
                  rw [hHandled, List.tail_cons] at hRest
                  rw [hDelivered, hHandled, List.length_cons] at hSize
                  obtain ⟨schedule, hQueued, hComplete⟩ :=
                    ih _ (by rw [hWorld, hDelivered, hRest]; omega) after rfl
                  refine ⟨.runMainBlock :: schedule,
                    List.forall_mem_cons.mpr ⟨rfl, hQueued⟩, ?_⟩
                  intro final hExec
                  simp only [exec, connectionStep, hStep] at hExec
                  exact hComplete final hExec
end Schedules

/-- While a pass with that many losses is worked off, each of them is a notification, a
block or a deletion, and deletions are of row 0. -/
structure WorksOff (screen : ConnectionScreen) (losses : Nat)
    (history : History ConnectionScreen ConnectionEvent) : Prop where
  visible : screen.appearance = .appeared
  notifications : ∀ block ∈ screen.world.controller.notificationQueue,
    block = .refreshConnected ∨
      ∃ index inSection, block = .post (World.deviceLost index inSection)
  blocks : ∀ block ∈ screen.mainQueue, ∃ inSection, block = .deleteRow ⟨0, inSection⟩
  deleted : ∀ path ∈ deletedPaths history, path.row = 0
  account : lossesIn screen.world.controller.notificationQueue + screen.mainQueue.length +
    (deletedPaths history).length = losses

namespace WorksOff

variable {screen after : ConnectionScreen} {losses : Nat}
  {history : History ConnectionScreen ConnectionEvent}

/-- A step without a deletion leaves the deletions of the history. -/
theorem deletedPaths_append {event : ConnectionEvent} (h : screen.deletedPath event = none) :
    deletedPaths (history ++ [(screen, event)]) = deletedPaths history := by
  simp [deletedPaths, h]

/-- A delivery turns a loss into a block of the main queue. -/
theorem runNotificationBlock (h : screen.WorksOff losses history) :
    screen.runNotificationBlock.WorksOff losses
      (history ++ [(screen, .controller .runNotificationBlock)]) := by
  have hDeleted := @deletedPaths_append screen history _
    (show screen.deletedPath (.controller .runNotificationBlock) = none from rfl)
  obtain ⟨hVisible, hNotifications, hBlocks, hRows, hAccount⟩ := h
  cases hQueue : screen.world.controller.notificationQueue with
  | nil =>
      rw [runNotificationBlock_of_nil hQueue]
      exact ⟨hVisible, hNotifications, hBlocks, hDeleted ▸ hRows, hDeleted ▸ hAccount⟩
  | cons block rest =>
      rw [hQueue] at hNotifications hAccount
      obtain ⟨hBlock, hRest⟩ := List.forall_mem_cons.mp hNotifications
      rcases hBlock with rfl | ⟨index, inSection, rfl⟩
      · obtain ⟨index, hAfter⟩ := runNotificationBlock_of_refreshConnected hQueue
        rw [hAfter]
        refine ⟨hVisible, hRest, hBlocks, hDeleted ▸ hRows, ?_⟩
        rw [lossesIn_refreshConnected] at hAccount
        rw [hDeleted]
        exact hAccount
      · rw [runNotificationBlock_of_post hQueue]
        obtain ⟨zero, one, hAfter⟩ := @observe_deviceLost { screen with world := { screen.world with
          controller.notificationQueue := rest } } hVisible index inSection
        rw [hAfter]
        refine ⟨hVisible, hRest, ?_, hDeleted ▸ hRows, ?_⟩
        · intro block hMem
          rcases List.mem_append.mp hMem with hMem | hMem
          · exact hBlocks block hMem
          · exact ⟨inSection, List.mem_singleton.mp hMem⟩
        · rw [lossesIn_post] at hAccount
          rw [hDeleted, List.length_append, List.length_singleton]
          change lossesIn rest + (screen.mainQueue.length + 1) + _ = losses
          omega

/-- A block of the main queue turns into a deletion of row 0. -/
theorem runMainBlock (h : screen.WorksOff losses history)
    (hStep : screen.runMainBlock = .ok after) :
    after.WorksOff losses (history ++ [(screen, .runMainBlock)]) := by
  have hVisible := (runMainBlock_frame hStep).2.1.trans h.visible
  obtain ⟨_, hNotifications, hBlocks, hRows, hAccount⟩ := h
  unfold ConnectionScreen.runMainBlock at hStep
  split at hStep
  · rename_i hQueue
    cases hStep
    have hDeleted := @deletedPaths_append screen history _
      (show screen.deletedPath .runMainBlock = none by simp [deletedPath, hQueue])
    exact ⟨hVisible, hNotifications, hBlocks, hDeleted ▸ hRows, hDeleted ▸ hAccount⟩
  · rename_i object rest hQueue
    obtain ⟨_, hBlock⟩ := hBlocks _ (hQueue ▸ List.mem_cons_self)
    cases hBlock
  · rename_i path rest hQueue
    obtain ⟨tableView, _, rfl⟩ := deleteRow_eq_ok hStep
    rw [hQueue] at hBlocks hAccount
    obtain ⟨⟨inSection, hPath⟩, hRest⟩ := List.forall_mem_cons.mp hBlocks
    cases hPath
    have hDeleted : deletedPaths (history ++ [(screen, .runMainBlock)]) =
        deletedPaths history ++ [⟨0, inSection⟩] := by
      simp [deletedPaths, deletedPath, hQueue]
    refine ⟨hVisible, hNotifications, hRest, ?_, ?_⟩
    · intro path hMem
      rw [hDeleted] at hMem
      rcases List.mem_append.mp hMem with hMem | hMem
      · exact hRows path hMem
      · rw [List.mem_singleton.mp hMem]
    · rw [List.length_cons] at hAccount
      rw [hDeleted, List.length_append, List.length_singleton]
      change lossesIn screen.world.controller.notificationQueue + rest.length + _ = losses
      omega

theorem step {event : ConnectionEvent} (h : screen.WorksOff losses history)
    (hQueued : event.isQueued = true) (hStep : connectionStep screen event = .ok after) :
    after.WorksOff losses (history ++ [(screen, event)]) := by
  unfold ConnectionEvent.isQueued at hQueued
  split at hQueued
  · cases hStep
    exact h.runNotificationBlock
  · exact h.runMainBlock hStep
  · cases hQueued

end WorksOff

/-- One loop of a pass queues one notification for each device it removes. -/
theorem lossesIn_lossBlocks (inSection : Int) (devices lost : List CBPeripheral)
    (rest : List NotificationBlock) :
    lossesIn (World.lossBlocks inSection devices lost ++ rest) =
      lost.length + lossesIn rest := by
  induction lost generalizing devices with
  | nil => simp [World.lossBlocks]
  | cons peripheral others ih =>
      rw [World.lossBlocks, List.cons_append, lossesIn_post, ih, List.length_cons]
      omega

theorem mem_lossBlocks {inSection : Int} {devices lost : List CBPeripheral}
    {block : NotificationBlock} (h : block ∈ World.lossBlocks inSection devices lost) :
    ∃ index, block = .post (World.deviceLost index inSection) := by
  rw [World.lossBlocks_eq_map] at h
  obtain ⟨index, _, hBlock⟩ := List.mem_map.mp h
  exact ⟨index, hBlock.symm⟩

/-- At the end of a pass all its losses are notifications. -/
theorem worksOff_of_pass {screen : ConnectionScreen} {world : World} {clock : PassClock}
    (hAgrees : screen.AgreesWithLists)
    (hPass : screen.world.removeExpiredDevices clock = .ok world) :
    WorksOff { screen with world := world } (screen.world.removedDevices clock).length [] := by
  obtain ⟨current, _, _, rfl⟩ := World.removeExpiredDevices_eq_ok hPass
  refine ⟨hAgrees.visible, ?_, ?_, ?_, ?_⟩
  · intro block hBlock
    change block ∈ screen.world.controller.notificationQueue ++ _ at hBlock
    rw [hAgrees.delivered, List.nil_append] at hBlock
    rcases List.mem_append.mp hBlock with hLost | hBlock
    · obtain ⟨index, rfl⟩ := mem_lossBlocks hLost
      exact .inr ⟨index, 0, rfl⟩
    · rcases List.mem_append.mp hBlock with hStale | hLast
      · obtain ⟨index, rfl⟩ := mem_lossBlocks hStale
        exact .inr ⟨index, 1, rfl⟩
      · exact .inl (List.mem_singleton.mp hLast)
  · intro block hBlock
    change block ∈ screen.mainQueue at hBlock
    rw [hAgrees.handled] at hBlock
    cases hBlock
  · nofun
  · change lossesIn (screen.world.controller.notificationQueue ++ _) + screen.mainQueue.length +
      0 = _
    rw [hAgrees.delivered, hAgrees.handled, List.nil_append, lossesIn_lossBlocks,
      lossesIn_lossBlocks, World.removedDevices, List.length_append]
    rfl

end ConnectionScreen

theorem worksOff_of_run {losses : Nat} {passed final : ConnectionScreen}
    {history : History ConnectionScreen ConnectionEvent}
    (run : Run connectionStep passed history final)
    (hStart : passed.WorksOff losses []) (hQueued : ∀ entry ∈ history, entry.2.isQueued = true) :
    final.WorksOff losses history := by
  apply run.induction_of_permitted (fun _ event => event.isQueued = true)
    (fun history screen => screen.WorksOff losses history) hStart ?_ hQueued
  intro history state event after _ hState hEvent hStep
  exact hState.step hEvent hStep

/-- A removed device was shown below the header. -/
theorem row_pos_of_mem_rowsOfRemoved {devices removed : List CBPeripheral} {path : NSIndexPath}
    (h : path ∈ rowsOfRemoved devices removed) : 0 < path.row := by
  induction removed generalizing devices with
  | nil => cases h
  | cons peripheral rest ih =>
      rcases List.mem_cons.mp h with rfl | hRest
      · exact Int.lt_add_one_of_le (Int.natCast_nonneg _)
      · exact ih hRest

/-- A pass that changes the list of discovered devices removes some of them. -/
theorem removedDevices_ne_nil {world after : World} {clock : PassClock}
    (hPass : world.removeExpiredDevices clock = .ok after)
    (hLost : after.controller.discoveredDevicesArray ≠ world.controller.discoveredDevicesArray) :
    world.removedDevices clock ≠ [] := by
  intro hNone
  obtain ⟨current, _, _, rfl⟩ := World.removeExpiredDevices_eq_ok hPass
  obtain ⟨hFirst, hSecond⟩ := List.append_eq_nil_iff.mp hNone
  exact hLost (by simp [hFirst, hSecond])

/-- A pass that removes a device from the list of a visible screen that agrees with it is
never handled, in whichever order the queues run: once they are empty some row 0 has been
deleted, where no device was shown. -/
theorem losses_never_handled {screen passed : ConnectionScreen} {clock : PassClock}
    {schedule : List ConnectionEvent} (hAgrees : screen.AgreesWithLists)
    (hPass : connectionStep screen (.controller (.removeExpiredDevices clock)) = .ok passed)
    (hLost : passed.world.controller.discoveredDevicesArray ≠
      screen.world.controller.discoveredDevicesArray)
    (hQueued : ∀ event ∈ schedule, event.isQueued = true)
    (hComplete : ∀ final, exec connectionStep passed schedule = .ok final → final.Settled) :
    ¬ screen.LossesHandled passed clock schedule := by
  rintro ⟨final, hExec, hPrefix, _, _⟩
  obtain ⟨world, hWorld, hPassed⟩ := bind_eq_ok.mp hPass
  cases hPassed
  have hWorksOff := worksOff_of_run (run_of_exec hExec)
    (ConnectionScreen.worksOff_of_pass hAgrees hWorld)
    fun entry hEntry => hQueued entry.2 (action_mem_of_mem_historyOf hEntry)
  have hAccount := hWorksOff.account
  obtain ⟨hDelivered, hHandled⟩ := hComplete final hExec
  rw [hDelivered, hHandled] at hAccount
  cases hDeleted :
      deletedPaths (historyOf connectionStep { screen with world := world } schedule) with
  | nil =>
      rw [hDeleted] at hAccount
      exact removedDevices_ne_nil hWorld hLost (List.eq_nil_of_length_eq_zero hAccount.symm)
  | cons path rest =>
      have hMem : path ∈ deletedPaths
          (historyOf connectionStep { screen with world := world } schedule) := by
        rw [hDeleted]
        exact List.mem_cons_self
      have hZero := hWorksOff.deleted path hMem
      have hPos := row_pos_of_mem_rowsOfRemoved (hPrefix.subset hMem)
      omega

/-- Two devices are discovered, the first of them is selected, and the screen appears
when both notifications are gone. -/
def selectThenAppear : List ConnectionEvent :=
  [.controller (.didDiscoverPeripheral frontDoor ⟨100, 20⟩),
    .controller (.didDiscoverPeripheral backDoor ⟨5, 0⟩),
    .controller (.selectPeripheralAtIndex (.position 0) 1),
    .controller .runNotificationBlock, .controller .runNotificationBlock,
    .viewWillAppear, .viewDidAppear]

/-- The shifted date of the second device lies below the current date. -/
def passAtFifty : PassClock := ⟨⟨50, 40⟩, fun n => 40 + 30 * n⟩

/-- The loss, its block, and the last block of the pass. -/
def workOff : List ConnectionEvent :=
  [.controller .runNotificationBlock, .runMainBlock, .controller .runNotificationBlock]

theorem loss_of_second_device_not_handled :
    ∃ screen passed, exec connectionStep freshConnectionScreen selectThenAppear = .ok screen ∧
      connectionStep screen (.controller (.removeExpiredDevices passAtFifty)) = .ok passed ∧
      screen.world.removedDevices passAtFifty = [backDoor] ∧
      ¬ screen.LossesHandled passed passAtFifty workOff := by
  have hFinal : ∃ screen passed final,
      exec connectionStep freshConnectionScreen selectThenAppear = .ok screen ∧
      connectionStep screen (.controller (.removeExpiredDevices passAtFifty)) = .ok passed ∧
      exec connectionStep passed workOff = .ok final ∧ screen.AgreesWithLists ∧
      screen.world.removedDevices passAtFifty = [backDoor] ∧
      passed.world.controller.discoveredDevicesArray ≠
        screen.world.controller.discoveredDevicesArray ∧ final.Settled :=
    ⟨_, _, _, rfl, rfl, rfl, ⟨rfl, rfl, rfl, rfl, rfl, rfl⟩, by decide, by decide, rfl, rfl⟩
  obtain ⟨screen, passed, final, hExec, hPass, hWorkOff, hAgrees, hRemoved, hLost, hSettled⟩ :=
    hFinal
  refine ⟨screen, passed, hExec, hPass, hRemoved, ?_⟩
  have hComplete : ∀ other, exec connectionStep passed workOff = .ok other → other.Settled := by
    intro other hOther
    cases hWorkOff.symm.trans hOther
    exact hSettled
  exact losses_never_handled hAgrees hPass hLost (by decide) hComplete

/-- The header of the other section is deleted, and both counts are wrong after it. -/
theorem loss_deletes_the_other_header :
    ∃ screen passed final,
      exec connectionStep freshConnectionScreen selectThenAppear = .ok screen ∧
      screen.AgreesWithLists ∧
      connectionStep screen (.controller (.removeExpiredDevices passAtFifty)) = .ok passed ∧
      exec connectionStep passed workOff = .ok final ∧ final.Settled ∧
      deletedPaths (historyOf connectionStep passed workOff) = [⟨0, 0⟩] ∧
      rowsOfRemoved screen.world.controller.discoveredDevicesArray
        (screen.world.removedDevices passAtFifty) = [⟨1, 1⟩] ∧
      final.numberOfRowsInSectionZero = 1 ∧ ConnectionScreen.recount final.world 0 = 2 ∧
      final.numberofRowsInSectionOne = 2 ∧ ConnectionScreen.recount final.world 1 = 0 ∧
      ¬ screen.LossesHandled passed passAtFifty workOff := by
  refine ⟨_, _, _, rfl, ⟨rfl, rfl, rfl, rfl, rfl, rfl⟩, rfl, rfl, ⟨rfl, rfl⟩, by decide,
    by decide, rfl, rfl, rfl, rfl, ?_⟩
  rintro ⟨_, _, hPrefix, _⟩
  exact absurd hPrefix (by decide)

end LockJaw
