import LockJaw.Connection.Screen

/-! The row counts against a full recount. What a section's count owes to its list is
conserved by discoveries, deliveries and main-queue blocks; it is changed by an
appearance, which counts devices whose notification is still under way, and by a
selection that moves a device from one section to the other. -/
namespace LockJaw

open Cocoa Semantics

/-- The blocks that `notificationQueue` holds as long as no expiration pass runs. -/
def discoveryBlocks : List NotificationBlock :=
  [.post (.newBluetoothDeviceDiscovered 0), .post (.newBluetoothDeviceDiscovered 1),
    .post .locked, .post .unlocked]

/-- The blocks that no pass posts are those of discoveries and of links. -/
theorem mem_discoveryBlocks {block : NotificationBlock} :
    block ∈ discoveryBlocks ↔
      (∃ inSection, (inSection = 0 ∨ inSection = 1) ∧
        block = .post (.newBluetoothDeviceDiscovered inSection)) ∨
      block = .post .locked ∨ block = .post .unlocked := by
  simp [discoveryBlocks, or_and_right, exists_or, or_assoc]

/-- The section a step selects in, if it is a selection. -/
def ControllerEvent.selectedSection : ControllerEvent → Option Int
  | .selectPeripheralAtIndex _ inSection => some inSection
  | _ => none

def ConnectionEvent.selectedSection : ConnectionEvent → Option Int
  | .controller event => event.selectedSection
  | .didSelectRow path => some path.inSection
  | _ => none

def ConnectionEvent.isPass : ConnectionEvent → Bool
  | .controller (.removeExpiredDevices _) => true
  | _ => false

/-- One device moves from section 1 to section 0 in a selection on section 1. -/
def movedBy (selectedSection : Option Int) : Int := if selectedSection = some 1 then 1 else 0

namespace World

variable {world after : World}

/-- The discoveries of a section that are posted but not delivered. -/
def posted (world : World) (inSection : Int) : Int :=
  world.controller.notificationQueue.count (.post (.newBluetoothDeviceDiscovered inSection))

/-- How a step changes the queue and the two lists it feeds. -/
structure Counts (world after : World) (moved : Int) : Prop where
  queued : ∃ added ⊆ discoveryBlocks,
    after.controller.notificationQueue = world.controller.notificationQueue ++ added
  known : after.posted 0 - after.numberOfDevicesInSection 0 =
    world.posted 0 - world.numberOfDevicesInSection 0 - moved
  discovered : after.posted 1 - after.numberOfDevicesInSection 1 =
    world.posted 1 - world.numberOfDevicesInSection 1 + moved

/-- A step that touches neither the queue nor the two lists. -/
theorem Counts.unchanged
    (hQueue : after.controller.notificationQueue = world.controller.notificationQueue)
    (hKnown : after.controller.knownDevicesArray = world.controller.knownDevicesArray)
    (hDiscovered :
      after.controller.discoveredDevicesArray = world.controller.discoveredDevicesArray) :
    Counts world after 0 where
  queued := ⟨[], by simp, by simp [hQueue]⟩
  known := by simp [posted, numberOfDevicesInSection, hQueue, hKnown]
  discovered := by simp [posted, numberOfDevicesInSection, hQueue, hDiscovered]

/-- A block that announces no discovery. -/
theorem Counts.dispatchAsync {block : NotificationBlock} (hBlock : block ∈ discoveryBlocks)
    (hOther : ∀ inSection, block ≠ .post (.newBluetoothDeviceDiscovered inSection)) :
    Counts world (world.dispatchAsync block) 0 where
  queued := ⟨[block], by simpa using hBlock, rfl⟩
  known := by
    simp [posted, World.dispatchAsync, List.count_append, hOther, numberOfDevicesInSection]
  discovered := by
    simp [posted, World.dispatchAsync, List.count_append, hOther, numberOfDevicesInSection]

/-- A discovery lists one device for each that it announces. -/
theorem didDiscoverPeripheral_counts (peripheral : CBPeripheral) (now : NSDate) :
    Counts world (world.didDiscoverPeripheral peripheral now) 0 := by
  by_cases hName : (world.peripherals peripheral).name = none
  · rw [didDiscoverPeripheral_of_unnamed hName]
    exact .unchanged rfl rfl rfl
  by_cases hSeen : world.Seen peripheral
  · rw [didDiscoverPeripheral_of_seen hName hSeen]
    exact .unchanged rfl rfl rfl
  by_cases hRecord : world.HasRecord peripheral
  · rw [didDiscoverPeripheral_of_record hName hSeen hRecord]
    refine ⟨⟨[.post (.newBluetoothDeviceDiscovered 0)], by simp [discoveryBlocks], rfl⟩, ?_, ?_⟩
    · simp [posted, setDictionaryEntry, listKnown, dispatchAsync, List.count_append,
        numberOfDevicesInSection]
    · simp [posted, setDictionaryEntry, listKnown, dispatchAsync, List.count_append,
        numberOfDevicesInSection]
  · rw [didDiscoverPeripheral_of_no_record hName hSeen hRecord]
    refine ⟨⟨[.post (.newBluetoothDeviceDiscovered 1)], by simp [discoveryBlocks], rfl⟩, ?_, ?_⟩
    · simp [posted, setDictionaryEntry, listDiscovered, dispatchAsync, List.count_append,
        numberOfDevicesInSection]
    · simp [posted, setDictionaryEntry, listDiscovered, dispatchAsync, List.count_append,
        numberOfDevicesInSection]

/-- The end of a selection changes neither the two lists nor the queue. -/
theorem Counts.selectConnected {moved : Int} (h : Counts world after moved)
    (peripheral : CBPeripheral) : Counts world (after.selectConnected peripheral) moved := by
  obtain ⟨hQueued, hKnown, hDiscovered⟩ := h
  unfold World.selectConnected
  split
  · exact ⟨hQueued, hKnown, hDiscovered⟩
  · exact ⟨hQueued, hKnown, hDiscovered⟩

/-- A selection announces nothing, and moves a device if it is of section 1. -/
theorem selectPeripheralAtIndex_counts {index : NSIndex} {inSection : Int}
    (hStep : world.selectPeripheralAtIndex index inSection = .ok after) :
    Counts world after (movedBy (some inSection)) := by
  rcases selectPeripheralAtIndex_cases hStep with ⟨rfl, n, peripheral, _, _, rfl⟩ |
    ⟨rfl, n, peripheral, _, hGet, rfl⟩ | ⟨_, hOne, rfl⟩
  · exact (Counts.unchanged rfl rfl rfl).selectConnected peripheral
  · have hBound := (List.getElem?_eq_some_iff.mp hGet).1
    refine Counts.selectConnected ⟨⟨[], by simp, by simp [moveToKnown, persistPeripheral]⟩,
      ?_, ?_⟩ peripheral
    · simp [posted, moveToKnown, persistPeripheral, numberOfDevicesInSection, movedBy]
      omega
    · simp [posted, moveToKnown, persistPeripheral, numberOfDevicesInSection, movedBy,
        List.length_eraseIdx, hBound]
      omega
  · have hMoved : movedBy (some inSection) = 0 := by simp [movedBy, hOne]
    rw [hMoved]
    exact .unchanged rfl rfl rfl

/-- Every step but a pass and a delivery keeps the account. -/
theorem step_counts {event : ControllerEvent} (hStep : world.step event = .ok after)
    (hPass : ∀ clock, event ≠ .removeExpiredDevices clock)
    (hDelivery : event ≠ .runNotificationBlock) :
    Counts world after (movedBy event.selectedSection) := by
  cases event with
  | didDiscoverPeripheral peripheral now =>
      cases hStep
      exact didDiscoverPeripheral_counts peripheral now
  | selectPeripheralAtIndex index inSection => exact selectPeripheralAtIndex_counts hStep
  | removeExpiredDevices clock => exact absurd rfl (hPass clock)
  | runNotificationBlock => exact absurd rfl hDelivery
  | didConnectPeripheral =>
      cases hStep
      exact .dispatchAsync (by simp [discoveryBlocks]) (by simp)
  | didDisconnectPeripheral =>
      cases hStep
      exact .dispatchAsync (by simp [discoveryBlocks]) (by simp)
  | centralManagerDidUpdateState state =>
      cases hStep
      cases state <;> exact .unchanged rfl rfl rfl
  | beginScanning =>
      cases hStep
      unfold beginScanning
      split <;> exact .unchanged rfl rfl rfl
  | lockDevice =>
      obtain ⟨peripheral, hDesignates⟩ := designates_of_lockDevice hStep
      change world.lockDevice = _ at hStep
      rw [lockDevice_of_designates hDesignates] at hStep
      cases hStep
      split <;> exact .unchanged rfl rfl rfl
  | unlockDevice =>
      obtain ⟨peripheral, hDesignates⟩ := designates_of_unlockDevice hStep
      change world.unlockDevice = _ at hStep
      rw [unlockDevice_of_designates hDesignates] at hStep
      cases hStep
      split <;> exact .unchanged rfl rfl rfl
  | peripheralChanges peripheral name link =>
      cases hStep
      exact .unchanged rfl rfl rfl

end World

namespace ConnectionScreen

/-- The count of a section after one more device row, with the header it may need. -/
def rowsAfterInsert (count : Int) : Int := if count = 0 then 2 else count + 1

section Blocks
variable {screen after : ConnectionScreen}

/-- An insertion that does not raise changes the table alone. -/
theorem insertRow_eq_ok {path : NSIndexPath} (h : screen.insertRow path = .ok after) :
    ∃ tableView,
      screen.tableView.insertRow tableSections screen.numberOfRows path = .ok tableView ∧
      after = screen.setTableView tableView := by
  obtain ⟨tableView, hTable, hAfter⟩ := bind_eq_ok.mp h
  cases hAfter
  exact ⟨tableView, hTable, rfl⟩

theorem numberOfRows_setNumberOfRows (screen : ConnectionScreen) {inSection : Int}
    (hSection : inSection = 0 ∨ inSection = 1) (count other : Int) :
    (screen.setNumberOfRows inSection count).numberOfRows other =
      if other = inSection then count else screen.numberOfRows other := by
  rcases hSection with rfl | rfl
  · by_cases hZero : other = 0 <;> simp [setNumberOfRows, numberOfRows, hZero]
  · by_cases hOne : other = 1 <;> simp [setNumberOfRows, numberOfRows, hOne]

/-- A deletion that does not raise changes the table alone. -/
theorem deleteRow_eq_ok {path : NSIndexPath} (h : screen.deleteRow path = .ok after) :
    ∃ tableView,
      screen.tableView.deleteRow tableSections screen.numberOfRows path = .ok tableView ∧
      after = screen.setTableView tableView := by
  obtain ⟨tableView, hTable, hAfter⟩ := bind_eq_ok.mp h
  cases hAfter
  exact ⟨tableView, hTable, rfl⟩

/-- A block of `newBluetoothDevice:` adds a row to its section's count. -/
theorem newBluetoothDevice_eq_ok {inSection : Int}
    (h : screen.newBluetoothDevice inSection = .ok after) :
    (inSection = 0 ∨ inSection = 1) ∧ ∃ tableView, after =
      (screen.setNumberOfRows inSection
        (rowsAfterInsert (screen.numberOfRows inSection))).setTableView tableView := by
  unfold newBluetoothDevice at h
  split at h
  · rename_i hSection
    refine ⟨hSection, ?_⟩
    split at h
    · rename_i hEmpty
      obtain ⟨middle, hHeader, hDevice⟩ := bind_eq_ok.mp h
      obtain ⟨_, _, rfl⟩ := insertRow_eq_ok hHeader
      obtain ⟨tableView, _, rfl⟩ := insertRow_eq_ok hDevice
      refine ⟨tableView, ?_⟩
      rw [hEmpty]
      rcases hSection with rfl | rfl
      · rfl
      · rfl
    · rename_i hRows
      obtain ⟨tableView, _, rfl⟩ := insertRow_eq_ok h
      exact ⟨tableView, by rw [rowsAfterInsert, if_neg hRows]⟩
  · cases h

/-- A block leaves its queue, and changes nothing but the table and its counts. -/
theorem runMainBlock_frame (hStep : screen.runMainBlock = .ok after) :
    after.world = screen.world ∧ after.appearance = screen.appearance ∧
      after.mainQueue = screen.mainQueue.tail := by
  unfold runMainBlock at hStep
  split at hStep
  · rename_i hQueue
    cases hStep
    exact ⟨rfl, rfl, by rw [hQueue, List.tail_nil]⟩
  · rename_i object rest hQueue
    obtain ⟨_, tableView, rfl⟩ := newBluetoothDevice_eq_ok hStep
    simp [hQueue]
  · rename_i path rest hQueue
    obtain ⟨tableView, _, rfl⟩ := deleteRow_eq_ok hStep
    simp [hQueue]

end Blocks

/-- The rows of a section without its header. -/
def deviceRows (count : Int) : Int := if count = 0 then 0 else count - 1

/-- The discoveries of a section on their way to the table: notifications not yet
delivered, and blocks not yet run. -/
def pending (screen : ConnectionScreen) (inSection : Int) : Int :=
  screen.world.posted inSection + screen.mainQueue.count (.newBluetoothDevice inSection)

/-- What the rows of a section, once everything pending has arrived, exceed its list by. -/
def excess (screen : ConnectionScreen) (inSection : Int) : Int :=
  deviceRows (screen.numberOfRows inSection) + screen.pending inSection -
    screen.world.numberOfDevicesInSection inSection

/-- What holds of the queues and the counts as long as no pass runs. A count stands
for at least one device and a header, or for nothing. -/
structure PassFree (screen : ConnectionScreen) : Prop where
  queue : screen.world.controller.notificationQueue ⊆ discoveryBlocks
  blocks : screen.mainQueue ⊆ [.newBluetoothDevice 0, .newBluetoothDevice 1]
  encoded : ∀ inSection,
    screen.numberOfRows inSection = 0 ∨ 2 ≤ screen.numberOfRows inSection

/-- An inserted row is one device more, the header of a first one apart. -/
theorem deviceRows_rowsAfterInsert {count : Int} (h : count = 0 ∨ 2 ≤ count) :
    deviceRows (rowsAfterInsert count) = deviceRows count + 1 := by
  unfold deviceRows rowsAfterInsert
  split <;> split <;> omega

theorem numberOfDevicesInSection_nonneg (world : World) (inSection : Int) :
    0 ≤ world.numberOfDevicesInSection inSection := by
  unfold World.numberOfDevicesInSection
  split <;> exact Int.natCast_nonneg _

section Delivery
variable {screen : ConnectionScreen} {rest : List NotificationBlock}

theorem runNotificationBlock_of_nil (h : screen.world.controller.notificationQueue = []) :
    screen.runNotificationBlock = screen := by
  simp [runNotificationBlock, World.runNotificationBlock, h]

/-- A block that posts leaves the queue, and its observers run. -/
theorem runNotificationBlock_of_post {posted : NSNotification}
    (h : screen.world.controller.notificationQueue = .post posted :: rest) :
    screen.runNotificationBlock =
      { screen with
        world := { screen.world with
          controller.notificationQueue := rest } }.observe posted := by
  simp [runNotificationBlock, World.runNotificationBlock, h]

end Delivery

namespace PassFree

variable {screen after : ConnectionScreen} {event : ConnectionEvent}

/-- A delivery queues no block of a pass. -/
theorem runNotificationBlock (h : screen.PassFree) : screen.runNotificationBlock.PassFree := by
  cases hQueue : screen.world.controller.notificationQueue with
  | nil =>
      rw [runNotificationBlock_of_nil hQueue]
      exact h
  | cons block rest =>
      have hSubset := h.queue
      rw [hQueue, List.cons_subset] at hSubset
      obtain ⟨hBlock, hRest⟩ := hSubset
      rcases mem_discoveryBlocks.mp hBlock with ⟨inSection, hSection, rfl⟩ | rfl | rfl
      · rw [runNotificationBlock_of_post hQueue, observe]
        split
        · exact ⟨hRest, h.blocks, h.encoded⟩
        · refine ⟨hRest, ?_, h.encoded⟩
          rcases hSection with rfl | rfl
          · simpa using h.blocks
          · simpa using h.blocks
      · rw [runNotificationBlock_of_post hQueue]
        exact ⟨hRest, h.blocks, h.encoded⟩
      · rw [runNotificationBlock_of_post hQueue]
        exact ⟨hRest, h.blocks, h.encoded⟩

/-- A step of the controller may append to the queue, and nothing else. -/
theorem of_counts (h : screen.PassFree) {world : World} {moved : Int}
    (hCounts : World.Counts screen.world world moved) :
    PassFree { screen with world := world } := by
  obtain ⟨added, hAdded, hQueue⟩ := hCounts.queued
  refine ⟨?_, h.blocks, h.encoded⟩
  rw [hQueue, List.append_subset]
  exact ⟨h.queue, hAdded⟩

/-- Neither does a block of the main queue. -/
theorem runMainBlock (h : screen.PassFree) (hStep : screen.runMainBlock = .ok after) :
    after.PassFree := by
  obtain ⟨hWorld, _, hBlocks⟩ := runMainBlock_frame hStep
  refine ⟨hWorld ▸ h.queue, ?_, ?_⟩
  · rw [hBlocks]
    exact List.Subset.trans (List.tail_subset _) h.blocks
  intro inSection
  unfold ConnectionScreen.runMainBlock at hStep
  split at hStep
  · cases hStep
    exact h.encoded inSection
  · rename_i object rest hQueue
    obtain ⟨hSection, tableView, rfl⟩ := newBluetoothDevice_eq_ok hStep
    rw [setTableView_numberOfRows, numberOfRows_setNumberOfRows _ hSection]
    split
    · have hCount := h.encoded object
      change rowsAfterInsert (screen.numberOfRows object) = 0 ∨
        2 ≤ rowsAfterInsert (screen.numberOfRows object)
      unfold rowsAfterInsert
      split <;> omega
    · exact h.encoded inSection
  · rename_i path rest hQueue
    have hHead := h.blocks (hQueue ▸ List.mem_cons_self)
    simp at hHead

/-- Nor does an appearance. -/
theorem viewDidAppear (h : screen.PassFree) : screen.viewDidAppear.PassFree := by
  refine ⟨h.queue, h.blocks, ?_⟩
  intro inSection
  have hEncoded : ∀ other, recount screen.world other = 0 ∨
      2 ≤ recount screen.world other := by
    intro other
    have hCount := numberOfDevicesInSection_nonneg screen.world other
    simp only [recount]
    split <;> omega
  change numberOfRows _ inSection = 0 ∨ 2 ≤ numberOfRows _ inSection
  unfold numberOfRows
  split
  · exact hEncoded 0
  · split
    · exact hEncoded 1
    · exact .inl rfl

/-- Nor does any event but a pass. -/
theorem step (h : screen.PassFree) (hStep : connectionStep screen event = .ok after)
    (hPass : event.isPass = false) : after.PassFree := by
  cases connectionStep_takes hStep with
  | delivery => exact h.runNotificationBlock
  | controller event world hDelivery hWorld =>
      have hNoPass : ∀ clock, event ≠ .removeExpiredDevices clock := by
        rintro clock rfl
        cases hPass
      exact h.of_counts (World.step_counts hWorld hNoPass hDelivery)
  | mainBlock _ hBlock => exact h.runMainBlock hBlock
  | selection path world transitions hWorld =>
      have hNext := h.of_counts (World.selectPeripheralAtIndex_counts hWorld)
      exact ⟨hNext.queue, hNext.blocks, hNext.encoded⟩
  | drawing => exact ⟨h.queue, h.blocks, h.encoded⟩
  | noRow => exact h
  | appearance => exact h.viewDidAppear
  | turning => exact ⟨h.queue, h.blocks, h.encoded⟩
  | outOfTurn => exact h

end PassFree

/-- How a step of an appeared screen changes the excess of the two sections. -/
structure Moves (screen after : ConnectionScreen) (moved : Int) : Prop where
  known : after.excess 0 = screen.excess 0 - moved
  discovered : after.excess 1 = screen.excess 1 + moved

namespace Moves

variable {screen after : ConnectionScreen} {event : ConnectionEvent}

/-- A step that leaves the excess alone moves nothing. -/
theorem unchanged (h : ∀ inSection, after.excess inSection = screen.excess inSection) :
    Moves screen after 0 := by
  refine ⟨?_, ?_⟩
  · rw [h, Int.sub_zero]
  · rw [h, Int.add_zero]

/-- What the controller announces is pending, so nothing but a move changes the excess. -/
theorem of_counts {world : World} {moved : Int}
    (hCounts : World.Counts screen.world world moved)
    (transitions : List ViewControllerClass) :
    Moves screen { screen with world := world, transitions := transitions } moved := by
  have hKnown := hCounts.known
  have hDiscovered := hCounts.discovered
  refine ⟨?_, ?_⟩
  · change deviceRows (screen.numberOfRows 0) + (world.posted 0 + _) - _ = _
    simp only [excess, pending]
    omega
  · change deviceRows (screen.numberOfRows 1) + (world.posted 1 + _) - _ = _
    simp only [excess, pending]
    omega

end Moves

/-- The observer queues one block for its section. -/
theorem excess_observe {screen : ConnectionScreen} {object : Int}
    (hObserves : screen.appearance ≠ .hidden) (inSection : Int) :
    (screen.observe (.newBluetoothDeviceDiscovered object)).excess inSection =
      screen.excess inSection + if object = inSection then 1 else 0 := by
  have hBlocks : (screen.mainQueue ++ [MainBlock.newBluetoothDevice object]).count
      (.newBluetoothDevice inSection) =
      screen.mainQueue.count (.newBluetoothDevice inSection) +
        if object = inSection then 1 else 0 := by
    simp [List.count_append, List.count_cons]
  simp only [observe, if_neg hObserves, excess, pending, hBlocks, numberOfRows]
  split <;> simp <;> omega

/-- Taking a notification off the queue, before it is observed. -/
theorem excess_take {screen : ConnectionScreen} {object : Int} {rest : List NotificationBlock}
    (hQueue : screen.world.controller.notificationQueue =
      .post (.newBluetoothDeviceDiscovered object) :: rest) (inSection : Int) :
    excess { screen with
        world := { screen.world with
          controller.notificationQueue := rest } } inSection =
      screen.excess inSection - if object = inSection then 1 else 0 := by
  simp only [excess, pending, World.posted, World.numberOfDevicesInSection, numberOfRows, hQueue,
    List.count_cons]
  split <;> simp_all <;> omega

namespace Moves

variable {screen after : ConnectionScreen} {event : ConnectionEvent}

/-- A delivery turns a pending notification into a pending block. -/
theorem runNotificationBlock (hFree : screen.PassFree)
    (hAppeared : screen.appearance = .appeared) :
    Moves screen screen.runNotificationBlock 0 := by
  apply unchanged
  intro inSection
  cases hQueue : screen.world.controller.notificationQueue with
  | nil => rw [runNotificationBlock_of_nil hQueue]
  | cons block rest =>
      have hBlock := hFree.queue (hQueue ▸ List.mem_cons_self)
      rcases mem_discoveryBlocks.mp hBlock with ⟨object, _, rfl⟩ | rfl | rfl
      · rw [runNotificationBlock_of_post hQueue, excess_observe (by simp [hAppeared]),
          excess_take hQueue]
        omega
      · rw [runNotificationBlock_of_post hQueue]
        simp [observe, excess, pending, World.posted, hQueue, numberOfRows,
          World.numberOfDevicesInSection]
      · rw [runNotificationBlock_of_post hQueue]
        simp [observe, excess, pending, World.posted, hQueue, numberOfRows,
          World.numberOfDevicesInSection]

/-- A block turns a pending device into a row. -/
theorem runMainBlock (hFree : screen.PassFree) (hStep : screen.runMainBlock = .ok after) :
    Moves screen after 0 := by
  apply unchanged
  intro inSection
  unfold ConnectionScreen.runMainBlock at hStep
  split at hStep
  · cases hStep
    rfl
  · rename_i object rest hQueue
    obtain ⟨hSection, tableView, rfl⟩ := newBluetoothDevice_eq_ok hStep
    have hAfter : excess ((setNumberOfRows { screen with mainQueue := rest } object
        (rowsAfterInsert (screen.numberOfRows object))).setTableView tableView) inSection =
        deviceRows (if inSection = object then rowsAfterInsert (screen.numberOfRows object)
          else screen.numberOfRows inSection) +
        (screen.world.posted inSection +
          (rest.count (MainBlock.newBluetoothDevice inSection) : Nat)) -
        screen.world.numberOfDevicesInSection inSection := by
      rw [excess, setTableView_numberOfRows, numberOfRows_setNumberOfRows _ hSection, pending]
      simp only [setTableView_world, setTableView_mainQueue, setNumberOfRows_world,
        setNumberOfRows_mainQueue]
      rfl
    have hInserted := deviceRows_rowsAfterInsert (hFree.encoded object)
    change excess ((setNumberOfRows { screen with mainQueue := rest } object
      (rowsAfterInsert (screen.numberOfRows object))).setTableView tableView) inSection = _
    rw [hAfter, excess, pending, hQueue, List.count_cons]
    by_cases hSame : inSection = object
    · subst hSame
      simp only [↓reduceIte, BEq.rfl]
      omega
    · have hOther : ¬ object = inSection := fun h => hSame h.symm
      simp [hSame, hOther]
  · rename_i path rest hQueue
    have hHead := hFree.blocks (hQueue ▸ List.mem_cons_self)
    simp at hHead

/-- Without a pass nothing but a selection in section 1 changes the excess. -/
theorem step (hFree : screen.PassFree) (hStep : connectionStep screen event = .ok after)
    (hPass : event.isPass = false) (hAppeared : screen.appearance = .appeared)
    (hStays : after.appearance = .appeared) :
    Moves screen after (movedBy event.selectedSection) := by
  cases connectionStep_takes hStep with
  | delivery => exact runNotificationBlock hFree hAppeared
  | controller event world hDelivery hWorld =>
      have hNoPass : ∀ clock, event ≠ .removeExpiredDevices clock := by
        rintro clock rfl
        cases hPass
      exact of_counts (World.step_counts hWorld hNoPass hDelivery) screen.transitions
  | mainBlock _ hBlock => exact runMainBlock hFree hBlock
  | selection path world transitions hWorld =>
      exact of_counts (World.selectPeripheralAtIndex_counts hWorld) transitions
  | drawing => exact unchanged fun _ => rfl
  | noRow => exact unchanged fun _ => rfl
  | appearance hAppearing =>
      rw [hAppeared] at hAppearing
      cases hAppearing
  | turning _ _ _ hAfter => exact absurd hStays hAfter
  | outOfTurn _ hEvent =>
      have hNone : movedBy event.selectedSection = 0 := by
        rcases hEvent with rfl | rfl | rfl <;> rfl
      rw [hNone]
      exact unchanged fun _ => rfl

end Moves

/-- No discovery notification and no block for one is on its way. -/
def Quiet (screen : ConnectionScreen) : Prop :=
  ∀ object,
    .post (.newBluetoothDeviceDiscovered object) ∉ screen.world.controller.notificationQueue ∧
    .newBluetoothDevice object ∉ screen.mainQueue

theorem pending_nonneg (screen : ConnectionScreen) (inSection : Int) :
    0 ≤ screen.pending inSection := by
  unfold pending World.posted
  omega

/-- At first nothing is on its way. -/
theorem passFree_viewDidLoad {world : World} {hasDelegate : Bool}
    (hInit : world.controller = .init) : (viewDidLoad world hasDelegate).PassFree := by
  have hQueue : world.beginScanning.controller.notificationQueue = [] := by
    unfold World.beginScanning
    split <;> simp [World.send, hInit, LKJBluetoothController.init]
  refine ⟨?_, by simp [viewDidLoad], ?_⟩
  · change world.beginScanning.controller.notificationQueue ⊆ _
    simp [hQueue]
  · intro inSection
    left
    simp [numberOfRows, viewDidLoad]

/-- A recount counts the devices. -/
theorem deviceRows_recount (world : World) (inSection : Int) :
    deviceRows (recount world inSection) = world.numberOfDevicesInSection inSection := by
  have hCount := numberOfDevicesInSection_nonneg world inSection
  simp only [deviceRows, recount]
  split <;> split <;> omega

/-- A count of the right form is the recount when it counts the devices. -/
theorem eq_recount_iff {world : World} {inSection count : Int}
    (hEncoded : count = 0 ∨ 2 ≤ count) :
    count = recount world inSection ↔
      deviceRows count = world.numberOfDevicesInSection inSection := by
  have hCount := numberOfDevicesInSection_nonneg world inSection
  simp only [deviceRows, recount]
  split <;> split <;> omega

/-- With nothing pending, the counts are right when nothing is in excess. -/
theorem rows_eq_recount_iff {screen : ConnectionScreen} (hFree : screen.PassFree)
    (hPending : screen.pending 0 = 0 ∧ screen.pending 1 = 0) :
    (screen.numberOfRowsInSectionZero = recount screen.world 0 ∧
      screen.numberofRowsInSectionOne = recount screen.world 1) ↔
    screen.excess 0 = 0 ∧ screen.excess 1 = 0 := by
  change screen.numberOfRows 0 = _ ∧ screen.numberOfRows 1 = _ ↔ _
  rw [eq_recount_iff (hFree.encoded 0), eq_recount_iff (hFree.encoded 1), excess, excess,
    hPending.1, hPending.2]
  omega

section Appearances
variable {screen after : ConnectionScreen} {event : ConnectionEvent}

/-- Nothing is on its way exactly when no row is. -/
theorem quiet_iff (hFree : screen.PassFree) :
    screen.Quiet ↔ screen.pending 0 = 0 ∧ screen.pending 1 = 0 := by
  have hPending : ∀ inSection, screen.pending inSection = 0 ↔
      .post (.newBluetoothDeviceDiscovered inSection) ∉
        screen.world.controller.notificationQueue ∧
      .newBluetoothDevice inSection ∉ screen.mainQueue := by
    intro inSection
    rw [pending, World.posted, ← List.count_eq_zero, ← List.count_eq_zero]
    omega
  rw [hPending, hPending]
  constructor
  · exact fun hQuiet => ⟨hQuiet 0, hQuiet 1⟩
  · rintro ⟨hZero, hOne⟩ object
    constructor
    · intro hPost
      rcases mem_discoveryBlocks.mp (hFree.queue hPost) with ⟨_, rfl | rfl, hEq⟩ | hEq | hEq
      · cases hEq
        exact hZero.1 hPost
      · cases hEq
        exact hOne.1 hPost
      · cases hEq
      · cases hEq
    · intro hBlock
      have hKind := hFree.blocks hBlock
      simp only [List.mem_cons, List.not_mem_nil, or_false] at hKind
      rcases hKind with hEq | hEq
      · cases hEq
        exact hZero.2 hBlock
      · cases hEq
        exact hOne.2 hBlock

/-- No notification shows or hides the screen. -/
theorem appearance_observe (posted : NSNotification) :
    (screen.observe posted).appearance = screen.appearance := by
  cases posted with
  | newBluetoothDeviceDiscovered object =>
      simp only [observe]
      split <;> rfl
  | bluetoothDeviceLost object =>
      simp only [observe]
      split
      · rfl
      · simp only [lostBluetoothDevice]
        split <;> rfl
  | shouldRefreshConnectedBluetoothDevices object => rfl
  | locked => rfl
  | unlocked => rfl

theorem appearance_runNotificationBlock :
    screen.runNotificationBlock.appearance = screen.appearance := by
  simp only [ConnectionScreen.runNotificationBlock]
  split
  · rw [appearance_observe]
  · rfl

/-- A screen appears by `viewDidAppear:` alone. -/
theorem appeared_before (hStep : connectionStep screen event = .ok after)
    (hAppeared : after.appearance = .appeared) :
    screen.appearance = .appeared ∨
      event = .viewDidAppear ∧ screen.appearance = .appearing := by
  cases connectionStep_takes hStep with
  | delivery => exact .inl (appearance_runNotificationBlock.symm.trans hAppeared)
  | controller => exact .inl hAppeared
  | mainBlock _ hBlock => exact .inl ((runMainBlock_frame hBlock).2.1.symm.trans hAppeared)
  | selection => exact .inl hAppeared
  | drawing => exact .inl hAppeared
  | noRow => exact .inl hAppeared
  | appearance hAppearing => exact .inr ⟨rfl, hAppearing⟩
  | turning _ _ _ hAfter => exact absurd hAppeared hAfter
  | outOfTurn => exact .inl hAppeared

end Appearances

end ConnectionScreen

/-- The entry at which the screen appeared last, with the history around it. -/
structure LastAppearance (history before : History ConnectionScreen ConnectionEvent)
    (shown : ConnectionScreen) (since : History ConnectionScreen ConnectionEvent) : Prop where
  split : history = before ++ (shown, .viewDidAppear) :: since
  appearing : shown.appearance = .appearing
  last : ∀ entry ∈ since, entry.2 = .viewDidAppear → entry.1.appearance ≠ .appearing

section Runs
variable {start screen : ConnectionScreen} {history : History ConnectionScreen ConnectionEvent}

/-- A screen that has appeared has a last appearance. -/
theorem lastAppearance_of_appeared (run : Run connectionStep start history screen)
    (hHidden : start.appearance = .hidden) (hAppeared : screen.appearance = .appeared) :
    ∃ before shown since, LastAppearance history before shown since := by
  induction run with
  | nil => simp [hHidden] at hAppeared
  | @snoc history state after event prior last ih =>
      rcases ConnectionScreen.appeared_before last hAppeared with
        hState | ⟨rfl, hAppearing⟩
      · obtain ⟨before, shown, since, hSplit, hAppearing, hLast⟩ := ih hState
        refine ⟨before, shown, since ++ [(state, event)], by simp [hSplit], hAppearing, ?_⟩
        intro entry hEntry
        rcases List.mem_append.mp hEntry with hEntry | hEntry
        · exact hLast entry hEntry
        · obtain rfl := List.mem_singleton.mp hEntry
          simp [hState]
      · exact ⟨history, state, [], rfl, hAppearing, by simp⟩

/-- No pass in the run, no block of one on its way. -/
theorem passFree_of_run (run : Run connectionStep start history screen)
    (hFree : start.PassFree) (hNoPass : ∀ entry ∈ history, entry.2.isPass = false) :
    screen.PassFree :=
  run.invariant_of_permitted (fun _ event => event.isPass = false) ConnectionScreen.PassFree hFree
    (fun _ _ _ hState hPermitted hStep => hState.step hStep hPermitted) hNoPass

/-- The devices that moved from section 1 to section 0 in a history. -/
def movedIn (history : History ConnectionScreen ConnectionEvent) : Int :=
  (history.map fun entry => movedBy entry.2.selectedSection).sum

/-- The moves out of section 1 are the selections there. -/
theorem movedIn_nonneg (history : History ConnectionScreen ConnectionEvent) :
    0 ≤ movedIn history ∧
      (movedIn history = 0 ↔ ∀ entry ∈ history, entry.2.selectedSection ≠ some 1) := by
  induction history with
  | nil => simp [movedIn]
  | cons entry rest ih =>
      have hCons : movedIn (entry :: rest) =
          movedBy entry.2.selectedSection + movedIn rest := by
        simp [movedIn]
      rw [hCons, List.forall_mem_cons, ← ih.2]
      have hRest := ih.1
      unfold movedBy
      by_cases hMoved : entry.2.selectedSection = some 1
      · rw [if_pos hMoved]
        constructor
        · omega
        · simp [hMoved]
          omega
      · rw [if_neg hMoved]
        constructor
        · omega
        · simp [hMoved]

/-- Until the next appearance only selections change what the rows exceed the lists by,
and at the appearance that is what was pending. -/
theorem excess_since {shown screen : ConnectionScreen}
    {since : History ConnectionScreen ConnectionEvent} (hFree : shown.PassFree)
    (run : Run connectionStep shown.viewDidAppear since screen)
    (hNoPass : ∀ entry ∈ since, entry.2.isPass = false)
    (hLast : ∀ entry ∈ since, entry.2 = .viewDidAppear → entry.1.appearance ≠ .appearing)
    (hAppeared : screen.appearance = .appeared) :
    screen.excess 0 = shown.pending 0 - movedIn since ∧
      screen.excess 1 = shown.pending 1 + movedIn since := by
  induction run with
  | nil =>
      have hRecount := ConnectionScreen.deviceRows_recount shown.world
      simp only [ConnectionScreen.excess, movedIn, List.map_nil, List.sum_nil]
      change ConnectionScreen.deviceRows (ConnectionScreen.recount shown.world 0) +
          shown.pending 0 - shown.world.numberOfDevicesInSection 0 = _ ∧
        ConnectionScreen.deviceRows (ConnectionScreen.recount shown.world 1) +
          shown.pending 1 - shown.world.numberOfDevicesInSection 1 = _
      rw [hRecount, hRecount]
      omega
  | @snoc since state after event prior last ih =>
      have hState : state.appearance = .appeared := by
        rcases ConnectionScreen.appeared_before last hAppeared with hState | ⟨hEvent, hTurn⟩
        · exact hState
        · exact absurd hTurn (hLast (state, event) (by simp) hEvent)
      have hNoPassPrior : ∀ entry ∈ since, entry.2.isPass = false :=
        fun entry hEntry => hNoPass entry (List.mem_append_left _ hEntry)
      have hLastPrior : ∀ entry ∈ since,
          entry.2 = .viewDidAppear → entry.1.appearance ≠ .appearing :=
        fun entry hEntry => hLast entry (List.mem_append_left _ hEntry)
      have hStateFree : state.PassFree := passFree_of_run prior hFree.viewDidAppear hNoPassPrior
      have hMoves := ConnectionScreen.Moves.step hStateFree last
        (hNoPass (state, event) (by simp)) hState hAppeared
      obtain ⟨hZero, hOne⟩ := ih hNoPassPrior hLastPrior hState
      have hMoved : movedIn (since ++ [(state, event)]) =
          movedIn since + movedBy event.selectedSection := by
        simp [movedIn]
      have hKnown := hMoves.known
      have hDiscovered := hMoves.discovered
      omega

/-- At a quiet moment of an appeared screen the row counts are those of a full recount
exactly when nothing was pending as the screen appeared, and no selection has moved a
device from one section to the other since. -/
theorem rows_agree_with_recount_iff {world : World} {hasDelegate : Bool}
    {screen : ConnectionScreen} {history : History ConnectionScreen ConnectionEvent}
    (run : Run connectionStep (.viewDidLoad world hasDelegate) history screen)
    (hInit : world.controller = .init) (hNoPass : ∀ entry ∈ history, entry.2.isPass = false)
    (hAppeared : screen.appearance = .appeared) (hQuiet : screen.Quiet) :
    (screen.numberOfRowsInSectionZero = ConnectionScreen.recount screen.world 0 ∧
      screen.numberofRowsInSectionOne = ConnectionScreen.recount screen.world 1) ↔
    ∃ before shown since, LastAppearance history before shown since ∧ shown.Quiet ∧
      ∀ entry ∈ since, entry.2.selectedSection ≠ some 1 := by
  have hStart : (ConnectionScreen.viewDidLoad world hasDelegate).PassFree :=
    ConnectionScreen.passFree_viewDidLoad hInit
  have hFree := passFree_of_run run hStart hNoPass
  have hPending := (ConnectionScreen.quiet_iff hFree).mp hQuiet
  have hAgree := ConnectionScreen.rows_eq_recount_iff hFree hPending
  have hAccount : ∀ before shown since, LastAppearance history before shown since →
      shown.PassFree ∧ screen.excess 0 = shown.pending 0 - movedIn since ∧
        screen.excess 1 = shown.pending 1 + movedIn since := by
    rintro before shown since ⟨rfl, hAppearing, hLast⟩
    obtain ⟨after, first, hShow, rest⟩ := run.split_cons
    obtain rfl : shown.viewDidAppear = after := by
      simpa [connectionStep, hAppearing] using hShow
    have hShown := passFree_of_run first hStart
      fun entry hEntry => hNoPass entry (List.mem_append_left _ hEntry)
    have hSince : ∀ entry ∈ since, entry.2.isPass = false := fun entry hEntry =>
      hNoPass entry (List.mem_append_right _ (List.mem_cons_of_mem _ hEntry))
    exact ⟨hShown, excess_since hShown rest hSince hLast hAppeared⟩
  rw [hAgree]
  constructor
  · rintro ⟨hZero, hOne⟩
    obtain ⟨before, shown, since, hSplit⟩ := lastAppearance_of_appeared run rfl hAppeared
    obtain ⟨hShown, hExcessZero, hExcessOne⟩ := hAccount before shown since hSplit
    have hNonneg := movedIn_nonneg since
    have hPendingOne : 0 ≤ shown.pending 1 := shown.pending_nonneg 1
    refine ⟨before, shown, since, hSplit, ?_, hNonneg.2.mp (by omega)⟩
    rw [ConnectionScreen.quiet_iff hShown]
    omega
  · rintro ⟨before, shown, since, hSplit, hShownQuiet, hUnmoved⟩
    obtain ⟨hShown, hExcessZero, hExcessOne⟩ := hAccount before shown since hSplit
    have hShownPending := (ConnectionScreen.quiet_iff hShown).mp hShownQuiet
    have hMoved := (movedIn_nonneg since).2.mpr hUnmoved
    omega

end Runs

/-- The screen over a fresh controller. -/
def freshConnectionScreen : ConnectionScreen := .viewDidLoad freshWorld true

/-- A device is discovered on a screen that has appeared. -/
def appearThenDiscover : List ConnectionEvent :=
  [.viewWillAppear, .viewDidAppear, .controller (.didDiscoverPeripheral frontDoor ⟨100, 20⟩),
    .controller .runNotificationBlock, .runMainBlock]

theorem rows_agree_with_recount_after_discovery :
    ∃ screen, exec connectionStep freshConnectionScreen appearThenDiscover = .ok screen ∧
      screen.numberOfRowsInSectionZero = ConnectionScreen.recount screen.world 0 ∧
      screen.numberofRowsInSectionOne = ConnectionScreen.recount screen.world 1 := by
  have hFinal : ∃ screen,
      exec connectionStep freshConnectionScreen appearThenDiscover = .ok screen ∧
      screen.appearance = .appeared ∧ screen.Quiet :=
    ⟨_, rfl, rfl, fun _ => ⟨List.not_mem_nil, List.not_mem_nil⟩⟩
  obtain ⟨screen, hExec, hAppeared, hQuiet⟩ := hFinal
  have hEvents : ∀ event ∈ appearThenDiscover, event.isPass = false := by decide
  have hNoPass : ∀ entry ∈ historyOf connectionStep freshConnectionScreen appearThenDiscover,
      entry.2.isPass = false :=
    fun entry hEntry => hEvents entry.2 (action_mem_of_mem_historyOf hEntry)
  refine ⟨screen, hExec, ?_⟩
  refine (rows_agree_with_recount_iff (run_of_exec hExec) rfl hNoPass hAppeared hQuiet).mpr ?_
  refine ⟨[(freshConnectionScreen, .viewWillAppear)], freshConnectionScreen.viewWillAppear, _,
    ⟨rfl, rfl, ?_⟩, fun _ => ⟨List.not_mem_nil, List.not_mem_nil⟩, ?_⟩
  · refine List.forall_mem_cons.mpr ⟨nofun, List.forall_mem_cons.mpr ⟨nofun, ?_⟩⟩
    exact List.forall_mem_cons.mpr ⟨nofun, List.forall_mem_nil _⟩
  · refine List.forall_mem_cons.mpr ⟨nofun, List.forall_mem_cons.mpr ⟨nofun, ?_⟩⟩
    exact List.forall_mem_cons.mpr ⟨nofun, List.forall_mem_nil _⟩

/-- The same device is discovered between the two calls of the appearance: the recount
has it, and its notification adds it again. -/
def discoverWhileAppearing : List ConnectionEvent :=
  [.viewWillAppear, .controller (.didDiscoverPeripheral frontDoor ⟨100, 20⟩), .viewDidAppear,
    .controller .runNotificationBlock, .runMainBlock]

theorem rows_count_a_device_twice :
    ∃ screen, exec connectionStep freshConnectionScreen discoverWhileAppearing = .ok screen ∧
      screen.appearance = .appeared ∧ screen.Quiet ∧
      screen.numberofRowsInSectionOne = 3 ∧ ConnectionScreen.recount screen.world 1 = 2 :=
  ⟨_, rfl, rfl, fun _ => ⟨List.not_mem_nil, List.not_mem_nil⟩, by decide, by decide⟩

end LockJaw
