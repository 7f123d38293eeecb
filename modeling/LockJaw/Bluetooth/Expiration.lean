import LockJaw.Bluetooth.Listing

/-! When an expiration pass completes, and what it leaves. The pass reads the selection
before it looks whether there is one, searches the expired connected devices in the list
of the discovered ones, and compares the pointers of two dates instead of their times. -/
namespace LockJaw

open Cocoa Semantics

namespace World

section Completion
variable {world : World} {clock : PassClock}

/-- The first loop always completes; the second one does when it has nothing to do. -/
theorem removeExpiredDevices_of_designates {current : CBPeripheral}
    (hDesignates : world.Designates current) (hNone : world.staleDevices clock = []) :
    ∃ after, world.removeExpiredDevices clock = .ok after := by
  have hLost := peripheralsToRemove_sublist world.peripherals clock 0
    world.controller.discoveredDevicesArray
  have hFirst := (@removePeripherals_eq_ok world _ 0 _).mpr ⟨hLost.subperm, rfl⟩
  rw [removeExpiredDevices, selectedPeripheral_eq_ok.mpr hDesignates, ok_bind]
  dsimp only
  rw [hFirst, ok_bind]
  change ∃ after, (World.removePeripherals _ 1 (world.staleDevices clock) >>= _) = .ok after
  rw [hNone]
  exact ⟨_, rfl⟩

/-- No chosen device is deemed expired exactly when each is asked about in turn and denied. -/
theorem staleDevices_eq_nil_iff :
    world.staleDevices clock = [] ↔
      ∀ n peripheral, world.controller.connectedPeripherals[n]? = some peripheral →
        isExpired world.peripherals clock
          (world.controller.discoveredDevicesArray.length + n) peripheral = false := by
  rw [List.eq_nil_iff_forall_not_mem]
  constructor
  · intro hNone n peripheral hGet
    rw [← Bool.not_eq_true]
    intro hExpired
    exact hNone peripheral (mem_peripheralsToRemove.mpr ⟨n, hGet, hExpired⟩)
  · intro hFresh peripheral hMem
    obtain ⟨n, hGet, hExpired⟩ := mem_peripheralsToRemove.mp hMem
    rw [hFresh n peripheral hGet] at hExpired
    cases hExpired

end Completion

end World

/-- A pass on a reachable controller completes exactly when some device has been
selected before and no connected device compares as expired. -/
theorem pass_completes_iff {start world : World} {history : History World ControllerEvent}
    (run : Run World.step start history world) (hInit : start.controller = .init)
    (clock : PassClock) :
    (∃ after, world.removeExpiredDevices clock = .ok after) ↔
      latestPick history ≠ none ∧
      ∀ n peripheral, world.controller.connectedPeripherals[n]? = some peripheral →
        World.isExpired world.peripherals clock
          (world.controller.discoveredDevicesArray.length + n) peripheral = false := by
  obtain ⟨roster, hRefines, hSelected⟩ := reachable_refines run hInit
  rw [← World.staleDevices_eq_nil_iff, ← hSelected]
  constructor
  · rintro ⟨after, hPass⟩
    obtain ⟨current, hDesignates, hFound, _⟩ := World.removeExpiredDevices_eq_ok hPass
    have hSome := hRefines.selected_of_designates hDesignates
    exact ⟨by simp [hSome], hRefines.staleDevices_eq_nil hFound⟩
  · rintro ⟨hSome, hNone⟩
    obtain ⟨current, hCurrent⟩ := Option.ne_none_iff_exists'.mp hSome
    have hSelection := hRefines.selection
    rw [hCurrent] at hSelection
    exact World.removeExpiredDevices_of_designates hSelection hNone

/-- The clock of a pass whose dates all lie above the current one. -/
def nothingExpires : PassClock := ⟨⟨50, 40⟩, fun n => 60 + 30 * n⟩

theorem pass_completes_after_pick :
    ∃ world, exec World.step freshWorld pickAndExpire = .ok world ∧
      ∃ after, world.removeExpiredDevices nothingExpires = .ok after := by
  have hFinal : ∃ world, exec World.step freshWorld pickAndExpire = .ok world ∧
      world.controller.connectedPeripherals = [frontDoor] ∧
      World.isExpired world.peripherals nothingExpires
        (world.controller.discoveredDevicesArray.length + 0) frontDoor = false :=
    ⟨_, rfl, rfl, by decide⟩
  obtain ⟨world, hExec, hConnected, hFresh⟩ := hFinal
  have hPick : latestPick (historyOf World.step freshWorld pickAndExpire) = some frontDoor := rfl
  refine ⟨world, hExec, ?_⟩
  apply (pass_completes_iff (run_of_exec hExec) rfl nothingExpires).mpr
  refine ⟨by simp [hPick], ?_⟩
  intro n peripheral hGet
  rw [hConnected, List.getElem?_singleton] at hGet
  split at hGet
  · rename_i hZero
    cases hGet
    rw [hZero]
    exact hFresh
  · cases hGet

/-- Before anything was selected a pass reads the element at -1; after a pick, a connected
device that compares as expired is searched in the wrong list. -/
theorem pass_raises_without_pick :
    freshWorld.removeExpiredDevices nothingExpires = .error .rangeException ∧
    (∃ world, exec World.step freshWorld pickAndExpire = .ok world ∧
      world.removeExpiredDevices ⟨⟨50, 40⟩, fun _ => 20⟩ = .error .rangeException) ∧
    ¬ ∀ (start world : World) (history : History World ControllerEvent) (clock : PassClock),
      Run World.step start history world → start.controller = .init →
      ∃ after, world.removeExpiredDevices clock = .ok after := by
  refine ⟨rfl, ⟨_, rfl, rfl⟩, ?_⟩
  intro hClaim
  obtain ⟨after, hPass⟩ := hClaim freshWorld freshWorld [] nothingExpires .nil rfl
  cases hPass

namespace World

/-- The device's date plus 30 seconds is earlier than the current time. -/
def isStale (world : World) (currentDate : NSDate) (peripheral : CBPeripheral) : Bool :=
  match (world.peripherals peripheral).discoveryDate with
  | some date => decide (date.time + kLKJExpirationTimeInterval < currentDate.time)
  | none => false

/-- What remains of a list without its stale devices. -/
def fresh (world : World) (currentDate : NSDate) (devices : List CBPeripheral) :
    List CBPeripheral :=
  devices.filter fun peripheral => !world.isStale currentDate peripheral

/-- The pass took the stale devices, and no others, out of each of the three lists. -/
structure FiltersStale (world after : World) (currentDate : NSDate) : Prop where
  discovered : after.controller.discoveredDevicesArray =
    world.fresh currentDate world.controller.discoveredDevicesArray
  known : after.controller.knownDevicesArray =
    world.fresh currentDate world.controller.knownDevicesArray
  connected : after.controller.connectedPeripherals =
    world.fresh currentDate world.controller.connectedPeripherals

/-- For each discovered device the comparison of the two pointers comes out as that of
the two times, and no known device is stale. -/
structure PointersTell (world : World) (clock : PassClock) : Prop where
  discovered : ∀ n peripheral date,
    world.controller.discoveredDevicesArray[n]? = some peripheral →
    (world.peripherals peripheral).discoveryDate = some date →
    (clock.shiftedAddress n < clock.currentDate.address ↔
      date.time + kLKJExpirationTimeInterval < clock.currentDate.time)
  known : ∀ peripheral ∈ world.controller.knownDevicesArray,
    world.isStale clock.currentDate peripheral = false

/-- Every device of the dictionary has a date. -/
def Dated (world : World) : Prop :=
  ∀ peripheral, world.Seen peripheral → (world.peripherals peripheral).discoveryDate ≠ none

section Dates
variable {world after : World}

/-- A link or a name that changes leaves the date. -/
theorem setPeripheral_discoveryDate {peripheral : CBPeripheral} {object : PeripheralObject}
    (h : object.discoveryDate = (world.peripherals peripheral).discoveryDate)
    (other : CBPeripheral) :
    ((world.setPeripheral peripheral object).peripherals other).discoveryDate =
      (world.peripherals other).discoveryDate := by
  by_cases hOther : other = peripheral
  · subst hOther
    simpa [setPeripheral] using h
  · simp [setPeripheral, Function.update_of_ne hOther]

/-- Only discoveries date a device. -/
theorem step_discoveryDate {event : ControllerEvent} (hStep : world.step event = .ok after)
    (hEvent : ∀ peripheral now, event ≠ .didDiscoverPeripheral peripheral now)
    (other : CBPeripheral) :
    (after.peripherals other).discoveryDate = (world.peripherals other).discoveryDate := by
  by_cases hChange : ∃ peripheral name link, event = .peripheralChanges peripheral name link
  · obtain ⟨peripheral, name, link, rfl⟩ := hChange
    cases hStep
    exact setPeripheral_discoveryDate (by rfl) other
  by_cases hLock : event = .lockDevice
  · subst hLock
    obtain ⟨peripheral, hDesignates⟩ := designates_of_lockDevice hStep
    change world.lockDevice = _ at hStep
    rw [lockDevice_of_designates hDesignates] at hStep
    cases hStep
    split
    · exact setPeripheral_discoveryDate (by rfl) other
    · rfl
  by_cases hUnlock : event = .unlockDevice
  · subst hUnlock
    obtain ⟨peripheral, hDesignates⟩ := designates_of_unlockDevice hStep
    change world.unlockDevice = _ at hStep
    rw [unlockDevice_of_designates hDesignates] at hStep
    cases hStep
    split
    · rfl
    · exact setPeripheral_discoveryDate (by rfl) other
  · push Not at hChange
    rw [step_peripherals hStep hEvent hLock hUnlock hChange]

/-- Only discoveries make a device a key of the dictionary. -/
theorem step_seen {event : ControllerEvent} (hStep : world.step event = .ok after)
    (hIndex : world.controller.selectedBluetoothDeviceIndex ≠ .notFound)
    (hEvent : ∀ peripheral now, event ≠ .didDiscoverPeripheral peripheral now)
    (other : CBPeripheral) : after.Seen other ↔ world.Seen other := by
  rcases step_cases hIndex hStep with ⟨peripheral, now, rfl, _⟩ | ⟨index, inSection, _, hSelect⟩ |
    ⟨clock, _, hPass⟩ | ⟨_, _, hSame⟩
  · exact absurd rfl (hEvent peripheral now)
  · rcases selectPeripheralAtIndex_cases hSelect with ⟨_, n, peripheral, _, _, rfl⟩ |
      ⟨_, n, peripheral, _, _, rfl⟩ | ⟨_, _, rfl⟩
    · obtain ⟨_, _, hAfter⟩ := world.selectConnected_frame peripheral
      rw [Seen, hAfter]
      rfl
    · obtain ⟨_, _, hAfter⟩ := (world.moveToKnown n peripheral).selectConnected_frame peripheral
      rw [Seen, hAfter]
      rfl
    · rfl
  · obtain ⟨_, _, _, rfl⟩ := removeExpiredDevices_eq_ok hPass
    rfl
  · rw [Seen, hSame.1]
    rfl

/-- A discovery dates the device that it lists. -/
theorem Dated.didDiscoverPeripheral (h : world.Dated) (peripheral : CBPeripheral)
    (now : NSDate) : (world.didDiscoverPeripheral peripheral now).Dated := by
  by_cases hName : (world.peripherals peripheral).name = none
  · rw [didDiscoverPeripheral_of_unnamed hName]
    exact h
  · have hDates : ∀ other, other = peripheral ∨ world.Seen other →
        ((world.setDiscoveryDate peripheral now).peripherals other).discoveryDate ≠ none := by
      intro other hOther
      by_cases hSame : other = peripheral
      · subst hSame
        simp
      · simp only [setDiscoveryDate, setPeripheral, Function.update_of_ne hSame]
        exact h other (hOther.resolve_left hSame)
    obtain ⟨listed, hListed, hAfter⟩ := @didDiscoverPeripheral_of_named _ _ now hName
    rw [hAfter]
    intro other hSeen
    rw [Refines.seen_setDictionaryEntry] at hSeen
    rcases hListed with rfl | rfl | rfl
    · exact hDates other hSeen
    · exact hDates other hSeen
    · exact hDates other hSeen

/-- Every step keeps the listed devices dated. -/
theorem Dated.step (h : world.Dated)
    (hIndex : world.controller.selectedBluetoothDeviceIndex ≠ .notFound)
    {event : ControllerEvent} (hStep : world.step event = .ok after) : after.Dated := by
  by_cases hEvent : ∀ peripheral now, event ≠ .didDiscoverPeripheral peripheral now
  · intro other hSeen
    rw [step_discoveryDate hStep hEvent]
    exact h other ((step_seen hStep hIndex hEvent other).mp hSeen)
  · push Not at hEvent
    obtain ⟨peripheral, now, rfl⟩ := hEvent
    cases hStep
    exact h.didDiscoverPeripheral peripheral now

end Dates

end World

/-- In every run the listed devices are dated. -/
theorem reachable_dated {start world : World} {history : History World ControllerEvent}
    (run : Run World.step start history world) (hInit : start.controller = .init) :
    world.Dated := by
  induction run with
  | nil =>
      intro peripheral hSeen
      rw [World.Seen, hInit] at hSeen
      exact absurd rfl hSeen
  | snoc prior last ih =>
      obtain ⟨roster, hRefines, _⟩ := reachable_refines prior hInit
      exact ih.step hRefines.index_ne_notFound last

/-- Two filters of a list agree when their predicates agree on its elements. -/
theorem filter_eq_filter_iff {α : Type*} {devices : List α} {first second : α → Bool} :
    devices.filter first = devices.filter second ↔
      ∀ device ∈ devices, first device = second device := by
  constructor
  · intro hSame device hMem
    have hFilter : device ∈ devices.filter first ↔ device ∈ devices.filter second := by
      rw [hSame]
    simp only [List.mem_filter, hMem, true_and] at hFilter
    exact Bool.eq_iff_iff.mpr hFilter
  · exact List.filter_congr

namespace World

section Filtering
variable {world after : World} {clock : PassClock}

/-- A pass collects a discovered device when the address of its shifted date lies below
that of the current date. -/
theorem mem_lostDevices_iff {n : Nat} {peripheral : CBPeripheral} {date : NSDate}
    (hNodup : world.controller.discoveredDevicesArray.Nodup)
    (hGet : world.controller.discoveredDevicesArray[n]? = some peripheral)
    (hDate : (world.peripherals peripheral).discoveryDate = some date) :
    peripheral ∈ world.lostDevices clock ↔
      clock.shiftedAddress n < clock.currentDate.address := by
  have hExpired : ∀ allocation, isExpired world.peripherals clock allocation peripheral = true ↔
      clock.shiftedAddress allocation < clock.currentDate.address := by
    intro allocation
    simp [isExpired, hDate, dateByAddingTimeInterval, pointerLess, pointer]
  rw [lostDevices, mem_peripheralsToRemove, ← hExpired n]
  constructor
  · rintro ⟨m, hOther, hLost⟩
    have hBound := (List.getElem?_eq_some_iff.mp hOther).1
    have hSame : m = n := (List.getElem?_inj hBound hNodup).mp (hOther.trans hGet.symm)
    rw [Nat.zero_add, hSame] at hLost
    exact hLost
  · intro hLost
    exact ⟨n, hGet, by rwa [Nat.zero_add]⟩

/-- A device is stale once the interval since its discovery is over. -/
theorem isStale_of_date {currentDate : NSDate} {peripheral : CBPeripheral} {date : NSDate}
    (hDate : (world.peripherals peripheral).discoveryDate = some date) :
    world.isStale currentDate peripheral = true ↔
      date.time + kLKJExpirationTimeInterval < currentDate.time := by
  simp [isStale, hDate]

/-- What a completing pass leaves of the discovered devices is the filter by times when
each pointer comparison comes out as the comparison of times. -/
theorem filters_discovered_iff (hNodup : world.controller.discoveredDevicesArray.Nodup)
    (hDates : ∀ peripheral ∈ world.controller.discoveredDevicesArray,
      (world.peripherals peripheral).discoveryDate ≠ none) :
    world.controller.discoveredDevicesArray.diff (world.lostDevices clock) =
        world.fresh clock.currentDate world.controller.discoveredDevicesArray ↔
      ∀ n peripheral date, world.controller.discoveredDevicesArray[n]? = some peripheral →
        (world.peripherals peripheral).discoveryDate = some date →
        (clock.shiftedAddress n < clock.currentDate.address ↔
          date.time + kLKJExpirationTimeInterval < clock.currentDate.time) := by
  have hKept : ∀ peripheral,
      decide (peripheral ∉ world.lostDevices clock) =
          !world.isStale clock.currentDate peripheral ↔
        (peripheral ∈ world.lostDevices clock ↔
          world.isStale clock.currentDate peripheral = true) := by
    intro peripheral
    rw [Bool.eq_iff_iff, decide_eq_true_eq, Bool.not_eq_true', ← Bool.not_eq_true, not_iff_not]
  rw [hNodup.sdiff_eq_filter, fresh, filter_eq_filter_iff]
  constructor
  · intro hSame n peripheral date hGet hDate
    rw [← mem_lostDevices_iff hNodup hGet hDate, ← isStale_of_date hDate]
    exact (hKept peripheral).mp (hSame peripheral (List.mem_of_getElem? hGet))
  · intro hTell peripheral hMem
    obtain ⟨n, hGet⟩ := List.mem_iff_getElem?.mp hMem
    obtain ⟨date, hDate⟩ := Option.ne_none_iff_exists'.mp (hDates peripheral hMem)
    have hSame := hTell n peripheral date hGet hDate
    rw [← @mem_lostDevices_iff world clock _ _ _ hNodup hGet hDate,
      ← isStale_of_date hDate] at hSame
    exact (hKept peripheral).mpr hSame

/-- Nothing stale is all that a list kept whole can be a filter of. -/
theorem fresh_eq_self_iff {currentDate : NSDate} {devices : List CBPeripheral} :
    devices = world.fresh currentDate devices ↔
      ∀ peripheral ∈ devices, world.isStale currentDate peripheral = false := by
  rw [eq_comm, fresh, List.filter_eq_self]
  simp

/-- A pass filters the stale devices exactly when the pointers tell the times. -/
theorem filtersStale_iff {roster : Roster CBPeripheral} (hRefines : Refines world roster)
    (hDated : world.Dated) (hPass : world.removeExpiredDevices clock = .ok after) :
    world.FiltersStale after clock.currentDate ↔ world.PointersTell clock := by
  have hWellFormed := hRefines.wellFormed
  obtain ⟨current, _, hFound, rfl⟩ := removeExpiredDevices_eq_ok hPass
  have hNone := hRefines.staleDevices_eq_nil hFound
  have hDates := fun peripheral hMem =>
    hDated peripheral (hWellFormed.discovered_seen peripheral hMem)
  have hDiscovered := @filters_discovered_iff _ clock hWellFormed.discovered_nodup hDates
  rw [← List.diff_nil (world.controller.discoveredDevicesArray.diff _), ← hNone] at hDiscovered
  have hKnown := @fresh_eq_self_iff world clock.currentDate world.controller.knownDevicesArray
  constructor
  · rintro ⟨hFirst, hSecond, _⟩
    exact ⟨hDiscovered.mp hFirst, hKnown.mp hSecond⟩
  · rintro ⟨hFirst, hSecond⟩
    refine ⟨hDiscovered.mpr hFirst, hKnown.mpr hSecond, ?_⟩
    change world.controller.connectedPeripherals =
      world.fresh clock.currentDate world.controller.connectedPeripherals
    rw [← hWellFormed.known_eq_connected]
    exact hKnown.mpr hSecond

end Filtering

end World

/-- Two states with the same lists and selection, whose dates stand for the same times. -/
structure SameTimes (world other : World) (clock otherClock : PassClock) : Prop where
  discovered : other.controller.discoveredDevicesArray = world.controller.discoveredDevicesArray
  known : other.controller.knownDevicesArray = world.controller.knownDevicesArray
  connected : other.controller.connectedPeripherals = world.controller.connectedPeripherals
  selection : other.controller.selectedBluetoothDeviceIndex =
    world.controller.selectedBluetoothDeviceIndex
  dates : ∀ peripheral, world.Listed peripheral →
    (other.peripherals peripheral).discoveryDate.map NSDate.time =
      (world.peripherals peripheral).discoveryDate.map NSDate.time
  current : otherClock.currentDate.time = clock.currentDate.time

/-- The same lists and the same selection. -/
structure SameOutcome (after otherAfter : World) : Prop where
  discovered : otherAfter.controller.discoveredDevicesArray =
    after.controller.discoveredDevicesArray
  known : otherAfter.controller.knownDevicesArray = after.controller.knownDevicesArray
  connected : otherAfter.controller.connectedPeripherals =
    after.controller.connectedPeripherals
  selection : otherAfter.controller.selectedBluetoothDeviceIndex =
    after.controller.selectedBluetoothDeviceIndex

namespace SameTimes

variable {world other after otherAfter : World} {clock otherClock : PassClock}

/-- Equal times make the same devices stale. -/
theorem isStale (h : SameTimes world other clock otherClock) {peripheral : CBPeripheral}
    (hListed : world.Listed peripheral) :
    other.isStale otherClock.currentDate peripheral =
      world.isStale clock.currentDate peripheral := by
  have hDates := h.dates peripheral hListed
  unfold World.isStale
  rw [h.current]
  cases hDate : (world.peripherals peripheral).discoveryDate with
  | none =>
      rw [hDate, Option.map_none, Option.map_eq_none_iff] at hDates
      rw [hDates]
  | some date =>
      rw [hDate, Option.map_some, Option.map_eq_some_iff] at hDates
      obtain ⟨otherDate, hOther, hTime⟩ := hDates
      rw [hOther]
      simp only [hTime]

/-- Equal times leave the same devices. -/
theorem fresh (h : SameTimes world other clock otherClock) {devices : List CBPeripheral}
    (hListed : ∀ peripheral ∈ devices, world.Listed peripheral) :
    other.fresh otherClock.currentDate devices = world.fresh clock.currentDate devices := by
  apply filter_eq_filter_iff.mpr
  intro peripheral hMem
  rw [h.isStale (hListed peripheral hMem)]

/-- The index of a completed pass is the place of the selected device in a list that no
pass changes. -/
theorem selection_eq (h : SameTimes world other clock otherClock)
    (hPass : world.removeExpiredDevices clock = .ok after)
    (hOther : other.removeExpiredDevices otherClock = .ok otherAfter) :
    otherAfter.controller.selectedBluetoothDeviceIndex =
      after.controller.selectedBluetoothDeviceIndex := by
  obtain ⟨current, hDesignates, _, rfl⟩ := World.removeExpiredDevices_eq_ok hPass
  obtain ⟨otherCurrent, hOtherDesignates, _, rfl⟩ := World.removeExpiredDevices_eq_ok hOther
  rw [World.Designates, h.selection, h.connected] at hOtherDesignates
  have hSame : otherCurrent = current := World.Designates.unique hOtherDesignates hDesignates
  change NSIndex.position (other.controller.connectedPeripherals.idxOf otherCurrent) =
    .position (world.controller.connectedPeripherals.idxOf current)
  rw [hSame, h.connected]

/-- Two passes that both filter by times have the same outcome. -/
theorem outcome (h : SameTimes world other clock otherClock)
    (hKnown : world.controller.knownDevicesArray = world.controller.connectedPeripherals)
    (hPass : world.removeExpiredDevices clock = .ok after)
    (hOther : other.removeExpiredDevices otherClock = .ok otherAfter)
    (hFilters : world.FiltersStale after clock.currentDate)
    (hOtherFilters : other.FiltersStale otherAfter otherClock.currentDate) :
    SameOutcome after otherAfter where
  discovered := by
    rw [hFilters.discovered, hOtherFilters.discovered, h.discovered]
    exact h.fresh fun _ hMem => .inr hMem
  known := by
    rw [hFilters.known, hOtherFilters.known, h.known]
    exact h.fresh fun _ hMem => .inl hMem
  connected := by
    rw [hFilters.connected, hOtherFilters.connected, h.connected, ← hKnown]
    exact h.fresh fun _ hMem => .inl hMem
  selection := h.selection_eq hPass hOther

end SameTimes

/-- Passes over two reachable states that differ in the objects of their dates alone both
take exactly the stale devices, with the same outcome, exactly when in each of them every
comparison of pointers comes out as that of times and no known device is stale. -/
theorem expiration_filters_stale_iff {start world otherStart other after otherAfter : World}
    {history otherHistory : History World ControllerEvent} {clock otherClock : PassClock}
    (run : Run World.step start history world) (hInit : start.controller = .init)
    (otherRun : Run World.step otherStart otherHistory other)
    (hOtherInit : otherStart.controller = .init)
    (hSame : SameTimes world other clock otherClock)
    (hPass : world.removeExpiredDevices clock = .ok after)
    (hOther : other.removeExpiredDevices otherClock = .ok otherAfter) :
    (world.FiltersStale after clock.currentDate ∧
      other.FiltersStale otherAfter otherClock.currentDate ∧ SameOutcome after otherAfter) ↔
    world.PointersTell clock ∧ other.PointersTell otherClock := by
  obtain ⟨roster, hRefines, _⟩ := reachable_refines run hInit
  obtain ⟨otherRoster, hOtherRefines, _⟩ := reachable_refines otherRun hOtherInit
  have hFirst := World.filtersStale_iff hRefines (reachable_dated run hInit) hPass
  have hSecond :=
    World.filtersStale_iff hOtherRefines (reachable_dated otherRun hOtherInit) hOther
  rw [← hFirst, ← hSecond]
  constructor
  · rintro ⟨hFilters, hOtherFilters, _⟩
    exact ⟨hFilters, hOtherFilters⟩
  · rintro ⟨hFilters, hOtherFilters⟩
    exact ⟨hFilters, hOtherFilters,
      hSame.outcome hRefines.wellFormed.known_eq_connected hPass hOther hFilters hOtherFilters⟩

/-- Two devices met at the times 20 and 0, in date objects at the given addresses, the
first of them picked. -/
def pickOneOfTwo (front back : Nat) : List ControllerEvent :=
  [.didDiscoverPeripheral frontDoor ⟨front, 20⟩, .didDiscoverPeripheral backDoor ⟨back, 0⟩,
    .selectPeripheralAtIndex (.position 0) 1]

/-- A pass at the time 40, with its dates allocated from the given address on. -/
def passAtForty (current first : Nat) : PassClock := ⟨⟨current, 40⟩, fun n => first + 30 * n⟩

theorem pointersTell_passAtForty {world : World} {front back current first : Nat}
    (hBelow : first < current) (hDiscovered : world.controller.discoveredDevicesArray = [backDoor])
    (hKnown : world.controller.knownDevicesArray = [frontDoor])
    (hFront : (world.peripherals frontDoor).discoveryDate = some ⟨front, 20⟩)
    (hBack : (world.peripherals backDoor).discoveryDate = some ⟨back, 0⟩) :
    world.PointersTell (passAtForty current first) := by
  have hStale : (0 : ℚ) + kLKJExpirationTimeInterval < 40 := by decide +kernel
  have hFresh : ¬ (20 : ℚ) + kLKJExpirationTimeInterval < 40 := by decide +kernel
  refine ⟨?_, ?_⟩
  · intro n peripheral date hGet hDate
    rw [hDiscovered, List.getElem?_singleton] at hGet
    split at hGet
    · rename_i hZero
      cases hGet
      rw [hBack] at hDate
      cases hDate
      rw [hZero]
      exact iff_of_true hBelow hStale
    · cases hGet
  · intro peripheral hMem
    rw [hKnown, List.mem_singleton] at hMem
    subst hMem
    rw [World.isStale, hFront]
    exact decide_eq_false hFresh

theorem expiration_filters_stale_for_two_allocations :
    ∃ world other after otherAfter,
      exec World.step freshWorld (pickOneOfTwo 100 5) = .ok world ∧
      exec World.step freshWorld (pickOneOfTwo 200 7) = .ok other ∧
      world.removeExpiredDevices (passAtForty 50 40) = .ok after ∧
      other.removeExpiredDevices (passAtForty 90 80) = .ok otherAfter ∧
      world.FiltersStale after ⟨50, 40⟩ ∧ SameOutcome after otherAfter := by
  have hFinal : ∃ world other after otherAfter,
      exec World.step freshWorld (pickOneOfTwo 100 5) = .ok world ∧
      exec World.step freshWorld (pickOneOfTwo 200 7) = .ok other ∧
      world.removeExpiredDevices (passAtForty 50 40) = .ok after ∧
      other.removeExpiredDevices (passAtForty 90 80) = .ok otherAfter ∧
      (world.controller.discoveredDevicesArray = [backDoor] ∧
        other.controller = world.controller) ∧
      world.controller.knownDevicesArray = [frontDoor] ∧
      (world.peripherals frontDoor).discoveryDate = some ⟨100, 20⟩ ∧
      (world.peripherals backDoor).discoveryDate = some ⟨5, 0⟩ ∧
      (other.peripherals frontDoor).discoveryDate = some ⟨200, 20⟩ ∧
      (other.peripherals backDoor).discoveryDate = some ⟨7, 0⟩ :=
    ⟨_, _, _, _, rfl, rfl, rfl, rfl, ⟨rfl, rfl⟩, rfl, rfl, rfl, rfl, rfl⟩
  obtain ⟨world, other, after, otherAfter, hExec, hOtherExec, hPass, hOtherPass,
    ⟨hDiscovered, hController⟩, hKnown, hFront, hBack, hOtherFront, hOtherBack⟩ := hFinal
  have hSame : SameTimes world other (passAtForty 50 40) (passAtForty 90 80) := by
    refine ⟨by rw [hController], by rw [hController], by rw [hController], by rw [hController],
      ?_, rfl⟩
    intro peripheral hListed
    rw [World.Listed, hKnown, hDiscovered, List.mem_singleton, List.mem_singleton] at hListed
    rcases hListed with rfl | rfl
    · rw [hFront, hOtherFront]
      rfl
    · rw [hBack, hOtherBack]
      rfl
  have hFilters := (expiration_filters_stale_iff (run_of_exec hExec) rfl
    (run_of_exec hOtherExec) rfl hSame hPass hOtherPass).mpr
    ⟨pointersTell_passAtForty (by decide) hDiscovered hKnown hFront hBack,
      pointersTell_passAtForty (by decide) (by rw [hController, hDiscovered])
        (by rw [hController, hKnown]) hOtherFront hOtherBack⟩
  exact ⟨world, other, after, otherAfter, hExec, hOtherExec, hPass, hOtherPass, hFilters.1,
    hFilters.2.2⟩

/-- The same state and the same time, in two current dates at different addresses: one pass
drops the stale device and the other keeps it. -/
theorem expiration_depends_on_addresses :
    ∃ world after otherAfter,
      exec World.step freshWorld (pickOneOfTwo 100 5) = .ok world ∧
      world.removeExpiredDevices (passAtForty 50 40) = .ok after ∧
      world.removeExpiredDevices (passAtForty 30 40) = .ok otherAfter ∧
      SameTimes world world (passAtForty 50 40) (passAtForty 30 40) ∧
      ¬ world.FiltersStale otherAfter ⟨30, 40⟩ ∧ ¬ SameOutcome after otherAfter := by
  refine ⟨_, _, _, rfl, rfl, rfl, ⟨rfl, rfl, rfl, rfl, fun _ _ => rfl, rfl⟩, ?_, ?_⟩
  · rintro ⟨hDiscovered, _, _⟩
    exact absurd hDiscovered (by decide +kernel)
  · rintro ⟨hDiscovered, _, _, _⟩
    exact absurd hDiscovered (by decide +kernel)

end LockJaw
