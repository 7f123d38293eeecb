import LockJaw.Bluetooth.Selection

/-! When an advertised device is listed. The dictionary remembers every device of
the session, the lists lose the devices that a pass drops; the two differ by
exactly the dropped devices, and a dropped device is never listed again. -/
namespace LockJaw

open Cocoa Semantics

namespace World

def Listed (world : World) (peripheral : CBPeripheral) : Prop :=
  peripheral ∈ world.controller.knownDevicesArray ∨
    peripheral ∈ world.controller.discoveredDevicesArray

/-- The peripheral occurs in exactly one of the two lists. -/
def ListedOnce (world : World) (peripheral : CBPeripheral) : Prop :=
  Xor (peripheral ∈ world.controller.knownDevicesArray)
    (peripheral ∈ world.controller.discoveredDevicesArray)

/-- An expiration pass over a list where the peripheral stands and is expired. -/
def Drops (world : World) (event : ControllerEvent) (peripheral : CBPeripheral) : Prop :=
  ∃ clock n, event = .removeExpiredDevices clock ∧
    world.controller.discoveredDevicesArray[n]? = some peripheral ∧
    isExpired world.peripherals clock n peripheral = true

end World

/-- Some expiration pass of the history dropped the peripheral. -/
def DroppedIn (history : History World ControllerEvent) (peripheral : CBPeripheral) : Prop :=
  ∃ entry ∈ history, entry.1.Drops entry.2 peripheral

theorem World.drops_iff {world : World} {clock : PassClock} {peripheral : CBPeripheral} :
    world.Drops (.removeExpiredDevices clock) peripheral ↔
      peripheral ∈ world.lostDevices clock := by
  rw [lostDevices, mem_peripheralsToRemove]
  simp only [Drops, ControllerEvent.removeExpiredDevices.injEq, Nat.zero_add]
  constructor
  · rintro ⟨_, n, rfl, hLost⟩
    exact ⟨n, hLost⟩
  · rintro ⟨n, hLost⟩
    exact ⟨clock, n, rfl, hLost⟩

theorem droppedIn_concat {history : History World ControllerEvent} {world : World}
    {event : ControllerEvent} {peripheral : CBPeripheral} :
    DroppedIn (history ++ [(world, event)]) peripheral ↔
      DroppedIn history peripheral ∨ world.Drops event peripheral := by
  simp [DroppedIn, or_and_right, exists_or]

/-- The dictionary covers what is listed and what was dropped, which is disjoint. -/
structure Accounted (history : History World ControllerEvent) (world : World) : Prop where
  seen : ∀ peripheral, world.Seen peripheral ↔
    world.Listed peripheral ∨ DroppedIn history peripheral
  dropped_unlisted : ∀ peripheral, DroppedIn history peripheral → ¬ world.Listed peripheral

namespace Accounted

variable {history : History World ControllerEvent} {world after : World}
  {event : ControllerEvent}

theorem start (hInit : world.controller = .init) : Accounted [] world where
  seen := by
    simp [World.Seen, World.Listed, DroppedIn, hInit, LKJBluetoothController.init]
  dropped_unlisted := by simp [DroppedIn]

/-- A step that is no pass, and neither lists nor unlists anything. -/
theorem congr (h : Accounted history world) (hEvent : ∀ peripheral, ¬ world.Drops event peripheral)
    (hSeen : ∀ peripheral, after.Seen peripheral ↔ world.Seen peripheral)
    (hListed : ∀ peripheral, after.Listed peripheral ↔ world.Listed peripheral) :
    Accounted (history ++ [(world, event)]) after where
  seen := by
    intro peripheral
    rw [droppedIn_concat, hSeen, hListed, h.seen]
    simp [hEvent peripheral]
  dropped_unlisted := by
    intro peripheral hDropped
    rw [droppedIn_concat] at hDropped
    rw [hListed]
    exact h.dropped_unlisted peripheral (hDropped.resolve_right (hEvent peripheral))

/-- A step that is no pass, and lists one device not seen before. -/
theorem listNew (h : Accounted history world) {peripheral : CBPeripheral}
    (hFresh : ¬ world.Seen peripheral) (hEvent : ∀ other, ¬ world.Drops event other)
    (hSeen : ∀ other, after.Seen other ↔ other = peripheral ∨ world.Seen other)
    (hListed : ∀ other, after.Listed other ↔ other = peripheral ∨ world.Listed other) :
    Accounted (history ++ [(world, event)]) after where
  seen := by
    intro other
    rw [droppedIn_concat, hSeen, hListed, h.seen, or_assoc]
    simp [hEvent other]
  dropped_unlisted := by
    intro other hDropped
    rw [droppedIn_concat] at hDropped
    have hOld := hDropped.resolve_right (hEvent other)
    rw [hListed]
    rintro (rfl | hOther)
    · exact hFresh ((h.seen other).mpr (.inr hOld))
    · exact h.dropped_unlisted other hOld hOther

theorem didDiscoverPeripheral (h : Accounted history world) (peripheral : CBPeripheral)
    (now : NSDate) :
    Accounted (history ++ [(world, .didDiscoverPeripheral peripheral now)])
      (world.didDiscoverPeripheral peripheral now) := by
  have hEvent : ∀ other, ¬ world.Drops (.didDiscoverPeripheral peripheral now) other := by
    rintro other ⟨_, _, hEvent, _⟩
    cases hEvent
  by_cases hName : (world.peripherals peripheral).name = none
  · rw [World.didDiscoverPeripheral_of_unnamed hName]
    exact h.congr hEvent (fun _ => .rfl) (fun _ => .rfl)
  by_cases hSeen : world.Seen peripheral
  · rw [World.didDiscoverPeripheral_of_seen hName hSeen]
    refine h.congr hEvent ?_ (fun _ => .rfl)
    intro other
    rw [Refines.seen_setDictionaryEntry]
    constructor
    · rintro (rfl | hOther)
      · exact hSeen
      · exact hOther
    · exact .inr
  by_cases hRecord : world.HasRecord peripheral
  · rw [World.didDiscoverPeripheral_of_record hName hSeen hRecord]
    refine h.listNew hSeen hEvent
      (fun other => Refines.seen_setDictionaryEntry _ peripheral other) ?_
    intro other
    change other ∈ world.controller.knownDevicesArray ++ [peripheral] ∨ _ ↔ _
    rw [List.mem_append, List.mem_singleton, or_right_comm, or_comm]
    rfl
  · rw [World.didDiscoverPeripheral_of_no_record hName hSeen hRecord]
    refine h.listNew hSeen hEvent
      (fun other => Refines.seen_setDictionaryEntry _ peripheral other) ?_
    intro other
    change _ ∨ other ∈ world.controller.discoveredDevicesArray ++ [peripheral] ↔ _
    rw [List.mem_append, List.mem_singleton, ← or_assoc, or_comm]
    rfl

/-- A selection moves at most one device from one list to the other. -/
theorem selectPeripheralAtIndex (h : Accounted history world) {roster : Roster CBPeripheral}
    (hRefines : Refines world roster) {index : NSIndex} {inSection : Int}
    (hStep : world.selectPeripheralAtIndex index inSection = .ok after) :
    Accounted (history ++ [(world, .selectPeripheralAtIndex index inSection)]) after := by
  have hEvent : ∀ other, ¬ world.Drops (.selectPeripheralAtIndex index inSection) other := by
    rintro other ⟨_, _, hEvent, _⟩
    cases hEvent
  rcases World.selectPeripheralAtIndex_cases hStep with
    ⟨rfl, n, peripheral, rfl, hGet, rfl⟩ | ⟨rfl, n, peripheral, rfl, hGet, rfl⟩ |
    ⟨hZero, hOne, rfl⟩
  · have hMem : peripheral ∈ world.controller.connectedPeripherals := by
      rw [hRefines.connected, ← hRefines.known]
      exact List.mem_of_getElem? hGet
    rw [World.selectConnected_of_mem hMem]
    exact h.congr hEvent (fun _ => .rfl) (fun _ => .rfl)
  · have hMem := List.mem_of_getElem? hGet
    have hNotConnected :
        peripheral ∉ (world.moveToKnown n peripheral).controller.connectedPeripherals := by
      intro hm
      exact roster.not_both peripheral (hRefines.connected ▸ hm) (hRefines.discovered ▸ hMem)
    rw [World.selectConnected_of_not_mem hNotConnected]
    refine h.congr hEvent (fun _ => .rfl) ?_
    intro other
    change other ∈ world.controller.knownDevicesArray ++ [peripheral] ∨
      other ∈ world.controller.discoveredDevicesArray.eraseIdx n ↔ _
    have hErase : world.controller.discoveredDevicesArray.eraseIdx n =
        world.controller.discoveredDevicesArray.erase peripheral :=
      eraseIdx_eq_erase hRefines.wellFormed.discovered_nodup hGet
    rw [hErase, hRefines.wellFormed.discovered_nodup.mem_erase_iff, List.mem_append,
      List.mem_singleton, World.Listed]
    by_cases hOther : other = peripheral
    · simp [hOther, hMem]
    · simp [hOther]
  · exact h.congr hEvent (fun _ => .rfl) (fun _ => .rfl)

/-- A pass unlists exactly what it drops. -/
theorem removeExpiredDevices (h : Accounted history world) {roster : Roster CBPeripheral}
    (hRefines : Refines world roster) {clock : PassClock}
    (hStep : world.removeExpiredDevices clock = .ok after) :
    Accounted (history ++ [(world, .removeExpiredDevices clock)]) after := by
  have hDiscovered := hRefines.wellFormed.discovered_nodup
  obtain ⟨_, _, hFound, hAfter⟩ := World.removeExpiredDevices_eq_ok hStep
  have hStale := hRefines.staleDevices_eq_nil hFound
  have hDrops : ∀ peripheral, world.Drops (.removeExpiredDevices clock) peripheral ↔
      peripheral ∈ world.controller.discoveredDevicesArray ∧
        peripheral ∉ after.controller.discoveredDevicesArray := by
    intro peripheral
    rw [World.drops_iff, hAfter, hStale, List.diff_nil, hDiscovered.mem_sdiff_iff]
    have hSublist := World.peripheralsToRemove_sublist world.peripherals clock 0
      world.controller.discoveredDevicesArray
    constructor
    · intro hLost
      exact ⟨hSublist.subset hLost, fun hKept => hKept.2 hLost⟩
    · rintro ⟨hMem, hRemoved⟩
      by_contra hLost
      exact hRemoved ⟨hMem, hLost⟩
  have hKnown : after.controller.knownDevicesArray = world.controller.knownDevicesArray := by
    rw [hAfter]
  have hSeen : ∀ peripheral, after.Seen peripheral ↔ world.Seen peripheral := by
    intro peripheral
    rw [hAfter]
    rfl
  have hKept : ∀ peripheral, peripheral ∈ after.controller.discoveredDevicesArray →
      peripheral ∈ world.controller.discoveredDevicesArray := by
    intro peripheral hMem
    rw [hAfter] at hMem
    exact (List.diff_sublist _ _).subset ((List.diff_sublist _ _).subset hMem)
  have hDisjoint := hRefines.wellFormed.discovered_not_known
  refine ⟨?_, ?_⟩
  · intro peripheral
    rw [droppedIn_concat, hSeen, h.seen, hDrops, World.Listed, World.Listed, hKnown]
    have := hKept peripheral
    tauto
  · intro peripheral hDropped
    rw [droppedIn_concat, hDrops] at hDropped
    rw [World.Listed, hKnown]
    rcases hDropped with hOld | ⟨hMem, hNotMem⟩
    · have hUnlisted := h.dropped_unlisted peripheral hOld
      rintro (hOther | hOther)
      · exact hUnlisted (.inl hOther)
      · exact hUnlisted (.inr (hKept peripheral hOther))
    · rintro (hOther | hOther)
      · exact hDisjoint peripheral hMem hOther
      · exact hNotMem hOther

theorem step (h : Accounted history world) {roster : Roster CBPeripheral}
    (hRefines : Refines world roster) (hStep : world.step event = .ok after) :
    Accounted (history ++ [(world, event)]) after := by
  rcases World.step_cases hRefines.index_ne_notFound hStep with ⟨peripheral, now, rfl, rfl⟩ |
    ⟨index, inSection, rfl, hSelect⟩ | ⟨clock, rfl, hPass⟩ | ⟨_, _, hSame⟩
  · exact h.didDiscoverPeripheral peripheral now
  · exact h.selectPeripheralAtIndex hRefines hSelect
  · exact h.removeExpiredDevices hRefines hPass
  · by_cases hDrops : ∃ peripheral, world.Drops event peripheral
    · obtain ⟨_, clock, _, rfl, _, _⟩ := hDrops
      exact h.removeExpiredDevices hRefines hStep
    · refine h.congr (fun peripheral hDrop => hDrops ⟨peripheral, hDrop⟩) ?_ ?_
      · intro peripheral
        rw [World.Seen, hSame.1]
        rfl
      · intro peripheral
        rw [World.Listed, hSame.1]
        rfl

end Accounted

theorem reachable_accounted {start world : World} {history : History World ControllerEvent}
    (run : Run World.step start history world) (hInit : start.controller = .init) :
    Accounted history world := by
  refine run.induction (fun history world => Accounted history world) (.start hInit) ?_
  intro history state event after prior hState hStep
  obtain ⟨roster, hRefines, _⟩ := reachable_refines prior hInit
  exact hState.step hRefines hStep

/-- A named advertisement dates its device, whatever the lists hold. -/
theorem World.didDiscoverPeripheral_discoveryDate {world : World} {peripheral : CBPeripheral}
    {now : NSDate} (hName : (world.peripherals peripheral).name ≠ none) :
    ((world.didDiscoverPeripheral peripheral now).peripherals peripheral).discoveryDate =
      some now := by
  have hDated := World.setDiscoveryDate_discoveryDate world peripheral now
  obtain ⟨listed, rfl | rfl | rfl, hAfter⟩ := World.didDiscoverPeripheral_of_named hName
  · rw [hAfter]
    exact hDated
  · rw [hAfter]
    exact hDated
  · rw [hAfter]
    exact hDated

/-- A named advertisement makes its device a key of the dictionary. -/
theorem World.didDiscoverPeripheral_seen {world : World} {peripheral : CBPeripheral}
    {now : NSDate} (hName : (world.peripherals peripheral).name ≠ none) :
    (world.didDiscoverPeripheral peripheral now).Seen peripheral := by
  obtain ⟨listed, _, hAfter⟩ := didDiscoverPeripheral_of_named hName
  rw [hAfter, Refines.seen_setDictionaryEntry]
  exact .inl rfl

/-- The lists are disjoint, so a listed device is in exactly one of them. -/
theorem World.listedOnce_iff {world : World} (h : DeviceListsWellFormed world)
    (peripheral : CBPeripheral) : world.ListedOnce peripheral ↔ world.Listed peripheral := by
  constructor
  · rintro (⟨hKnown, _⟩ | ⟨hDiscovered, _⟩)
    · exact .inl hKnown
    · exact .inr hDiscovered
  · rintro (hKnown | hDiscovered)
    · exact .inl ⟨hKnown, fun hm => h.discovered_not_known peripheral hm hKnown⟩
    · exact .inr ⟨hDiscovered, h.discovered_not_known peripheral hDiscovered⟩

/-- After a named advertisement the device is listed, once and with the new date,
exactly when no earlier pass dropped it. -/
theorem advertised_is_listed_iff {start world : World}
    {history : History World ControllerEvent} (run : Run World.step start history world)
    (hInit : start.controller = .init) (peripheral : CBPeripheral) (now : NSDate)
    (hName : (world.peripherals peripheral).name ≠ none) :
    ((world.didDiscoverPeripheral peripheral now).ListedOnce peripheral ∧
      ((world.didDiscoverPeripheral peripheral now).peripherals peripheral).discoveryDate =
        some now) ↔
    ¬ DroppedIn history peripheral := by
  have next : Run World.step start
      (history ++ [(world, .didDiscoverPeripheral peripheral now)])
      (world.didDiscoverPeripheral peripheral now) := .snoc run rfl
  have hAccounted := reachable_accounted next hInit
  obtain ⟨roster, hRefines, _⟩ := reachable_refines next hInit
  have hNoPass : ¬ world.Drops (.didDiscoverPeripheral peripheral now) peripheral := by
    rintro ⟨_, _, hEvent, _⟩
    cases hEvent
  have hDropped : DroppedIn (history ++ [(world, .didDiscoverPeripheral peripheral now)])
      peripheral ↔ DroppedIn history peripheral := by
    rw [droppedIn_concat]
    exact or_iff_left hNoPass
  rw [World.listedOnce_iff hRefines.wellFormed, ← hDropped]
  constructor
  · rintro ⟨hListed, _⟩ hDrop
    exact hAccounted.dropped_unlisted peripheral hDrop hListed
  · intro hKept
    have hCovered :=
      (hAccounted.seen peripheral).mp (World.didDiscoverPeripheral_seen hName)
    exact ⟨hCovered.resolve_right hKept, World.didDiscoverPeripheral_discoveryDate hName⟩

/-- The pass of the run dropped the back door, and the front door was picked before. -/
theorem advertised_is_listed_after_pick :
    ∃ world, exec World.step freshWorld pickAndExpire = .ok world ∧
      (world.didDiscoverPeripheral frontDoor ⟨70, 55⟩).ListedOnce frontDoor := by
  have hFinal : ∃ world, exec World.step freshWorld pickAndExpire = .ok world ∧
      (world.peripherals frontDoor).name ≠ none ∧
      frontDoor ∈ world.controller.knownDevicesArray := ⟨_, rfl, by decide, by decide⟩
  obtain ⟨world, hExec, hName, hKnown⟩ := hFinal
  have hKept : ¬ DroppedIn (historyOf World.step freshWorld pickAndExpire) frontDoor := by
    intro hDropped
    have hAccounted := reachable_accounted (run_of_exec hExec) rfl
    exact hAccounted.dropped_unlisted frontDoor hDropped (.inl hKnown)
  exact ⟨world, hExec,
    ((advertised_is_listed_iff (run_of_exec hExec) rfl frontDoor ⟨70, 55⟩ hName).mpr
      hKept).1⟩

/-- A device that a pass dropped advertises again with its name, and no list has it. -/
theorem advertised_not_listed_after_pass :
    ¬ ∀ (start world : World) (history : History World ControllerEvent),
      Run World.step start history world → start.controller = .init →
      ∀ (peripheral : CBPeripheral) (now : NSDate),
        (world.peripherals peripheral).name ≠ none →
        (world.didDiscoverPeripheral peripheral now).ListedOnce peripheral ∧
          ((world.didDiscoverPeripheral peripheral now).peripherals peripheral).discoveryDate =
            some now := by
  intro hClaim
  have hFinal : ∃ world, exec World.step freshWorld pickAndExpire = .ok world ∧
      (world.peripherals backDoor).name ≠ none ∧
      backDoor ∉
        (world.didDiscoverPeripheral backDoor ⟨70, 55⟩).controller.knownDevicesArray ∧
      backDoor ∉
        (world.didDiscoverPeripheral backDoor ⟨70, 55⟩).controller.discoveredDevicesArray :=
    ⟨_, rfl, by decide, by decide, by decide⟩
  obtain ⟨world, hExec, hName, hKnown, hDiscovered⟩ := hFinal
  rcases (hClaim _ _ _ (run_of_exec hExec) rfl backDoor ⟨70, 55⟩ hName).1 with
    ⟨hListed, _⟩ | ⟨hListed, _⟩
  · exact hKnown hListed
  · exact hDiscovered hListed

end LockJaw
