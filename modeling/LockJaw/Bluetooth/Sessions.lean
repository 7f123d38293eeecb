import LockJaw.Bluetooth.Selection

/-! Runs over any number of sessions of the application. A relaunch keeps the
Realm store and nothing else of the controller; a method that raises ends its
session in the same way. No method that raises has written to the store before. -/
namespace LockJaw

open Cocoa Semantics

/-- A new process: a fresh controller and fresh peripheral objects. -/
def World.relaunch (world : World) : World where
  controller := .init
  peripherals := fun peripheral =>
    { world.peripherals peripheral with link := .disconnected, discoveryDate := none }
  realm := world.realm
  central := { state := .unknown, commands := [] }

inductive SessionEvent where
  | controller (event : ControllerEvent)
  | relaunch

def sessionStep (world : World) : SessionEvent → Except NSException World
  | .controller event =>
      match world.step event with
      | .ok after => .ok after
      | .error _ => .ok world.relaunch
  | .relaunch => .ok world.relaunch

/-- What a history says about devices: those picked in earlier sessions, those
picked in the current one, and those with a named advertisement in it. -/
structure Ledger where
  earlier : List CBPeripheral
  current : List CBPeripheral
  advertised : List CBPeripheral

namespace Ledger

def empty : Ledger := ⟨[], [], []⟩

/-- The end of a session. -/
def close (ledger : Ledger) : Ledger := ⟨ledger.earlier ++ ledger.current, [], []⟩

def record (ledger : Ledger) (entry : World × SessionEvent) : Ledger :=
  match entry.2 with
  | .relaunch => ledger.close
  | .controller event =>
      match entry.1.step event with
      | .error _ => ledger.close
      | .ok _ =>
          { ledger with
            current := ledger.current ++ (entry.1.picked event).toList
            advertised := ledger.advertised ++ (entry.1.advertised event).toList }

end Ledger

/-- The ledger of a whole history. -/
def ledgerOf (history : History World SessionEvent) : Ledger :=
  history.foldl Ledger.record .empty

/-- The ledger records one entry after the other. -/
theorem ledgerOf_concat (history : History World SessionEvent)
    (entry : World × SessionEvent) :
    ledgerOf (history ++ [entry]) = (ledgerOf history).record entry := by
  simp [ledgerOf]

/-- The store, the lists and the ledger agree. The store holds one record for each
device ever picked, and the lists of the session respect it. -/
structure Agrees (ledger : Ledger) (world : World) : Prop where
  wellFormed : ∃ roster : Roster CBPeripheral, Refines world roster
  recorded : ∀ peripheral, world.HasRecord peripheral ↔
    peripheral ∈ ledger.earlier ∨ peripheral ∈ ledger.current
  uuid_nodup : (world.realm.peripherals.map LKJPeripheral.uuid).Nodup
  known_recorded : ∀ peripheral ∈ world.controller.knownDevicesArray,
    world.HasRecord peripheral
  discovered_unrecorded : ∀ peripheral ∈ world.controller.discoveredDevicesArray,
    ¬ world.HasRecord peripheral
  current_known : ∀ peripheral ∈ ledger.current,
    peripheral ∈ world.controller.knownDevicesArray
  seen_advertised : ∀ peripheral, world.Seen peripheral ↔ peripheral ∈ ledger.advertised

namespace World

/-- One more record, of this peripheral and without a name. -/
theorem hasRecord_of_realm {world after : World} {peripheral other : CBPeripheral}
    (h : after.realm.peripherals = world.realm.peripherals ++
      [{ uuid := some peripheral.identifier.UUIDString, name := none }]) :
    after.HasRecord other ↔ world.HasRecord other ∨ other = peripheral := by
  have hSame : some peripheral.identifier.UUIDString = some other.identifier.UUIDString ↔
      other = peripheral := by
    rw [Option.some.injEq, NSUUID.UUIDString_injective.eq_iff, eq_comm]
    cases other
    cases peripheral
    simp
  simp only [HasRecord, h, List.mem_append, List.mem_singleton, or_and_right, exists_or,
    exists_eq_left, hSame]

theorem hasRecord_congr {world after : World} (h : after.realm = world.realm)
    (peripheral : CBPeripheral) : after.HasRecord peripheral ↔ world.HasRecord peripheral := by
  simp only [HasRecord, h]

/-- Distinct records of one device are the only way to count it twice. -/
theorem countP_eq_one {world : World} {peripheral : CBPeripheral}
    (hNodup : (world.realm.peripherals.map LKJPeripheral.uuid).Nodup)
    (h : world.HasRecord peripheral) :
    world.realm.peripherals.countP
      (fun object => object.uuid = some peripheral.identifier.UUIDString) = 1 := by
  have hMem : some peripheral.identifier.UUIDString ∈
      world.realm.peripherals.map LKJPeripheral.uuid := by
    obtain ⟨object, hObject, hUUID⟩ := h
    exact List.mem_map.mpr ⟨object, hObject, hUUID⟩
  have hCount := List.count_eq_one_of_mem hNodup hMem
  rw [List.count, List.countP_map] at hCount
  rw [← hCount]
  congr 1
  funext object
  exact Bool.eq_iff_iff.mpr (by simp)

end World

namespace Agrees

variable {ledger : Ledger} {world after : World}

/-- At first nothing is stored and nothing was heard. -/
theorem start (hInit : world.controller = .init) (hEmpty : world.realm.peripherals = []) :
    Agrees .empty world where
  wellFormed := ⟨.empty, .init hInit⟩
  recorded := by simp [World.HasRecord, hEmpty, Ledger.empty]
  uuid_nodup := by simp [hEmpty]
  known_recorded := by simp [hInit, LKJBluetoothController.init]
  discovered_unrecorded := by simp [hInit, LKJBluetoothController.init]
  current_known := by simp [Ledger.empty]
  seen_advertised := by simp [World.Seen, hInit, LKJBluetoothController.init, Ledger.empty]

/-- The store and its ledger outlive the session, the lists do not. -/
theorem relaunch (h : Agrees ledger world) : Agrees ledger.close world.relaunch where
  wellFormed := ⟨.empty, .init rfl⟩
  recorded := by
    intro peripheral
    rw [World.hasRecord_congr (show world.relaunch.realm = world.realm from rfl), h.recorded]
    simp [Ledger.close]
  uuid_nodup := h.uuid_nodup
  known_recorded := by simp [World.relaunch, LKJBluetoothController.init]
  discovered_unrecorded := by simp [World.relaunch, LKJBluetoothController.init]
  current_known := by simp [Ledger.close]
  seen_advertised := by
    simp [World.Seen, World.relaunch, LKJBluetoothController.init, Ledger.close]

/-- Steps that touch no device, and nothing in the ledger. -/
theorem sameDevices (h : Agrees ledger world) (hSame : world.SameDevices after) :
    Agrees ledger after := by
  obtain ⟨roster, hRefines⟩ := h.wellFormed
  have hRecord := World.hasRecord_congr hSame.2
  refine ⟨⟨roster, hRefines.congr hSame.1⟩, ?_, ?_, ?_, ?_, ?_, ?_⟩
  · intro peripheral
    rw [hRecord]
    exact h.recorded peripheral
  · rw [hSame.2]
    exact h.uuid_nodup
  · rw [hSame.1]
    exact fun peripheral hMem => (hRecord peripheral).mpr (h.known_recorded peripheral hMem)
  · rw [hSame.1]
    exact fun peripheral hMem hHas =>
      h.discovered_unrecorded peripheral hMem ((hRecord peripheral).mp hHas)
  · rw [hSame.1]
    exact h.current_known
  · intro peripheral
    rw [World.Seen, hSame.1]
    exact h.seen_advertised peripheral

/-- A discovery is recorded if the device has a name. -/
theorem didDiscoverPeripheral (h : Agrees ledger world) (peripheral : CBPeripheral)
    (now : NSDate) :
    Agrees { ledger with advertised := ledger.advertised ++
        (world.advertised (.didDiscoverPeripheral peripheral now)).toList }
      (world.didDiscoverPeripheral peripheral now) := by
  obtain ⟨roster, hRefines⟩ := h.wellFormed
  obtain ⟨next, _, hNext⟩ := hRefines.didDiscoverPeripheral peripheral now
  have hWellFormed : ∃ roster : Roster CBPeripheral,
      Refines (world.didDiscoverPeripheral peripheral now) roster := ⟨next, hNext⟩
  by_cases hName : (world.peripherals peripheral).name = none
  · rw [World.didDiscoverPeripheral_of_unnamed hName]
    simpa [World.advertised, hName] using h
  have hAdvertised : world.advertised (.didDiscoverPeripheral peripheral now) =
      some peripheral := by
    simp [World.advertised, hName]
  rw [hAdvertised]
  have hSeenAfter : ∀ other, (other = peripheral ∨ world.Seen other) ↔
      other ∈ ledger.advertised ++ [peripheral] := by
    intro other
    rw [h.seen_advertised, List.mem_append, List.mem_singleton, or_comm]
  by_cases hSeen : world.Seen peripheral
  · rw [World.didDiscoverPeripheral_of_seen hName hSeen] at hWellFormed ⊢
    refine ⟨hWellFormed, h.recorded, h.uuid_nodup, h.known_recorded, h.discovered_unrecorded,
      h.current_known, ?_⟩
    intro other
    rw [Refines.seen_setDictionaryEntry]
    exact hSeenAfter other
  by_cases hRecord : world.HasRecord peripheral
  · rw [World.didDiscoverPeripheral_of_record hName hSeen hRecord] at hWellFormed ⊢
    refine ⟨hWellFormed, h.recorded, h.uuid_nodup, ?_, h.discovered_unrecorded, ?_, ?_⟩
    · intro other hOther
      rcases List.mem_append.mp hOther with hOther | hOther
      · exact h.known_recorded other hOther
      · obtain rfl := List.mem_singleton.mp hOther
        exact hRecord
    · exact fun other hOther => List.mem_append_left _ (h.current_known other hOther)
    · intro other
      rw [Refines.seen_setDictionaryEntry]
      exact hSeenAfter other
  · rw [World.didDiscoverPeripheral_of_no_record hName hSeen hRecord] at hWellFormed ⊢
    refine ⟨hWellFormed, h.recorded, h.uuid_nodup, h.known_recorded, ?_, h.current_known, ?_⟩
    · intro other hOther
      rcases List.mem_append.mp hOther with hOther | hOther
      · exact h.discovered_unrecorded other hOther
      · obtain rfl := List.mem_singleton.mp hOther
        exact hRecord
    · intro other
      rw [Refines.seen_setDictionaryEntry]
      exact hSeenAfter other

/-- A pick from the known devices changes neither the lists nor the store. -/
theorem selectKnown (h : Agrees ledger world) {peripheral : CBPeripheral}
    (hMem : peripheral ∈ world.controller.knownDevicesArray) :
    Agrees { ledger with current := ledger.current ++ [peripheral] }
      (world.selectConnected peripheral) := by
  obtain ⟨roster, hRefines⟩ := h.wellFormed
  have hChosen : peripheral ∈ roster.chosen := hRefines.known ▸ hMem
  have hNext := hRefines.selectConnected_of_mem hChosen
  have hConnected : peripheral ∈ world.controller.connectedPeripherals := by
    rwa [hRefines.connected]
  rw [World.selectConnected_of_mem hConnected] at hNext ⊢
  refine ⟨⟨_, hNext⟩, ?_, h.uuid_nodup, h.known_recorded, h.discovered_unrecorded, ?_,
    h.seen_advertised⟩
  · intro other
    change world.HasRecord other ↔
      other ∈ ledger.earlier ∨ other ∈ ledger.current ++ [peripheral]
    rw [h.recorded other, List.mem_append, List.mem_singleton]
    constructor
    · rintro (hEarlier | hCurrent)
      · exact .inl hEarlier
      · exact .inr (.inl hCurrent)
    · rintro (hEarlier | hCurrent | rfl)
      · exact .inl hEarlier
      · exact .inr hCurrent
      · exact (h.recorded other).mp (h.known_recorded other hMem)
  · intro other hOther
    rcases List.mem_append.mp hOther with hOther | hOther
    · exact h.current_known other hOther
    · obtain rfl := List.mem_singleton.mp hOther
      exact hMem

/-- A pick from the discovered devices moves the device and adds its only record. -/
theorem selectDiscovered (h : Agrees ledger world) {n : Nat} {peripheral : CBPeripheral}
    (hGet : world.controller.discoveredDevicesArray[n]? = some peripheral) :
    Agrees { ledger with current := ledger.current ++ [peripheral] }
      ((world.moveToKnown n peripheral).selectConnected peripheral) := by
  obtain ⟨roster, hRefines⟩ := h.wellFormed
  have hMem := List.mem_of_getElem? hGet
  have hCandidate : peripheral ∈ roster.candidates := hRefines.discovered ▸ hMem
  have hNext := hRefines.selectConnected_of_candidate hGet hCandidate
  have hNew := h.discovered_unrecorded peripheral hMem
  have hNotConnected :
      peripheral ∉ (world.moveToKnown n peripheral).controller.connectedPeripherals := by
    intro hm
    exact roster.not_both peripheral (hRefines.connected ▸ hm) hCandidate
  rw [World.selectConnected_of_not_mem hNotConnected] at hNext ⊢
  have hRecord : ∀ other, (world.moveToKnown n peripheral).HasRecord other ↔
      world.HasRecord other ∨ other = peripheral :=
    fun other => World.hasRecord_of_realm rfl
  refine ⟨⟨_, hNext⟩, ?_, ?_, ?_, ?_, ?_, h.seen_advertised⟩
  · intro other
    change (world.moveToKnown n peripheral).HasRecord other ↔
      other ∈ ledger.earlier ∨ other ∈ ledger.current ++ [peripheral]
    rw [hRecord, h.recorded other, List.mem_append, List.mem_singleton, or_assoc]
  · change ((world.realm.peripherals ++ [_]).map LKJPeripheral.uuid).Nodup
    rw [List.map_append, List.map_singleton]
    refine Roster.nodup_concat h.uuid_nodup ?_
    intro hUUID
    obtain ⟨object, hObject, hEq⟩ := List.mem_map.mp hUUID
    exact hNew ⟨object, hObject, hEq⟩
  · intro other hOther
    change (world.moveToKnown n peripheral).HasRecord other
    rw [hRecord]
    rcases List.mem_append.mp hOther with hOther | hOther
    · exact .inl (h.known_recorded other hOther)
    · exact .inr (List.mem_singleton.mp hOther)
  · intro other hOther
    have hOld : other ∈ world.controller.discoveredDevicesArray :=
      List.mem_of_mem_eraseIdx hOther
    change ¬ (world.moveToKnown n peripheral).HasRecord other
    rw [hRecord, not_or]
    refine ⟨h.discovered_unrecorded other hOld, ?_⟩
    rintro rfl
    change other ∈ world.controller.discoveredDevicesArray.eraseIdx n at hOther
    rw [hRefines.discovered] at hOther hGet
    rw [eraseIdx_eq_erase roster.candidates_nodup hGet] at hOther
    exact (roster.candidates_nodup.mem_erase_iff.mp hOther).1 rfl
  · intro other hOther
    rcases List.mem_append.mp hOther with hOther | hOther
    · exact List.mem_append_left _ (h.current_known other hOther)
    · exact List.mem_append_right _ hOther

/-- A pass leaves the store alone. -/
theorem removeExpiredDevices (h : Agrees ledger world) {clock : PassClock}
    (hStep : world.removeExpiredDevices clock = .ok after) : Agrees ledger after := by
  obtain ⟨roster, hRefines⟩ := h.wellFormed
  obtain ⟨next, _, hNext⟩ := hRefines.removeExpiredDevices hStep
  obtain ⟨current, _, _, rfl⟩ := World.removeExpiredDevices_eq_ok hStep
  refine ⟨⟨next, hNext⟩, h.recorded, h.uuid_nodup, h.known_recorded, ?_, h.current_known,
    h.seen_advertised⟩
  intro peripheral hMem
  have hKept := (List.diff_sublist _ _).subset ((List.diff_sublist _ _).subset hMem)
  exact h.discovered_unrecorded peripheral hKept

/-- A step of the controller that completes. -/
theorem controllerStep (h : Agrees ledger world) {event : ControllerEvent}
    (hStep : world.step event = .ok after) :
    Agrees { ledger with
      current := ledger.current ++ (world.picked event).toList
      advertised := ledger.advertised ++ (world.advertised event).toList } after := by
  obtain ⟨roster, hRefines⟩ := h.wellFormed
  rcases World.step_cases hRefines.index_ne_notFound hStep with ⟨peripheral, now, rfl, rfl⟩ |
    ⟨index, inSection, rfl, hSelect⟩ | ⟨clock, rfl, hPass⟩ | ⟨hPicked, hAdvertised, hSame⟩
  · simpa [World.picked] using h.didDiscoverPeripheral peripheral now
  · rcases World.selectPeripheralAtIndex_cases hSelect with
      ⟨rfl, n, peripheral, rfl, hGet, rfl⟩ | ⟨rfl, n, peripheral, rfl, hGet, rfl⟩ |
      ⟨hZero, hOne, rfl⟩
    · have hPicked := World.picked_known hGet
      simpa [hPicked, World.advertised] using h.selectKnown (List.mem_of_getElem? hGet)
    · have hPicked := World.picked_discovered hGet
      simpa [hPicked, World.advertised] using h.selectDiscovered hGet
    · have hPicked : after.picked (.selectPeripheralAtIndex index inSection) = none :=
        World.picked_other_section hZero hOne
      simpa [hPicked, World.advertised] using h
  · simpa [World.picked, World.advertised] using h.removeExpiredDevices hPass
  · simpa [hPicked, hAdvertised] using h.sameDevices hSame

/-- Every step of a session keeps the agreement. -/
theorem sessionStep (h : Agrees ledger world) {event : SessionEvent}
    (hStep : sessionStep world event = .ok after) :
    Agrees (ledger.record (world, event)) after := by
  cases event with
  | relaunch =>
      cases hStep
      exact h.relaunch
  | controller event =>
      cases hResult : world.step event with
      | error exception =>
          simp only [LockJaw.sessionStep, hResult] at hStep
          cases hStep
          simpa [Ledger.record, hResult] using h.relaunch
      | ok next =>
          simp only [LockJaw.sessionStep, hResult] at hStep
          cases hStep
          simpa [Ledger.record, hResult] using h.controllerStep hResult

end Agrees

/-- So it is over any number of sessions. -/
theorem reachable_agrees {start world : World} {history : History World SessionEvent}
    (run : Run sessionStep start history world) (hInit : start.controller = .init)
    (hEmpty : start.realm.peripherals = []) : Agrees (ledgerOf history) world := by
  refine run.induction (fun history world => Agrees (ledgerOf history) world)
    (.start hInit hEmpty) ?_
  intro history state event after _ hState hStep
  rw [ledgerOf_concat]
  exact hState.sessionStep hStep

/-- Across sessions the store has at most one record of a device, the known
devices are exactly recorded and the discovered ones are not; so the first named
advertisement of a device in a session lists it as known exactly when it was
picked in an earlier session. -/
theorem store_agrees_across_sessions {start world : World}
    {history : History World SessionEvent} (run : Run sessionStep start history world)
    (hInit : start.controller = .init) (hEmpty : start.realm.peripherals = []) :
    (world.realm.peripherals.map LKJPeripheral.uuid).Nodup ∧
    (∀ peripheral ∈ world.controller.knownDevicesArray,
      world.realm.peripherals.countP
        (fun object => object.uuid = some peripheral.identifier.UUIDString) = 1) ∧
    (∀ peripheral ∈ world.controller.discoveredDevicesArray,
      world.realm.peripherals.countP
        (fun object => object.uuid = some peripheral.identifier.UUIDString) = 0) ∧
    (∀ peripheral now, (world.peripherals peripheral).name ≠ none →
      peripheral ∉ (ledgerOf history).advertised →
      (peripheral ∈
          (world.didDiscoverPeripheral peripheral now).controller.knownDevicesArray ↔
        peripheral ∈ (ledgerOf history).earlier) ∧
      (peripheral ∈
          (world.didDiscoverPeripheral peripheral now).controller.discoveredDevicesArray ↔
        peripheral ∉ (ledgerOf history).earlier)) := by
  have h := reachable_agrees run hInit hEmpty
  refine ⟨h.uuid_nodup, ?_, ?_, ?_⟩
  · intro peripheral hMem
    exact World.countP_eq_one h.uuid_nodup (h.known_recorded peripheral hMem)
  · intro peripheral hMem
    rw [List.countP_eq_zero]
    intro object hObject hUUID
    exact h.discovered_unrecorded peripheral hMem ⟨object, hObject, by simpa using hUUID⟩
  · intro peripheral now hName hFirst
    obtain ⟨roster, hRefines⟩ := h.wellFormed
    have hWellFormed := hRefines.wellFormed
    have hSeen : ¬ world.Seen peripheral := fun hSeen =>
      hFirst ((h.seen_advertised peripheral).mp hSeen)
    have hUnknown : peripheral ∉ world.controller.knownDevicesArray := fun hMem =>
      hSeen (hWellFormed.known_seen peripheral hMem)
    have hUndiscovered : peripheral ∉ world.controller.discoveredDevicesArray := fun hMem =>
      hSeen (hWellFormed.discovered_seen peripheral hMem)
    have hEarlier : world.HasRecord peripheral ↔ peripheral ∈ (ledgerOf history).earlier := by
      rw [h.recorded peripheral]
      have hCurrent : peripheral ∉ (ledgerOf history).current := fun hMem =>
        hUnknown (h.current_known peripheral hMem)
      simp [hCurrent]
    by_cases hRecord : world.HasRecord peripheral
    · rw [World.didDiscoverPeripheral_of_record hName hSeen hRecord, ← hEarlier]
      simp [World.listKnown, World.setDictionaryEntry, World.dispatchAsync, hRecord,
        hUndiscovered]
    · rw [World.didDiscoverPeripheral_of_no_record hName hSeen hRecord, ← hEarlier]
      simp [World.listDiscovered, World.setDictionaryEntry, World.dispatchAsync, hRecord,
        hUnknown]

/-- One session that picks the front door, and the start of the next one. -/
def pickAndRelaunch : List SessionEvent :=
  [.controller (.didDiscoverPeripheral frontDoor ⟨100, 20⟩),
    .controller (.didDiscoverPeripheral backDoor ⟨5, 0⟩),
    .controller (.selectPeripheralAtIndex (.position 0) 1), .relaunch]

theorem store_agrees_after_relaunch :
    ∃ world, exec sessionStep freshWorld pickAndRelaunch = .ok world ∧
      frontDoor ∈
        (world.didDiscoverPeripheral frontDoor ⟨7, 90⟩).controller.knownDevicesArray ∧
      backDoor ∈
        (world.didDiscoverPeripheral backDoor ⟨7, 90⟩).controller.discoveredDevicesArray := by
  have hFinal : ∃ world, exec sessionStep freshWorld pickAndRelaunch = .ok world ∧
      (world.peripherals frontDoor).name ≠ none ∧ (world.peripherals backDoor).name ≠ none :=
    ⟨_, rfl, by decide, by decide⟩
  obtain ⟨world, hExec, hFront, hBack⟩ := hFinal
  have hLedger : ledgerOf (historyOf sessionStep freshWorld pickAndRelaunch) =
      ⟨[frontDoor], [], []⟩ := rfl
  have hAgrees := (store_agrees_across_sessions (run_of_exec hExec) rfl rfl).2.2.2
  rw [hLedger] at hAgrees
  exact ⟨world, hExec,
    (hAgrees frontDoor ⟨7, 90⟩ hFront (by simp)).1.mpr (by simp),
    (hAgrees backDoor ⟨7, 90⟩ hBack (by simp)).2.mpr (by decide)⟩

end LockJaw
