import LockJaw.Bluetooth.Sessions

/-! The whole contents of the store after any number of sessions. Each selection of a
discovered device adds one record with its identifier; the name of the record is
assigned from the record itself, so what the device was called is lost. -/
namespace LockJaw

open Cocoa Semantics

namespace World

/-- The discovered device that a step takes and persists. -/
def chosenDevice (world : World) : SessionEvent → Option CBPeripheral
  | .controller (.selectPeripheralAtIndex index inSection) =>
      if inSection = 1 then
        match objectAtIndex world.controller.discoveredDevicesArray index with
        | .ok peripheral => some peripheral
        | .error _ => none
      else none
  | _ => none

/-- The identifier of a device and its name at this moment. -/
def recordOf (world : World) (peripheral : CBPeripheral) : LKJPeripheral where
  uuid := some peripheral.identifier.UUIDString
  name := (world.peripherals peripheral).name

end World

/-- What the selections of a history should have left in the store. -/
def chosenRecords (history : History World SessionEvent) : List LKJPeripheral :=
  history.filterMap fun entry =>
    (entry.1.chosenDevice entry.2).map entry.1.recordOf

/-- A choice adds its record after the others. -/
theorem chosenRecords_concat (history : History World SessionEvent) (world : World)
    (event : SessionEvent) :
    chosenRecords (history ++ [(world, event)]) =
      chosenRecords history ++ ((world.chosenDevice event).map world.recordOf).toList := by
  simp only [chosenRecords, List.filterMap_append]
  cases hDevice : world.chosenDevice event with
  | none => simp [hDevice]
  | some peripheral => simp [hDevice]

/-- A record as the code writes it. -/
def LKJPeripheral.withoutName (object : LKJPeripheral) : LKJPeripheral :=
  { object with name := none }

namespace World

section Records
variable {world after : World}

/-- A selection of a discovered device adds its record, another one adds none. -/
theorem selectPeripheralAtIndex_records {index : NSIndex} {inSection : Int}
    (hStep : world.selectPeripheralAtIndex index inSection = .ok after) :
    after.realm.peripherals = world.realm.peripherals ++
      ((world.chosenDevice (.controller (.selectPeripheralAtIndex index inSection))).map
        fun peripheral => (world.recordOf peripheral).withoutName).toList := by
  rcases selectPeripheralAtIndex_cases hStep with ⟨rfl, n, peripheral, _, _, rfl⟩ |
    ⟨rfl, n, peripheral, rfl, hGet, rfl⟩ | ⟨_, hOne, rfl⟩
  · rw [selectConnected_realm]
    exact (List.append_nil _).symm
  · rw [selectConnected_realm, chosenDevice, if_pos rfl, objectAtIndex_natCast _ n hGet]
    rfl
  · rw [chosenDevice, if_neg hOne]
    exact (List.append_nil _).symm

/-- A selection that raises found no device. -/
theorem chosenDevice_of_error {index : NSIndex} {inSection : Int} {exception : NSException}
    (hStep : world.selectPeripheralAtIndex index inSection = .error exception) :
    world.chosenDevice (.controller (.selectPeripheralAtIndex index inSection)) = none := by
  by_cases hOne : inSection = 1
  · rw [chosenDevice, if_pos hOne]
    cases hRead : objectAtIndex world.controller.discoveredDevicesArray index with
    | error => rfl
    | ok peripheral =>
        obtain ⟨n, rfl, hGet⟩ := objectAtIndex_eq_ok.mp hRead
        rw [hOne, selectPeripheralAtIndex_discovered hGet] at hStep
        cases hStep
  · rw [chosenDevice, if_neg hOne]

/-- A step stores the device that it chooses, without its name, and nothing else. -/
theorem step_records {roster : Roster CBPeripheral} (hRefines : Refines world roster)
    {event : ControllerEvent} (hStep : world.step event = .ok after) :
    after.realm.peripherals = world.realm.peripherals ++
      ((world.chosenDevice (.controller event)).map
        fun peripheral => (world.recordOf peripheral).withoutName).toList := by
  rcases step_cases hRefines.index_ne_notFound hStep with ⟨peripheral, now, rfl, rfl⟩ |
    ⟨index, inSection, rfl, hSelect⟩ | ⟨clock, rfl, hPass⟩ | ⟨_, _, hSame⟩
  · rw [(world.didDiscoverPeripheral_frame peripheral now).1]
    exact (List.append_nil _).symm
  · exact selectPeripheralAtIndex_records hSelect
  · obtain ⟨_, _, _, rfl⟩ := removeExpiredDevices_eq_ok hPass
    exact (List.append_nil _).symm
  · cases event with
    | selectPeripheralAtIndex index inSection => exact selectPeripheralAtIndex_records hStep
    | _ =>
        rw [hSame.2]
        exact (List.append_nil _).symm

/-- So does a step of a session; a restart stores nothing. -/
theorem sessionStep_records {roster : Roster CBPeripheral} (hRefines : Refines world roster)
    {event : SessionEvent} (hStep : sessionStep world event = .ok after) :
    after.realm.peripherals = world.realm.peripherals ++
      ((world.chosenDevice event).map
        fun peripheral => (world.recordOf peripheral).withoutName).toList := by
  cases event with
  | relaunch =>
      cases hStep
      exact (List.append_nil _).symm
  | controller event =>
      cases hResult : world.step event with
      | ok next =>
          simp only [sessionStep, hResult] at hStep
          cases hStep
          exact step_records hRefines hResult
      | error exception =>
          simp only [sessionStep, hResult] at hStep
          cases hStep
          have hNone : world.chosenDevice (.controller event) = none := by
            cases event with
            | selectPeripheralAtIndex index inSection => exact chosenDevice_of_error hResult
            | _ => rfl
          rw [hNone]
          exact (List.append_nil _).symm

end Records

end World

/-- The store holds, in order, the record of each discovered device ever selected, all of
them without a name. -/
theorem reachable_records {start world : World} {history : History World SessionEvent}
    (run : Run sessionStep start history world) (hInit : start.controller = .init)
    (hEmpty : start.realm.peripherals = []) :
    world.realm.peripherals = (chosenRecords history).map LKJPeripheral.withoutName := by
  induction run with
  | nil => exact hEmpty
  | @snoc history state after event prior last ih =>
      obtain ⟨roster, hRefines⟩ := (reachable_agrees prior hInit hEmpty).wellFormed
      rw [World.sessionStep_records hRefines last, chosenRecords_concat, List.map_append, ih]
      cases state.chosenDevice event <;> rfl

/-- The store is the image of the selections made so far exactly when no device that had a
name was among them. -/
theorem store_is_image_of_choices_iff {start world : World}
    {history : History World SessionEvent} (run : Run sessionStep start history world)
    (hInit : start.controller = .init) (hEmpty : start.realm.peripherals = []) :
    world.realm.peripherals = chosenRecords history ↔
      ∀ entry ∈ history, ∀ peripheral, entry.1.chosenDevice entry.2 = some peripheral →
        (entry.1.peripherals peripheral).name = none := by
  have hNameless : ∀ object : LKJPeripheral, object.withoutName = object ↔ object.name = none := by
    rintro ⟨uuid, name⟩
    simp [LKJPeripheral.withoutName, eq_comm]
  have hImage : (chosenRecords history).map LKJPeripheral.withoutName = chosenRecords history ↔
      ∀ object ∈ chosenRecords history, object.withoutName = object := by
    rw [← List.map_inj_left, List.map_id']
  rw [reachable_records run hInit hEmpty, hImage]
  constructor
  · intro hAll entry hEntry peripheral hDevice
    have hMem : entry.1.recordOf peripheral ∈ chosenRecords history :=
      List.mem_filterMap.mpr ⟨entry, hEntry, by rw [hDevice, Option.map_some]⟩
    exact (hNameless _).mp (hAll _ hMem)
  · intro hNames object hObject
    obtain ⟨entry, hEntry, hRecord⟩ := List.mem_filterMap.mp hObject
    obtain ⟨peripheral, hDevice, rfl⟩ := Option.map_eq_some_iff.mp hRecord
    exact (hNameless _).mpr (hNames entry hEntry peripheral hDevice)

/-- The front door loses its name before it is picked. -/
def pickNameless : List SessionEvent :=
  [.controller (.didDiscoverPeripheral frontDoor ⟨100, 20⟩),
    .controller (.peripheralChanges frontDoor none .disconnected),
    .controller (.selectPeripheralAtIndex (.position 0) 1)]

theorem store_is_image_of_nameless_choice :
    ∃ world, exec sessionStep freshWorld pickNameless = .ok world ∧
      world.realm.peripherals.length = 1 ∧
      world.realm.peripherals =
        chosenRecords (historyOf sessionStep freshWorld pickNameless) := by
  have hFinal : ∃ world, exec sessionStep freshWorld pickNameless = .ok world ∧
      world.realm.peripherals.length = 1 := ⟨_, rfl, rfl⟩
  obtain ⟨world, hExec, hLength⟩ := hFinal
  have run := run_of_exec hExec
  refine ⟨world, hExec, hLength, (store_is_image_of_choices_iff run rfl rfl).mpr ?_⟩
  refine List.forall_mem_cons.mpr ⟨nofun, ?_⟩
  refine List.forall_mem_cons.mpr ⟨nofun, ?_⟩
  refine List.forall_mem_cons.mpr ⟨?_, List.forall_mem_nil _⟩
  intro peripheral hDevice
  cases hDevice
  rfl

/-- The record of the front door has no name, though the device has one. -/
theorem stored_name_is_lost :
    ∃ world, exec sessionStep freshWorld pickAndRelaunch = .ok world ∧
      world.realm.peripherals ≠
        chosenRecords (historyOf sessionStep freshWorld pickAndRelaunch) := by
  have hFinal : ∃ world, exec sessionStep freshWorld pickAndRelaunch = .ok world ∧
      world.realm.peripherals.map LKJPeripheral.name = [none] := ⟨_, rfl, rfl⟩
  obtain ⟨world, hExec, hStored⟩ := hFinal
  have hChosen : (chosenRecords (historyOf sessionStep freshWorld pickAndRelaunch)).map
      LKJPeripheral.name = [some "Capsus"] := rfl
  refine ⟨world, hExec, ?_⟩
  intro hImage
  rw [hImage, hChosen] at hStored
  cases hStored

end LockJaw
