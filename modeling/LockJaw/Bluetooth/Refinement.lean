import LockJaw.Bluetooth.Methods
import LockJaw.Bluetooth.Roster
import LockJaw.Semantics.Run

/-! The controller refines a roster: its two arrays of known and of connected
peripherals both hold the chosen devices, its dictionary the seen ones, and its
index designates the selected device. Every step that completes is a step of the
roster, so a reachable controller inherits what the roster's type guarantees. -/
namespace LockJaw

open Cocoa Semantics

namespace World

/-- The index stands for a selection: `-1` for none. -/
def Selects (world : World) : Option CBPeripheral → Prop
  | none => world.controller.selectedBluetoothDeviceIndex = .position (-1)
  | some peripheral => world.Designates peripheral

end World

structure Refines (world : World) (roster : Roster CBPeripheral) : Prop where
  known : world.controller.knownDevicesArray = roster.chosen
  connected : world.controller.connectedPeripherals = roster.chosen
  discovered : world.controller.discoveredDevicesArray = roster.candidates
  seen : ∀ peripheral, world.Seen peripheral ↔ peripheral ∈ roster.seen
  selection : world.Selects roster.selected

namespace Refines

variable {world after : World} {roster : Roster CBPeripheral}

theorem init {world : World} (h : world.controller = .init) :
    Refines world (.empty : Roster CBPeripheral) where
  known := by rw [h]; rfl
  connected := by rw [h]; rfl
  discovered := by rw [h]; rfl
  seen := by simp [World.Seen, h, LKJBluetoothController.init, Roster.empty]
  selection := by
    change _ = _
    rw [h]
    rfl

/-- The selected index is a position or -1. -/
theorem index_ne_notFound (h : Refines world roster) :
    world.controller.selectedBluetoothDeviceIndex ≠ .notFound := by
  have hSelection := h.selection
  cases hSelected : roster.selected with
  | none =>
      rw [hSelected] at hSelection
      simp [show world.controller.selectedBluetoothDeviceIndex = _ from hSelection]
  | some peripheral =>
      rw [hSelected] at hSelection
      obtain ⟨n, hIndex, _⟩ := hSelection
      simp [hIndex]

/-- What the index designates is what the roster has selected. -/
theorem selected_of_designates (h : Refines world roster) {peripheral : CBPeripheral}
    (hSelected : world.Designates peripheral) : roster.selected = some peripheral := by
  have hSelection := h.selection
  cases hRoster : roster.selected with
  | none =>
      rw [hRoster] at hSelection
      obtain ⟨n, hIndex, _⟩ := hSelected
      simp [show world.controller.selectedBluetoothDeviceIndex = _ from hSelection] at hIndex
  | some other =>
      rw [hRoster] at hSelection
      rw [hSelected.unique hSelection]

/-- Only the devices and the index matter. -/
theorem congr (h : Refines world roster) (hDevices : world.SameLists after) :
    Refines after roster := by
  obtain ⟨hKnown, hConnected, hDiscovered, hSeen, hSelection⟩ := h
  refine ⟨?_, ?_, ?_, ?_, ?_⟩
  · rw [hDevices]
    exact hKnown
  · rw [hDevices]
    exact hConnected
  · rw [hDevices]
    exact hDiscovered
  · intro peripheral
    rw [World.Seen, hDevices]
    exact hSeen peripheral
  · cases hSelected : roster.selected with
    | none =>
        rw [hSelected] at hSelection
        change _ = _
        rw [hDevices]
        exact hSelection
    | some peripheral =>
        rw [hSelected] at hSelection
        change ∃ n : Nat, _
        rw [hDevices]
        exact hSelection

/-- A new entry of the dictionary makes exactly that peripheral seen. -/
theorem seen_setDictionaryEntry (world : World) (peripheral other : CBPeripheral) :
    (world.setDictionaryEntry peripheral).Seen other ↔
      other = peripheral ∨ world.Seen other := by
  simp only [World.Seen, World.setDictionaryEntry, Function.update_apply]
  by_cases h : other.identifier = peripheral.identifier
  · have hSame : other = peripheral := by
      cases other
      cases peripheral
      simpa using h
    simp [hSame]
  · have hDifferent : other ≠ peripheral := fun hEq => h (by rw [hEq])
    simp [h, hDifferent]

/-- Appending keeps the designated element where it is. -/
theorem selects_append (devices : List CBPeripheral) {selected : Option CBPeripheral}
    (h : world.Selects selected)
    (hIndex : after.controller.selectedBluetoothDeviceIndex =
      world.controller.selectedBluetoothDeviceIndex)
    (hDevices : after.controller.connectedPeripherals =
      world.controller.connectedPeripherals ++ devices) :
    after.Selects selected := by
  cases selected with
  | none => exact hIndex.trans h
  | some peripheral =>
      obtain ⟨n, hPosition, hGet⟩ := h
      refine ⟨n, hIndex.trans hPosition, ?_⟩
      rw [hDevices, List.getElem?_append_left (List.getElem?_eq_some_iff.mp hGet).1]
      exact hGet

/-- A discovery is a step of the roster that picks nothing. -/
theorem didDiscoverPeripheral (h : Refines world roster) (peripheral : CBPeripheral)
    (now : NSDate) :
    ∃ next, Roster.Step roster none next ∧
      Refines (world.didDiscoverPeripheral peripheral now) next := by
  by_cases hName : (world.peripherals peripheral).name = none
  · rw [World.didDiscoverPeripheral_of_unnamed hName]
    exact ⟨roster, .stay roster, h⟩
  by_cases hSeen : world.Seen peripheral
  · rw [World.didDiscoverPeripheral_of_seen hName hSeen]
    refine ⟨roster, .stay roster, h.known, h.connected, h.discovered, ?_, ?_⟩
    · intro other
      rw [seen_setDictionaryEntry]
      constructor
      · rintro (rfl | hOther)
        · exact (h.seen other).mp hSeen
        · exact (h.seen other).mp hOther
      · exact fun hOther => .inr ((h.seen other).mpr hOther)
    · exact selects_append [] h.selection rfl (List.append_nil _).symm
  have hFresh : peripheral ∉ roster.seen := fun hm => hSeen ((h.seen peripheral).mpr hm)
  have hInsert : ∀ other, (other = peripheral ∨ world.Seen other) ↔
      other ∈ insert peripheral roster.seen := by
    intro other
    rw [h.seen other, Set.mem_insert_iff]
  by_cases hRecord : world.HasRecord peripheral
  · rw [World.didDiscoverPeripheral_of_record hName hSeen hRecord]
    refine ⟨roster.meetChosen peripheral hFresh, .meetChosen _ _ hFresh, ?_, ?_, h.discovered,
      ?_, ?_⟩
    · exact congrArg (· ++ [peripheral]) h.known
    · exact congrArg (· ++ [peripheral]) h.connected
    · intro other
      rw [seen_setDictionaryEntry]
      exact hInsert other
    · exact selects_append [peripheral] h.selection rfl rfl
  · rw [World.didDiscoverPeripheral_of_no_record hName hSeen hRecord]
    refine ⟨roster.meetCandidate peripheral hFresh, .meetCandidate _ _ hFresh, h.known,
      h.connected, ?_, ?_, ?_⟩
    · exact congrArg (· ++ [peripheral]) h.discovered
    · intro other
      rw [seen_setDictionaryEntry]
      exact hInsert other
    · exact selects_append [] h.selection rfl (List.append_nil _).symm

/-- Setting the selection to a device that is connected already. -/
theorem selectConnected_of_mem (h : Refines world roster) {peripheral : CBPeripheral}
    (hMem : peripheral ∈ roster.chosen) :
    Refines (world.selectConnected peripheral) (roster.select peripheral hMem) := by
  have hConnected : peripheral ∈ world.controller.connectedPeripherals := by
    rwa [h.connected]
  rw [World.selectConnected_of_mem hConnected]
  exact ⟨h.known, h.connected, h.discovered, h.seen, _, rfl, List.getElem?_idxOf hConnected⟩

/-- A discovered device that is picked is not connected, so the selection appends
it to `connectedPeripherals` and both arrays stay equal. -/
theorem selectConnected_of_candidate (h : Refines world roster) {n : Nat}
    {peripheral : CBPeripheral}
    (hGet : world.controller.discoveredDevicesArray[n]? = some peripheral)
    (hMem : peripheral ∈ roster.candidates) :
    Refines ((world.moveToKnown n peripheral).selectConnected peripheral)
      (roster.choose peripheral hMem) := by
  have hNotConnected :
      peripheral ∉ (world.moveToKnown n peripheral).controller.connectedPeripherals := by
    intro hm
    have hChosen : peripheral ∈ roster.chosen := h.connected ▸ hm
    exact roster.not_both peripheral hChosen hMem
  rw [World.selectConnected_of_not_mem hNotConnected]
  refine ⟨?_, ?_, ?_, h.seen, world.controller.connectedPeripherals.length, rfl, ?_⟩
  · exact congrArg (· ++ [peripheral]) h.known
  · exact congrArg (· ++ [peripheral]) h.connected
  · change world.controller.discoveredDevicesArray.eraseIdx n = roster.candidates.erase peripheral
    rw [h.discovered] at hGet ⊢
    exact eraseIdx_eq_erase roster.candidates_nodup hGet
  · change (world.controller.connectedPeripherals ++ [peripheral])[_]? = _
    simp

/-- A selection is a step of the roster that picks the device. -/
theorem selectPeripheralAtIndex (h : Refines world roster) {index : NSIndex} {inSection : Int}
    (hStep : world.selectPeripheralAtIndex index inSection = .ok after) :
    ∃ next, Roster.Step roster (world.picked (.selectPeripheralAtIndex index inSection)) next ∧
      Refines after next := by
  rcases World.selectPeripheralAtIndex_cases hStep with
    ⟨rfl, n, peripheral, rfl, hGet, rfl⟩ | ⟨rfl, n, peripheral, rfl, hGet, rfl⟩ |
    ⟨hZero, hOne, rfl⟩
  · have hMem : peripheral ∈ roster.chosen := h.known ▸ List.mem_of_getElem? hGet
    rw [World.picked_known hGet]
    exact ⟨roster.select peripheral hMem, .select _ _ hMem, h.selectConnected_of_mem hMem⟩
  · have hMem : peripheral ∈ roster.candidates := h.discovered ▸ List.mem_of_getElem? hGet
    rw [World.picked_discovered hGet]
    exact ⟨roster.choose peripheral hMem, .choose _ _ hMem,
      h.selectConnected_of_candidate hGet hMem⟩
  · rw [World.picked_other_section hZero hOne]
    exact ⟨roster, .stay roster, h⟩

/-- In a pass that completes the second loop collects nothing: what it collects is
connected, and what it removes would have to be discovered. -/
theorem staleDevices_eq_nil (h : Refines world roster) {clock : PassClock}
    (hFound : (world.staleDevices clock).Subperm
      (world.controller.discoveredDevicesArray.diff (world.lostDevices clock))) :
    world.staleDevices clock = [] := by
  rw [List.eq_nil_iff_forall_not_mem]
  intro peripheral hStale
  have hConnected : peripheral ∈ roster.chosen :=
    h.connected ▸ (World.peripheralsToRemove_sublist _ _ _ _).subset hStale
  have hDiscovered : peripheral ∈ roster.candidates :=
    h.discovered ▸ (List.diff_sublist _ _).subset (hFound.subset hStale)
  exact roster.not_both peripheral hConnected hDiscovered

/-- A pass that completes is a step of the roster that picks nothing. -/
theorem removeExpiredDevices (h : Refines world roster) {clock : PassClock}
    (hStep : world.removeExpiredDevices clock = .ok after) :
    ∃ next, Roster.Step roster none next ∧ Refines after next := by
  obtain ⟨current, hCurrent, _, rfl⟩ := World.removeExpiredDevices_eq_ok hStep
  have hKept : ((world.controller.discoveredDevicesArray.diff (world.lostDevices clock)).diff
      (world.staleDevices clock)).Sublist roster.candidates := by
    rw [← h.discovered]
    exact (List.diff_sublist _ _).trans (List.diff_sublist _ _)
  refine ⟨roster.drop _ hKept, .drop _ _ hKept, h.known, h.connected, rfl, h.seen, ?_⟩
  have hSelected := h.selected_of_designates hCurrent
  change World.Selects _ roster.selected
  rw [hSelected]
  obtain ⟨n, _, hGet⟩ := hCurrent
  exact ⟨_, rfl, List.getElem?_idxOf (List.mem_of_getElem? hGet)⟩

/-- Every step that completes is a step of the roster, with the same pick. -/
theorem step (h : Refines world roster) {event : ControllerEvent}
    (hStep : world.step event = .ok after) :
    ∃ next, Roster.Step roster (world.picked event) next ∧ Refines after next := by
  rcases World.step_cases h.index_ne_notFound hStep with ⟨peripheral, now, rfl, rfl⟩ |
    ⟨index, inSection, rfl, hSelect⟩ | ⟨clock, rfl, hPass⟩ | ⟨hPicked, _, hSame⟩
  · exact h.didDiscoverPeripheral peripheral now
  · exact h.selectPeripheralAtIndex hSelect
  · exact h.removeExpiredDevices hPass
  · rw [hPicked]
    exact ⟨roster, .stay roster, h.congr hSame.1⟩

end Refines

/-- The peripherals picked in a history, oldest first. -/
def picks (history : History World ControllerEvent) : List CBPeripheral :=
  history.filterMap fun entry => entry.1.picked entry.2

/-- The peripheral of the latest selection on section 0 or 1. -/
def latestPick (history : History World ControllerEvent) : Option CBPeripheral :=
  (picks history).getLast?

theorem latestPick_concat (history : History World ControllerEvent) (world : World)
    (event : ControllerEvent) :
    latestPick (history ++ [(world, event)]) = (world.picked event).or (latestPick history) := by
  simp only [latestPick, picks, List.filterMap_append, List.getLast?_append]
  cases hPicked : world.picked event <;> simp [hPicked]

/-- A reachable controller represents a roster whose selection is the latest pick. -/
theorem reachable_refines {start world : World} {history : History World ControllerEvent}
    (run : Run World.step start history world) (hInit : start.controller = .init) :
    ∃ roster : Roster CBPeripheral, Refines world roster ∧
      roster.selected = latestPick history := by
  refine run.induction
    (fun history world => ∃ roster : Roster CBPeripheral, Refines world roster ∧
      roster.selected = latestPick history)
    ⟨.empty, .init hInit, rfl⟩ ?_
  rintro history state event after _ ⟨roster, hRefines, hSelected⟩ hStep
  obtain ⟨next, step, hNext⟩ := hRefines.step hStep
  refine ⟨next, hNext, ?_⟩
  rw [step.selected_eq, hSelected, latestPick_concat]

/-- A world that some run of the controller from its `init` leads to. -/
def World.Reachable (world : World) : Prop :=
  ∃ start history, start.controller = .init ∧ Run World.step start history world

/-- Every reachable world refines some roster. -/
theorem World.Reachable.refines {world : World} (h : world.Reachable) :
    ∃ roster : Roster CBPeripheral, Refines world roster := by
  obtain ⟨start, history, hInit, run⟩ := h
  obtain ⟨roster, hRefines, _⟩ := reachable_refines run hInit
  exact ⟨roster, hRefines⟩

end LockJaw
