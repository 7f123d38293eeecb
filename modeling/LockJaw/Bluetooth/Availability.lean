import LockJaw.Bluetooth.Selection

/-! The queries about what is available. Each compares the index or the array in its
own way; they agree unless the selected device is the first of the connected ones,
which `existsCurrentPeripheral` takes for none. -/
namespace LockJaw

open Cocoa Semantics

namespace World

/-- `existsCurrentPeripheral` tells whether a device is selected, and each query implies
the next weaker one. -/
structure QueriesAgree (world : World) : Prop where
  current : world.existsCurrentPeripheral = true ↔ ∃ peripheral, world.Designates peripheral
  reads : world.existsCurrentPeripheral = true →
    (∃ name, world.currentName = .ok name) ∧ ∃ locked, world.isLocked = .ok locked
  eligible : world.isElgibleForLock = .ok true → world.existsCurrentPeripheral = true
  device : world.existsCurrentPeripheral = true → world.existsBluetoothDevice = true

section Queries
variable {world : World} {peripheral : CBPeripheral}

/-- A selected device answers every query but one, and that one at every index but 0. -/
theorem existsCurrentPeripheral_of_designates (h : world.Designates peripheral) :
    world.existsCurrentPeripheral = true ↔
      world.controller.selectedBluetoothDeviceIndex ≠ .position 0 := by
  obtain ⟨n, hIndex, _⟩ := h
  rw [existsCurrentPeripheral, hIndex, NSIndex.isPositive, decide_eq_true_eq]
  constructor
  · intro hPositive hZero
    cases hZero
    exact Int.lt_irrefl 0 hPositive
  · intro hNonzero
    have hNat : (n : Int) ≠ 0 := fun hZero => hNonzero (by rw [hZero])
    omega

theorem existsBluetoothDevice_of_designates (h : world.Designates peripheral) :
    world.existsBluetoothDevice = true := by
  obtain ⟨n, _, hGet⟩ := h
  have hBound := (List.getElem?_eq_some_iff.mp hGet).1
  rw [existsBluetoothDevice, decide_eq_true_eq]
  omega

end Queries

/-- Without a selection every query says no. -/
theorem queriesAgree_of_none {world : World}
    (hNone : world.controller.selectedBluetoothDeviceIndex = .position (-1)) :
    world.QueriesAgree := by
  have hCurrent : world.existsCurrentPeripheral = false := by
    rw [existsCurrentPeripheral, hNone]
    rfl
  refine ⟨?_, ?_, ?_, ?_⟩
  · rw [hCurrent]
    constructor
    · nofun
    · rintro ⟨peripheral, n, hIndex, _⟩
      rw [hNone, NSIndex.position.injEq] at hIndex
      omega
  · rw [hCurrent]
    nofun
  · intro hEligible
    obtain ⟨peripheral, n, hIndex, _⟩ := designates_of_isElgibleForLock hEligible
    rw [hNone, NSIndex.position.injEq] at hIndex
    omega
  · rw [hCurrent]
    nofun

theorem queriesAgree_of_designates {world : World} {peripheral : CBPeripheral}
    (h : world.Designates peripheral)
    (hIndex : world.controller.selectedBluetoothDeviceIndex ≠ .position 0) :
    world.QueriesAgree := by
  have hCurrent := (existsCurrentPeripheral_of_designates h).mpr hIndex
  refine ⟨?_, ?_, fun _ => hCurrent, fun _ => existsBluetoothDevice_of_designates h⟩
  · exact ⟨fun _ => ⟨peripheral, h⟩, fun _ => hCurrent⟩
  · exact fun _ => ⟨⟨_, currentName_of_designates h⟩, ⟨_, isLocked_of_designates h⟩⟩

end World

/-- In every reachable state the queries agree exactly when the first of the connected
devices is not the selected one. -/
theorem availability_queries_agree_iff {start world : World}
    {history : History World ControllerEvent} (run : Run World.step start history world)
    (hInit : start.controller = .init) :
    world.QueriesAgree ↔
      world.controller.selectedBluetoothDeviceIndex ≠ .position 0 := by
  obtain ⟨roster, hRefines, _⟩ := reachable_refines run hInit
  have hSelection := hRefines.selection
  cases hSelected : roster.selected with
  | none =>
      rw [hSelected] at hSelection
      have hNone : world.controller.selectedBluetoothDeviceIndex = .position (-1) := hSelection
      refine iff_of_true (World.queriesAgree_of_none hNone) ?_
      rw [hNone]
      decide
  | some peripheral =>
      rw [hSelected] at hSelection
      have hDesignates : world.Designates peripheral := hSelection
      constructor
      · intro hAgree
        apply (World.existsCurrentPeripheral_of_designates hDesignates).mp
        exact hAgree.current.mpr ⟨peripheral, hDesignates⟩
      · exact World.queriesAgree_of_designates hDesignates

/-- Two devices are discovered and picked one after the other. -/
def pickTwo : List ControllerEvent :=
  [.didDiscoverPeripheral frontDoor ⟨100, 20⟩, .didDiscoverPeripheral backDoor ⟨5, 0⟩,
    .selectPeripheralAtIndex (.position 0) 1, .selectPeripheralAtIndex (.position 0) 1]

theorem availability_queries_agree_on_second_device :
    ∃ world, exec World.step freshWorld pickTwo = .ok world ∧ world.QueriesAgree := by
  have hFinal : ∃ world, exec World.step freshWorld pickTwo = .ok world ∧
      world.controller.selectedBluetoothDeviceIndex = .position 1 := ⟨_, rfl, rfl⟩
  obtain ⟨world, hExec, hIndex⟩ := hFinal
  refine ⟨world, hExec, (availability_queries_agree_iff (run_of_exec hExec) rfl).mpr ?_⟩
  rw [hIndex]
  decide

/-- The first device ever picked is selected, is eligible, and is no current peripheral. -/
theorem first_device_is_not_current :
    ∃ world, exec World.step freshWorld pickAndExpire = .ok world ∧
      world.Designates frontDoor ∧ world.isElgibleForLock = .ok true ∧
      world.existsCurrentPeripheral = false ∧ ¬ world.QueriesAgree := by
  have hFinal : ∃ world, exec World.step freshWorld pickAndExpire = .ok world ∧
      world.Designates frontDoor ∧ world.isElgibleForLock = .ok true ∧
      world.existsCurrentPeripheral = false := ⟨_, rfl, ⟨0, rfl, rfl⟩, rfl, rfl⟩
  obtain ⟨world, hExec, hDesignates, hEligible, hCurrent⟩ := hFinal
  refine ⟨world, hExec, hDesignates, hEligible, hCurrent, ?_⟩
  intro hAgree
  have hYes := hAgree.eligible hEligible
  rw [hCurrent] at hYes
  cases hYes

end LockJaw
