import LockJaw.Bluetooth.Listing
import LockJaw.Lock.Screen

/-! The label of a device's row, "Connected" or "Disconnected", and the device's
connection. The label is decided by membership in `connectedPeripherals`, which
discoveries and selections change and connections do not. -/
namespace LockJaw

open Cocoa Semantics

/-- What the views of a device's row show. -/
structure LKJBluetoothTableViewCell where
  signalImage : String
  nameLabel : Option String
  connectedLabel : String
deriving DecidableEq

namespace World

/-- `configureWithPeripheral:andRSSI:`. The strength is a whole number of dBm, and the
`floatValue` of `nil` is 0. -/
def configureWithPeripheral (world : World) (peripheral : CBPeripheral) (RSSI : Option Int) :
    LKJBluetoothTableViewCell :=
  let rssiFloat := RSSI.getD 0
  { signalImage :=
      if rssiFloat > -77 then "fivebars"
      else if rssiFloat > -86 then "fourbars"
      else if rssiFloat > -97 then "threebars"
      else if rssiFloat > -102 then "twobars"
      else "onebar"
    nameLabel := (world.peripherals peripheral).name
    connectedLabel :=
      if world.isConnectedToPeripheral peripheral then "Connected" else "Disconnected" }

/-- The query and the label tell whether the connection is up, and for the selected
device they contradict `isLocked`. -/
structure LabelTells (world : World) (peripheral : CBPeripheral) : Prop where
  connected : world.isConnectedToPeripheral peripheral = true ↔
    world.state peripheral = .connected
  label : ∀ RSSI, (world.configureWithPeripheral peripheral RSSI).connectedLabel = "Connected" ↔
    world.state peripheral = .connected
  selected : world.Designates peripheral →
    world.isLocked = .ok (!world.isConnectedToPeripheral peripheral)

section Labels
variable {world : World} {peripheral : CBPeripheral}

/-- The query asks for a place in the list of the chosen devices, not for a link. -/
theorem isConnectedToPeripheral_iff :
    world.isConnectedToPeripheral peripheral = true ↔
      peripheral ∈ world.controller.connectedPeripherals := by
  rw [isConnectedToPeripheral, containsObject, decide_eq_true_eq]

/-- The label says what the query answers. -/
theorem connectedLabel_iff (RSSI : Option Int) :
    (world.configureWithPeripheral peripheral RSSI).connectedLabel = "Connected" ↔
      world.isConnectedToPeripheral peripheral = true := by
  rw [configureWithPeripheral]
  dsimp only
  split
  · rename_i hConnected
    exact iff_of_true rfl hConnected
  · rename_i hConnected
    exact iff_of_false (by decide) hConnected

/-- All three parts of the property are one comparison. -/
theorem labelTells_iff :
    world.LabelTells peripheral ↔
      (peripheral ∈ world.controller.connectedPeripherals ↔
        world.state peripheral = .connected) := by
  constructor
  · intro hTells
    rw [← isConnectedToPeripheral_iff]
    exact hTells.connected
  · intro hSame
    have hConnected : world.isConnectedToPeripheral peripheral = true ↔
        world.state peripheral = .connected := isConnectedToPeripheral_iff.trans hSame
    refine ⟨hConnected, fun RSSI => (connectedLabel_iff RSSI).trans hConnected, ?_⟩
    intro hDesignates
    rw [isLocked_of_designates hDesignates]
    by_cases hState : world.state peripheral = .connected
    · rw [hConnected.mpr hState]
      simp [hState]
    · rw [Bool.eq_false_iff.mpr (mt hConnected.mp hState)]
      simp [hState]

end Labels

/-- Only chosen devices have a connection, or one under way. -/
def ConnectsChosen (world : World) : Prop :=
  ∃ roster : Roster CBPeripheral, Refines world roster ∧
    ∀ peripheral, (world.peripherals peripheral).link ≠ .disconnected →
      peripheral ∈ roster.chosen

namespace ConnectsChosen

variable {world after : World}

/-- At the launch no link is open. -/
theorem init (hInit : world.controller = .init)
    (hIdle : ∀ peripheral, (world.peripherals peripheral).link = .disconnected) :
    world.ConnectsChosen :=
  ⟨.empty, .init hInit, fun peripheral hLink => absurd (hIdle peripheral) hLink⟩

theorem wellFormed (h : world.ConnectsChosen) :
    ∃ roster : Roster CBPeripheral, Refines world roster := by
  obtain ⟨roster, hRefines, _⟩ := h
  exact ⟨roster, hRefines⟩

/-- No step opens a closed device that is not selected. -/
theorem congr (h : world.ConnectsChosen) (hLists : world.SameLists after)
    (hLink : ∀ peripheral, (after.peripherals peripheral).link ≠ .disconnected →
      (world.peripherals peripheral).link ≠ .disconnected ∨ world.Designates peripheral) :
    after.ConnectsChosen := by
  obtain ⟨roster, hRefines, hChosen⟩ := h
  refine ⟨roster, hRefines.congr hLists, ?_⟩
  intro peripheral hOpen
  rcases hLink peripheral hOpen with hOpen | hDesignates
  · exact hChosen peripheral hOpen
  · exact roster.selected_chosen peripheral (hRefines.selected_of_designates hDesignates)

/-- A command is sent to the selected device. -/
theorem command {current : CBPeripheral} (h : world.ConnectsChosen)
    (hDesignates : world.Designates current) (hLists : world.SameLists after)
    (hLink : ∀ peripheral, peripheral ≠ current →
      (after.peripherals peripheral).link = (world.peripherals peripheral).link) :
    after.ConnectsChosen := by
  apply h.congr hLists
  intro peripheral hOpen
  by_cases hSame : peripheral = current
  · exact .inr (hSame ▸ hDesignates)
  · rw [hLink peripheral hSame] at hOpen
    exact .inl hOpen

/-- A command to connect goes to the selected device. -/
theorem connectPeripheral {current : CBPeripheral} (h : world.ConnectsChosen)
    (hDesignates : world.Designates current) :
    (world.connectPeripheral current).ConnectsChosen :=
  h.command hDesignates rfl fun _ hOther => setLink_link_of_ne _ _ _ hOther

/-- So does one to disconnect. -/
theorem cancelPeripheralConnection {current : CBPeripheral} (h : world.ConnectsChosen)
    (hDesignates : world.Designates current) :
    (world.cancelPeripheralConnection current).ConnectsChosen :=
  h.command hDesignates rfl fun _ hOther => setLink_link_of_ne _ _ _ hOther

/-- A record changes neither links nor lists. -/
theorem addHistory (h : world.ConnectsChosen) (object : LKJHistory) :
    (world.addHistory object).ConnectsChosen := h.congr rfl fun _ hOpen => .inl hOpen

/-- The controller locks none but a chosen device. -/
theorem lockDevice (h : world.ConnectsChosen) (hStep : world.lockDevice = .ok after) :
    after.ConnectsChosen := by
  obtain ⟨current, hDesignates⟩ := designates_of_lockDevice hStep
  rw [lockDevice_of_designates hDesignates] at hStep
  cases hStep
  split
  · exact h.cancelPeripheralConnection hDesignates
  · exact h

/-- It unlocks none but a chosen device. -/
theorem unlockDevice (h : world.ConnectsChosen) (hStep : world.unlockDevice = .ok after) :
    after.ConnectsChosen := by
  obtain ⟨current, hDesignates⟩ := designates_of_unlockDevice hStep
  rw [unlockDevice_of_designates hDesignates] at hStep
  cases hStep
  split
  · exact h
  · exact h.connectPeripheral hDesignates

/-- The radio answers for a device that is not closed. -/
theorem radio (h : world.ConnectsChosen) (other : CBPeripheral) (answer : RadioAnswer) :
    (world.radio other answer).ConnectsChosen := by
  apply h.congr (radio_lists other answer)
  intro peripheral hOpen
  left
  intro hClosed
  rw [radio_link, hClosed] at hOpen
  split at hOpen
  · cases answer <;> exact hOpen rfl
  · exact hOpen rfl

/-- Every method of the controller keeps the open links among the chosen devices. -/
theorem step (h : world.ConnectsChosen) {event : ControllerEvent}
    (hStep : world.step event = .ok after)
    (hChange : ∀ peripheral name link, event = .peripheralChanges peripheral name link →
      link = (world.peripherals peripheral).link) : after.ConnectsChosen := by
  by_cases hLock : event = .lockDevice
  · subst hLock
    exact h.lockDevice hStep
  by_cases hUnlock : event = .unlockDevice
  · subst hUnlock
    exact h.unlockDevice hStep
  obtain ⟨roster, hRefines, hChosen⟩ := h
  obtain ⟨next, hNext, hRefinesNext⟩ := hRefines.step hStep
  refine ⟨next, hRefinesNext, ?_⟩
  intro peripheral hOpen
  rw [step_link_of_not_command hStep hLock hUnlock hChange] at hOpen
  exact hNext.chosen_subset (hChosen peripheral hOpen)

end ConnectsChosen

end World

/-- Links change by commands and by the radio's answers. -/
def LockScreenEvent.LinksByRadio (screen : LockScreen) : LockScreenEvent → Prop
  | .controller (.peripheralChanges peripheral _ link) =>
      link = (screen.world.peripherals peripheral).link
  | _ => True

namespace LockScreen

variable {screen after : LockScreen}

/-- So does a tap on the lock. -/
theorem changeLockStatus_connectsChosen (h : screen.world.ConnectsChosen) {now : NSDate}
    (hStep : screen.changeLockStatus now = .ok after) : after.world.ConnectsChosen := by
  obtain ⟨roster, hRefines⟩ := h.wellFormed
  rcases tap_cases hRefines with hIneligible | ⟨current, hDesignates, hState⟩ |
    ⟨current, hDesignates, hState⟩
  · rw [changeLockStatus_of_ineligible now hIneligible] at hStep
    cases hStep
    exact h
  · rw [changeLockStatus_of_connected now hDesignates hState] at hStep
    cases hStep
    exact (h.cancelPeripheralConnection hDesignates).addHistory _
  · rw [changeLockStatus_of_disconnected now hDesignates hState] at hStep
    cases hStep
    exact (h.connectPeripheral hDesignates).addHistory _

/-- So does every step by which links change through the radio. -/
theorem step_connectsChosen (h : screen.world.ConnectsChosen) {event : LockScreenEvent}
    (hScope : event.LinksByRadio screen) (hStep : lockScreenStep screen event = .ok after) :
    after.world.ConnectsChosen := by
  cases event with
  | changeLockStatus now => exact changeLockStatus_connectsChosen h hStep
  | controller event =>
      obtain ⟨world, hWorld, hAfter⟩ := bind_eq_ok.mp hStep
      cases hAfter
      apply h.step hWorld
      rintro peripheral name link rfl
      exact hScope
  | radio peripheral answer =>
      cases hStep
      exact h.radio peripheral answer

end LockScreen

/-- The label of a listed device tells the truth exactly when the device was never chosen
or its connection is up. -/
theorem label_tells_connection_iff {start screen : LockScreen}
    {history : History LockScreen LockScreenEvent}
    (run : Run lockScreenStep start history screen) (hInit : start.world.controller = .init)
    (hIdle : ∀ peripheral, (start.world.peripherals peripheral).link = .disconnected)
    (hScope : ∀ entry ∈ history, entry.2.LinksByRadio entry.1) {peripheral : CBPeripheral}
    (hListed : screen.world.Listed peripheral) :
    screen.world.LabelTells peripheral ↔
      peripheral ∈ screen.world.controller.discoveredDevicesArray ∨
        screen.world.state peripheral = .connected := by
  obtain ⟨roster, hRefines, hChosen⟩ : screen.world.ConnectsChosen :=
    run.invariant_of_permitted (fun screen event => event.LinksByRadio screen)
      (fun screen => screen.world.ConnectsChosen) (.init hInit hIdle)
      (fun _ _ _ hState hPermitted hStep =>
        LockScreen.step_connectsChosen hState hPermitted hStep) hScope
  have hConnected : screen.world.state peripheral = .connected →
      peripheral ∈ screen.world.controller.connectedPeripherals := by
    intro hState
    rw [hRefines.connected]
    apply hChosen
    rw [World.state_eq_connected_iff.mp hState]
    decide
  rw [World.labelTells_iff]
  constructor
  · intro hSame
    rcases hListed with hKnown | hDiscovered
    · rw [hRefines.known, ← hRefines.connected] at hKnown
      exact .inr (hSame.mp hKnown)
    · exact .inl hDiscovered
  · rintro (hDiscovered | hState)
    · have hNotConnected : peripheral ∉ screen.world.controller.connectedPeripherals := by
        rw [hRefines.connected]
        rw [hRefines.discovered] at hDiscovered
        exact fun hMem => roster.not_both peripheral hMem hDiscovered
      exact iff_of_false hNotConnected (mt hConnected hNotConnected)
    · exact iff_of_true (hConnected hState) hState

/-- The front door is discovered and picked. -/
def pickFrontDoor : List LockScreenEvent :=
  [.controller (.didDiscoverPeripheral frontDoor ⟨100, 20⟩),
    .controller (.selectPeripheralAtIndex (.position 0) 1)]

/-- It is unlocked, and connects. -/
def pickAndUnlock : List LockScreenEvent :=
  pickFrontDoor ++ [.controller .unlockDevice, .radio frontDoor .connects]

theorem label_tells_connection_when_unlocked :
    ∃ screen, exec lockScreenStep freshScreen pickAndUnlock = .ok screen ∧
      screen.world.LabelTells frontDoor := by
  have hFinal : ∃ screen, exec lockScreenStep freshScreen pickAndUnlock = .ok screen ∧
      screen.world.controller.knownDevicesArray = [frontDoor] ∧
      screen.world.state frontDoor = .connected := ⟨_, rfl, rfl, by decide⟩
  obtain ⟨screen, hExec, hKnown, hState⟩ := hFinal
  have hScope : ∀ entry ∈ historyOf lockScreenStep freshScreen pickAndUnlock,
      entry.2.LinksByRadio entry.1 := by
    intro entry hEntry
    have hAction := action_mem_of_mem_historyOf hEntry
    simp only [pickAndUnlock, pickFrontDoor, List.cons_append, List.nil_append, List.mem_cons,
      List.not_mem_nil, or_false] at hAction
    rcases hAction with hAction | hAction | hAction | hAction <;> rw [hAction] <;> trivial
  have hListed : screen.world.Listed frontDoor := by
    rw [World.Listed, hKnown]
    exact .inl List.mem_cons_self
  have hTells := label_tells_connection_iff (run_of_exec hExec) rfl (fun _ => rfl) hScope hListed
  exact ⟨screen, hExec, hTells.mpr (.inr hState)⟩

/-- A device that was picked and never connected is labelled as connected, and locked. -/
theorem label_connected_while_disconnected :
    ∃ screen, exec lockScreenStep freshScreen pickFrontDoor = .ok screen ∧
      (screen.world.configureWithPeripheral frontDoor none).connectedLabel = "Connected" ∧
      screen.world.state frontDoor = .disconnected ∧ screen.world.isLocked = .ok true ∧
      ¬ screen.world.LabelTells frontDoor := by
  have hFinal : ∃ screen, exec lockScreenStep freshScreen pickFrontDoor = .ok screen ∧
      (screen.world.configureWithPeripheral frontDoor none).connectedLabel = "Connected" ∧
      screen.world.state frontDoor = .disconnected ∧ screen.world.isLocked = .ok true :=
    ⟨_, rfl, rfl, rfl, rfl⟩
  obtain ⟨screen, hExec, hLabel, hState, hLocked⟩ := hFinal
  refine ⟨screen, hExec, hLabel, hState, hLocked, ?_⟩
  intro hTells
  have hConnected := (hTells.label none).mp hLabel
  rw [hState] at hConnected
  cases hConnected

end LockJaw
