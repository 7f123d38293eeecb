import LockJaw.Lock.Screen

/-! When the lock picture tells the truth. The view follows the taps alone, so it
agrees with the device as long as every attempt succeeds, no connection drops by
itself and no selection exchanges an open device for a closed one. -/
namespace LockJaw

open Cocoa Semantics

/-- No request for this device is outstanding. -/
def World.Settled (world : World) (peripheral : CBPeripheral) : Prop :=
  world.state peripheral = .connected ∨ world.state peripheral = .disconnected

/-- Commands are issued by taps and links change by the radio's answers. -/
def LockScreenEvent.ByTapsAndRadio (screen : LockScreen) : LockScreenEvent → Prop
  | .controller .lockDevice => False
  | .controller .unlockDevice => False
  | .controller (.peripheralChanges peripheral _ link) =>
      link = (screen.world.peripherals peripheral).link
  | _ => True

/-- The step does not close or open the selected device behind the view's back. -/
def LockScreenEvent.Undisturbed (screen : LockScreen) : LockScreenEvent → Prop
  | .changeLockStatus _ => True
  | .controller event => ∀ peripheral other, screen.world.Designates peripheral →
      screen.world.picked event = some other →
      (screen.world.peripherals other).link.opens =
        (screen.world.peripherals peripheral).link.opens
  | .radio peripheral answer => screen.world.Designates peripheral →
      ¬ ((screen.world.peripherals peripheral).link = .connecting ∧ answer = .failsToConnect) ∧
      ¬ ((screen.world.peripherals peripheral).link = .connected ∧ answer = .disconnects)

/-- What the picture shows of the selection. Without one, nothing is open. -/
def LockScreen.Shows (screen : LockScreen) : Option CBPeripheral → Prop
  | none => screen.lockView.isLocked = true ∧
      ∀ peripheral, (screen.world.peripherals peripheral).link = .disconnected
  | some peripheral =>
      screen.lockView.isLocked = !(screen.world.peripherals peripheral).link.opens

namespace World

/-- Where taps alone issue commands, the controller's steps leave every link alone. -/
theorem step_link {screen : LockScreen} {after : World} {event : ControllerEvent}
    (hStep : screen.world.step event = .ok after)
    (hScope : (LockScreenEvent.controller event).ByTapsAndRadio screen)
    (peripheral : CBPeripheral) :
    (after.peripherals peripheral).link = (screen.world.peripherals peripheral).link := by
  apply step_link_of_not_command hStep
  · rintro rfl
    exact hScope
  · rintro rfl
    exact hScope
  · rintro other name link rfl
    exact hScope

end World

/-- The controller is well formed and the picture shows its selection. -/
def LockScreen.Agrees (screen : LockScreen) : Prop :=
  ∃ roster : Roster CBPeripheral, Refines screen.world roster ∧ screen.Shows roster.selected

namespace LockScreen.Agrees

variable {screen after : LockScreen}

/-- A tap toggles the view exactly when it starts or ends an opening. -/
theorem changeLockStatus (h : screen.Agrees) {now : NSDate}
    (hStep : screen.changeLockStatus now = .ok after) : after.Agrees := by
  obtain ⟨roster, hRefines, hShows⟩ := h
  rcases tap_cases hRefines with hIneligible | ⟨peripheral, hSelected, hState⟩ |
    ⟨peripheral, hSelected, hState⟩
  · rw [changeLockStatus_of_ineligible now hIneligible] at hStep
    cases hStep
    exact ⟨roster, hRefines, hShows⟩
  · rw [changeLockStatus_of_connected now hSelected hState] at hStep
    cases hStep
    refine ⟨roster, hRefines.congr rfl, ?_⟩
    rw [World.state_eq_connected_iff] at hState
    rw [hRefines.selected_of_designates hSelected] at hShows ⊢
    have hLocked : screen.lockView.isLocked = !Link.opens .connected := hState ▸ hShows
    have hLink : ((screen.world.cancelPeripheralConnection peripheral).peripherals
        peripheral).link = .disconnecting false := by
      rw [World.cancelPeripheralConnection, World.setLink_link, hState]
      rfl
    change (!screen.lockView.isLocked) = !Link.opens
      ((screen.world.cancelPeripheralConnection peripheral).peripherals peripheral).link
    rw [hLink, hLocked]
    rfl
  · rw [changeLockStatus_of_disconnected now hSelected hState] at hStep
    cases hStep
    refine ⟨roster, hRefines.congr rfl, ?_⟩
    rw [World.state_eq_disconnected_iff] at hState
    rw [hRefines.selected_of_designates hSelected] at hShows ⊢
    have hLocked : screen.lockView.isLocked = !Link.opens .disconnected := hState ▸ hShows
    have hLink : ((screen.world.connectPeripheral peripheral).peripherals
        peripheral).link = .connecting := by
      rw [World.connectPeripheral, World.setLink_link, hState]
      rfl
    change (!screen.lockView.isLocked) = !Link.opens
      ((screen.world.connectPeripheral peripheral).peripherals peripheral).link
    rw [hLink, hLocked]
    rfl

/-- A step of the controller leaves every link alone; a selection shows the truth
if the device it picks opens exactly when the one before did. -/
theorem controllerStep (h : screen.Agrees) {world : World} {event : ControllerEvent}
    (hStep : screen.world.step event = .ok world)
    (hScope : (LockScreenEvent.controller event).ByTapsAndRadio screen)
    (hUndisturbed : (LockScreenEvent.controller event).Undisturbed screen) :
    LockScreen.Agrees { screen with world := world } := by
  obtain ⟨roster, hRefines, hShows⟩ := h
  obtain ⟨next, step, hNext⟩ := hRefines.step hStep
  have hLink := World.step_link hStep hScope
  refine ⟨next, hNext, ?_⟩
  rw [step.selected_eq]
  cases hPicked : screen.world.picked event with
  | none =>
      rw [Option.none_or]
      cases hSelected : roster.selected with
      | none =>
          rw [hSelected] at hShows
          exact ⟨hShows.1, fun peripheral => (hLink peripheral).trans (hShows.2 peripheral)⟩
      | some peripheral =>
          rw [hSelected] at hShows
          change _ = !Link.opens _
          rw [hLink]
          exact hShows
  | some other =>
      change _ = !Link.opens _
      rw [hLink]
      cases hSelected : roster.selected with
      | none =>
          rw [hSelected] at hShows
          rw [hShows.2 other]
          exact hShows.1
      | some peripheral =>
          have hDesignates : screen.world.Selects (some peripheral) :=
            hSelected ▸ hRefines.selection
          rw [hSelected] at hShows
          rw [hUndisturbed peripheral other hDesignates hPicked]
          exact hShows

theorem radio (h : screen.Agrees) {peripheral : CBPeripheral} {answer : RadioAnswer}
    (hUndisturbed : (LockScreenEvent.radio peripheral answer).Undisturbed screen) :
    LockScreen.Agrees { screen with world := screen.world.radio peripheral answer } := by
  obtain ⟨roster, hRefines, hShows⟩ := h
  refine ⟨roster, hRefines.congr (World.radio_lists peripheral answer), ?_⟩
  cases hSelected : roster.selected with
  | none =>
      rw [hSelected] at hShows
      refine ⟨hShows.1, ?_⟩
      intro other
      -- a disconnected link has no answer to come
      have hIdle : Link.answer .disconnected answer = none := by cases answer <;> rfl
      change ((screen.world.radio peripheral answer).peripherals other).link = _
      rw [World.radio_link, hShows.2 other, hIdle]
      split <;> rfl
  | some selected =>
      have hDesignates : screen.world.Selects (some selected) := hSelected ▸ hRefines.selection
      rw [hSelected] at hShows
      change _ = !Link.opens _
      rw [World.radio_link]
      split
      · rename_i hSame
        subst hSame
        obtain ⟨hFails, hDrops⟩ := hUndisturbed hDesignates
        cases hAnswer : (screen.world.peripherals peripheral).link.answer answer with
        | none => exact hShows
        | some link =>
            rw [Option.getD_some, Link.opens_answer hAnswer hFails hDrops]
            exact hShows
      · exact hShows

theorem step (h : screen.Agrees) {event : LockScreenEvent}
    (hStep : lockScreenStep screen event = .ok after) (hScope : event.ByTapsAndRadio screen)
    (hUndisturbed : event.Undisturbed screen) : after.Agrees := by
  cases event with
  | changeLockStatus now => exact h.changeLockStatus hStep
  | controller event =>
      obtain ⟨world, hWorld, hAfter⟩ := bind_eq_ok.mp hStep
      cases hAfter
      exact h.controllerStep hWorld hScope hUndisturbed
  | radio peripheral answer =>
      cases hStep
      exact h.radio hUndisturbed

end LockScreen.Agrees

/-- In every run of taps, selections and radio answers without a disturbance, the
picture of a settled device is the device's own state. -/
theorem lockView_tells_the_truth {start screen : LockScreen}
    {history : History LockScreen LockScreenEvent}
    (run : Run lockScreenStep start history screen) (hReachable : start.world.Reachable)
    (hLoaded : start.lockView = .init)
    (hDisconnected : ∀ peripheral, (start.world.peripherals peripheral).link = .disconnected)
    (hScope : ∀ entry ∈ history, entry.2.ByTapsAndRadio entry.1)
    (hUndisturbed : ∀ entry ∈ history, entry.2.Undisturbed entry.1) :
    ∀ peripheral, screen.world.Designates peripheral → screen.world.Settled peripheral →
      screen.world.isLocked = .ok screen.lockView.isLocked := by
  have hStart : start.Agrees := by
    obtain ⟨roster, hRefines⟩ := hReachable.refines
    refine ⟨roster, hRefines, ?_⟩
    cases hSelected : roster.selected with
    | none => exact ⟨by rw [hLoaded]; rfl, hDisconnected⟩
    | some peripheral =>
        change _ = !Link.opens _
        rw [hLoaded, hDisconnected peripheral]
        rfl
  have hAgrees : screen.Agrees := by
    refine run.invariant_of_permitted
      (fun screen event => event.ByTapsAndRadio screen ∧ event.Undisturbed screen)
      LockScreen.Agrees hStart ?_ fun entry hEntry => ⟨hScope entry hEntry,
        hUndisturbed entry hEntry⟩
    intro state event after hState hPermitted hStep
    exact hState.step hStep hPermitted.1 hPermitted.2
  intro peripheral hSelected hSettled
  obtain ⟨roster, hRefines, hShows⟩ := hAgrees
  rw [hRefines.selected_of_designates hSelected] at hShows
  rw [World.isLocked_of_designates hSelected,
    show screen.lockView.isLocked = _ from hShows]
  rcases hSettled with hState | hState
  · rw [World.state_eq_connected_iff] at hState
    simp [World.state_eq_connected_iff, hState, Link.opens]
  · rw [World.state_eq_disconnected_iff] at hState
    simp [World.state_eq_connected_iff, hState, Link.opens, Link.attemptPending]

/-- Discover the front door, select it, and unlock it successfully. -/
def unlockFrontDoor : List LockScreenEvent :=
  [.controller (.didDiscoverPeripheral frontDoor ⟨100, 20⟩),
    .controller (.selectPeripheralAtIndex (.position 0) 1),
    .changeLockStatus ⟨200, 30⟩, .radio frontDoor .connects]

theorem lockView_tells_the_truth_when_unlocked :
    ∃ screen, exec lockScreenStep freshScreen unlockFrontDoor = .ok screen ∧
      screen.world.isLocked = .ok screen.lockView.isLocked := by
  have hFinal : ∃ screen, exec lockScreenStep freshScreen unlockFrontDoor = .ok screen ∧
      screen.world.selectedPeripheral = .ok frontDoor ∧
      screen.world.state frontDoor = .connected := ⟨_, rfl, rfl, rfl⟩
  obtain ⟨screen, hExec, hSelected, hState⟩ := hFinal
  have hScope : ∀ entry ∈ historyOf lockScreenStep freshScreen unlockFrontDoor,
      entry.2.ByTapsAndRadio entry.1 := by
    refine List.forall_mem_cons.mpr ⟨trivial, List.forall_mem_cons.mpr ⟨trivial, ?_⟩⟩
    refine List.forall_mem_cons.mpr ⟨trivial, List.forall_mem_cons.mpr ⟨trivial, ?_⟩⟩
    exact List.forall_mem_nil _
  have hUndisturbed : ∀ entry ∈ historyOf lockScreenStep freshScreen unlockFrontDoor,
      entry.2.Undisturbed entry.1 := by
    refine List.forall_mem_cons.mpr ⟨?_, List.forall_mem_cons.mpr ⟨?_, ?_⟩⟩
    · exact fun _ _ hSelected => absurd hSelected (World.not_designates_of_empty rfl)
    · exact fun _ _ hSelected => absurd hSelected (World.not_designates_of_empty rfl)
    refine List.forall_mem_cons.mpr ⟨trivial, List.forall_mem_cons.mpr ⟨?_, ?_⟩⟩
    · exact fun _ => ⟨fun h => (nomatch h.2), fun h => (nomatch h.2)⟩
    · exact List.forall_mem_nil _
  exact ⟨screen, hExec, lockView_tells_the_truth (run_of_exec hExec) freshWorld_reachable rfl
    (fun _ => rfl) hScope hUndisturbed frontDoor
    (World.selectedPeripheral_eq_ok.mp hSelected) (.inl hState)⟩

/-- The first attempt fails and the second one succeeds. -/
def unlockTwice : List LockScreenEvent :=
  [.controller (.didDiscoverPeripheral frontDoor ⟨100, 20⟩),
    .controller (.selectPeripheralAtIndex (.position 0) 1),
    .changeLockStatus ⟨200, 30⟩, .radio frontDoor .failsToConnect,
    .changeLockStatus ⟨300, 40⟩, .radio frontDoor .connects]

/-- The picture shows a lock that is open as locked. -/
theorem lockView_shows_locked_while_open :
    ∃ screen, exec lockScreenStep freshScreen unlockTwice = .ok screen ∧
      (∀ entry ∈ historyOf lockScreenStep freshScreen unlockTwice,
        entry.2.ByTapsAndRadio entry.1) ∧
      screen.world.selectedPeripheral = .ok frontDoor ∧ screen.world.Settled frontDoor ∧
      screen.lockView.isLocked = true ∧ screen.world.isLocked = .ok false := by
  refine ⟨_, rfl, ?_, rfl, .inl rfl, rfl, rfl⟩
  refine List.forall_mem_cons.mpr ⟨trivial, List.forall_mem_cons.mpr ⟨trivial, ?_⟩⟩
  refine List.forall_mem_cons.mpr ⟨trivial, List.forall_mem_cons.mpr ⟨trivial, ?_⟩⟩
  refine List.forall_mem_cons.mpr ⟨trivial, List.forall_mem_cons.mpr ⟨trivial, ?_⟩⟩
  exact List.forall_mem_nil _

end LockJaw
