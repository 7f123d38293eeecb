import LockJaw.App.Commands
import LockJaw.App.Rows
import LockJaw.Bluetooth.Listing

/-! The device lists over runs of the application. The timer that would expire devices is
not scheduled, so whoever advertised by name stays listed for the rest of the session. -/
namespace LockJaw

open Cocoa Semantics

namespace World

/-- Whoever was seen is listed, and nobody else. -/
def Covered (world : World) : Prop := ∀ peripheral, world.Seen peripheral ↔ world.Listed peripheral

section Steps
variable {world after : World} {roster : Roster CBPeripheral}

theorem covered_iff : world.Covered ↔ Accounted [] world := by
  constructor
  · intro hCovered
    constructor
    · intro peripheral
      simpa [DroppedIn] using hCovered peripheral
    · simp [DroppedIn]
  · intro hAccounted peripheral
    simpa [DroppedIn] using hAccounted.seen peripheral

/-- A step that is no pass keeps everyone listed. -/
theorem Covered.step (h : world.Covered) (hRefines : Refines world roster)
    {event : ControllerEvent} (hStep : world.step event = .ok after)
    (hPass : ∀ clock, event ≠ .removeExpiredDevices clock) : after.Covered := by
  intro peripheral
  have hAccounted := (covered_iff.mp h).step hRefines hStep
  have hKept : ¬ DroppedIn ([] ++ [(world, event)]) peripheral := by
    rw [droppedIn_concat]
    rintro (hNone | ⟨clock, _, hEvent, _⟩)
    · simp [DroppedIn] at hNone
    · exact hPass clock hEvent
  rw [hAccounted.seen, or_iff_left hKept]

/-- A step makes whom it advertises seen. -/
theorem step_seen_iff (hRefines : Refines world roster) {event : ControllerEvent}
    (hStep : world.step event = .ok after) (peripheral : CBPeripheral) :
    after.Seen peripheral ↔ world.Seen peripheral ∨ world.advertised event = some peripheral := by
  rcases step_cases hRefines.index_ne_notFound hStep with ⟨found, now, rfl, rfl⟩ |
    ⟨index, inSection, rfl, hSelect⟩ | ⟨clock, rfl, hPass⟩ | ⟨_, hNone, hSame, _⟩
  · by_cases hName : (world.peripherals found).name = none
    · rw [didDiscoverPeripheral_of_unnamed hName, advertised, if_pos hName]
      simp
    · obtain ⟨listed, hListed, hAfter⟩ := @didDiscoverPeripheral_of_named _ _ now hName
      have hSeen : listed.Seen peripheral ↔ world.Seen peripheral := by
        rcases hListed with rfl | rfl | rfl
        · exact .rfl
        · exact .rfl
        · exact .rfl
      rw [hAfter, Refines.seen_setDictionaryEntry, hSeen, advertised, if_neg hName,
        Option.some.injEq, or_comm, eq_comm]
  · have hSeen : after.Seen peripheral ↔ world.Seen peripheral := by
      rcases selectPeripheralAtIndex_cases hSelect with ⟨_, n, found, _, _, rfl⟩ |
        ⟨_, n, found, _, _, rfl⟩ | ⟨_, _, rfl⟩
      · obtain ⟨_, _, hAfter⟩ := world.selectConnected_frame found
        rw [hAfter]
        exact .rfl
      · obtain ⟨_, _, hAfter⟩ := (world.moveToKnown n found).selectConnected_frame found
        rw [hAfter]
        exact .rfl
      · exact .rfl
    simp [hSeen, advertised]
  · obtain ⟨_, _, _, rfl⟩ := removeExpiredDevices_eq_ok hPass
    simp only [advertised, reduceCtorEq, or_false]
    exact .rfl
  · rw [hNone, Seen, hSame]
    simp [Seen]

end Steps

end World

/-- A tap on the lock leaves the lists alone. -/
theorem LockScreen.changeLockStatus_lists {screen after : LockScreen}
    {roster : Roster CBPeripheral} (hRefines : Refines screen.world roster) {now : NSDate}
    (hTap : screen.changeLockStatus now = .ok after) :
    screen.world.SameLists after.world := by
  obtain hWorld | ⟨peripheral, record, _, _, hWorld | hWorld⟩ :=
    changeLockStatus_world hRefines hTap
  · rw [hWorld]
    rfl
  · rw [hWorld]
    rfl
  · rw [hWorld]
    rfl

namespace Application

/-- The device whose named advertisement reaches the controller. -/
def advertised (app : Application) (event : ApplicationEvent) : Option CBPeripheral :=
  (event.controllerEvent app).bind app.world.advertised

/-- The lists against the advertisements of a session. -/
structure Advertised (history : History Application ApplicationEvent) (app : Application) :
    Prop where
  covered : app.world.Covered
  seen : ∀ peripheral, app.world.Seen peripheral ↔
    ∃ entry ∈ history, entry.1.advertised entry.2 = some peripheral

namespace Advertised

variable {platform : Platform} {history : History Application ApplicationEvent}
  {app after : Application} {event : ApplicationEvent} {roster : Roster CBPeripheral}

/-- A step that lists nobody. -/
theorem frame (h : Advertised history app) (hNone : app.advertised event = none)
    (hLists : app.world.SameLists after.world) :
    Advertised (history ++ [(app, event)]) after := by
  have hSeen : ∀ peripheral, after.world.Seen peripheral ↔ app.world.Seen peripheral := by
    intro peripheral
    rw [World.Seen, hLists]
    rfl
  constructor
  · intro peripheral
    rw [hSeen, h.covered peripheral, World.Listed, World.Listed, hLists]
  · intro peripheral
    rw [hSeen, h.seen]
    simp [hNone]

/-- A step that is one of the controller. -/
theorem controllerStep (h : Advertised history app) (hRefines : Refines app.world roster)
    {controllerEvent : ControllerEvent}
    (hStep : app.world.step controllerEvent = .ok after.world)
    (hPass : ∀ clock, controllerEvent ≠ .removeExpiredDevices clock)
    (hSame : app.advertised event = app.world.advertised controllerEvent) :
    Advertised (history ++ [(app, event)]) after := by
  constructor
  · exact h.covered.step hRefines hStep hPass
  · intro peripheral
    rw [World.step_seen_iff hRefines hStep, h.seen, ← hSame]
    simp [or_and_right, exists_or]

theorem advertised_of_idle (hIdle : app.lockEvent event = none) :
    app.advertised event = none := by
  cases event with
  | didDiscoverPeripheral => cases hIdle
  | centralManagerDidUpdateState => cases hIdle
  | peripheralDidUpdateName => cases hIdle
  | _ => rfl

theorem takes (h : Advertised history app) (hRefines : Refines app.world roster)
    (hTakes : app.Takes platform event after) :
    Advertised (history ++ [(app, event)]) after := by
  have hSame : ∀ {state : Application}, state.world = app.world →
      app.world.SameLists state.world := by
    intro state hWorld
    rw [hWorld]
    rfl
  cases hTakes with
  | idle _ hIdle => exact h.frame (advertised_of_idle hIdle) rfl
  | click sender => exact h.frame rfl (hSame (showTab_world app sender))
  | selection path world transitions hCurrent hRow hWorld =>
      have hStep : app.world.step
          (.selectPeripheralAtIndex (.position (path.row - 1)) path.inSection) =
          .ok (((app.setConnection { app.tabs.connection with
            world := world, transitions := transitions }).showTab 0).world) := by
        rw [showTab_world]
        exact hWorld
      exact h.controllerStep hRefines hStep nofun rfl
  | tap now screen hCurrent hVisible hScreen =>
      have hLock : Refines app.lockScreen.world roster := hRefines
      exact h.frame rfl (LockScreen.changeLockStatus_lists hLock hScreen)
  | appearance => exact h.frame rfl (hSame (contentDidAppear_world platform app))
  | connectionDrawing => exact h.frame rfl rfl
  | historyDrawing => exact h.frame rfl rfl
  | historyLoading => exact h.frame rfl rfl
  | controller event controllerEvent world hEvent hWorld =>
      obtain ⟨hPass, _⟩ := controllerEvent_takes_none hEvent
      apply h.controllerStep hRefines hWorld hPass
      rw [advertised, hEvent]
      rfl
  | radio peripheral answer => exact h.frame rfl (World.radio_lists peripheral answer)
  | delivery =>
      have hStep : app.world.step .runNotificationBlock =
          .ok (app.setConnection app.tabs.connection.runNotificationBlock).world := by
        rw [setConnection_world, runNotificationBlock_world]
        rfl
      exact h.controllerStep hRefines hStep nofun rfl
  | mainBlock connection hBlock =>
      have hWorld := (ConnectionScreen.runMainBlock_frame hBlock).1
      exact h.frame rfl (hSame hWorld)

theorem of_run {peripherals : CBPeripheral → PeripheralObject} {realm : RLMRealm}
    {central : CBCentralManager} {start : Application}
    (hLaunch : launch peripherals realm central = .ok start)
    (run : Run (applicationStep platform) start history app) : Advertised history app := by
  apply run.induction Advertised
  · have hWorld := world_of_launch hLaunch
    constructor
    · intro peripheral
      rw [hWorld]
      simp [World.Seen, World.Listed, LKJBluetoothController.init]
    · intro peripheral
      rw [hWorld]
      simp [World.Seen, LKJBluetoothController.init]
  · intro _ state event after prior hState hStep
    have hReached := Reached.of_run hLaunch prior
    obtain ⟨roster, hRefines, _⟩ := hReached.roster
    exact hState.takes hRefines (applicationStep_takes hReached.inStep.assembled hStep)

end Advertised

end Application

/-- In every state of the application a device is in one of the two lists, and in one only,
exactly when it advertised with a name since the launch: no device gets lost, and none is
listed twice. -/
theorem listed_iff_advertised {platform : Platform}
    {peripherals : CBPeripheral → PeripheralObject} {realm : RLMRealm}
    {central : CBCentralManager} {start app : Application}
    {history : History Application ApplicationEvent}
    (hLaunch : Application.launch peripherals realm central = .ok start)
    (run : Run (applicationStep platform) start history app) (peripheral : CBPeripheral) :
    app.world.ListedOnce peripheral ↔
      ∃ entry ∈ history, entry.1.advertised entry.2 = some peripheral := by
  have hReached := Application.Reached.of_run hLaunch run
  obtain ⟨roster, hRefines, _⟩ := hReached.roster
  have hAdvertised := Application.Advertised.of_run hLaunch run
  rw [World.listedOnce_iff hRefines.wellFormed, ← hAdvertised.covered, hAdvertised.seen]

theorem front_door_stays_listed :
    ∃ start app, Application.launch freshWorld.peripherals freshWorld.realm
        freshWorld.central = .ok start ∧
      exec (applicationStep samplePlatform) start throughTheTabs = .ok app ∧
      app.world.ListedOnce frontDoor := by
  obtain ⟨start, app, hLaunch, hExec, entry, hEntry, hAdvertised⟩ :
      ∃ start app, Application.launch freshWorld.peripherals freshWorld.realm
          freshWorld.central = .ok start ∧
        exec (applicationStep samplePlatform) start throughTheTabs = .ok app ∧
        ∃ entry ∈ historyOf (applicationStep samplePlatform) start throughTheTabs,
          entry.1.advertised entry.2 = some frontDoor :=
    ⟨_, _, rfl, rfl, _, List.mem_cons_of_mem _ List.mem_cons_self, rfl⟩
  refine ⟨start, app, hLaunch, hExec, ?_⟩
  exact (listed_iff_advertised hLaunch (run_of_exec hExec) frontDoor).mpr
    ⟨entry, hEntry, hAdvertised⟩

end LockJaw
