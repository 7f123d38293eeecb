import LockJaw.App.Screens
import LockJaw.Lock.Power

/-! The commands that reach a device, over runs of the application. They are sent by taps on
the lock and by nothing else, so the history, which a tap writes, is a log of all of them. -/
namespace LockJaw

open Cocoa Semantics

/-- The commands for a device, in the order they were sent. -/
def deviceCommands (commands : List Command) : List Command :=
  commands.filter fun command => command.target.isSome

/-- The commands about devices come in their order. -/
theorem deviceCommands_append (commands sent : List Command) :
    deviceCommands (commands ++ sent) = deviceCommands commands ++ deviceCommands sent :=
  List.filter_append _ _

namespace World

variable {world after : World}

/-- A scan is about no device. -/
theorem beginScanning_deviceCommands (world : World) :
    deviceCommands world.beginScanning.central.commands =
      deviceCommands world.central.commands := by
  unfold beginScanning
  split
  · rw [send, deviceCommands_append]
    exact List.append_nil _
  · rfl

/-- Apart from its own two calls the controller sends no device anything. -/
theorem step_deviceCommands {event : ControllerEvent} (hStep : world.step event = .ok after)
    (hLock : event ≠ .lockDevice) (hUnlock : event ≠ .unlockDevice) :
    deviceCommands after.central.commands = deviceCommands world.central.commands := by
  by_cases hScan : event = .beginScanning
  · subst hScan
    cases hStep
    exact beginScanning_deviceCommands world
  by_cases hReport : ∃ state, event = .centralManagerDidUpdateState state
  · obtain ⟨state, rfl⟩ := hReport
    cases hStep
    unfold centralManagerDidUpdateState
    split
    · rw [beginScanning_deviceCommands]
    · rfl
  · rw [(step_central hStep (fun state hEvent => hReport ⟨state, hEvent⟩) hScan hLock
      hUnlock).1]

end World

namespace LockScreen

section Steps
variable {screen after : LockScreen} {roster : Roster CBPeripheral} {now : NSDate}

/-- The commands of a tap are those it adds. -/
theorem commandsOfTap_of_sent (hTap : screen.changeLockStatus now = .ok after)
    {sent : List Command}
    (hSent : after.world.central.commands = screen.world.central.commands ++ sent) :
    screen.commandsOfTap (.changeLockStatus now) =
      sent.map fun command => (screen.world, command) := by
  simp [commandsOfTap, hTap, hSent]

/-- What a step sends to devices is what the tap sends, if it is one. -/
theorem step_deviceCommands (hRefines : Refines screen.world roster) {event : LockScreenEvent}
    (hStep : lockScreenStep screen event = .ok after)
    (hLock : event ≠ .controller .lockDevice) (hUnlock : event ≠ .controller .unlockDevice) :
    deviceCommands after.world.central.commands =
      deviceCommands screen.world.central.commands ++
        (screen.commandsOfTap event).map Prod.snd := by
  cases event with
  | changeLockStatus now =>
      obtain ⟨tapped, hTapped, hTaps, _⟩ := changeLockStatus_taps hRefines now
      obtain rfl : after = tapped := Except.ok.inj (hStep.symm.trans hTapped)
      cases hTaps with
      | accepted command record _ hCommands _ hDescribes =>
          obtain ⟨peripheral, hTarget, _⟩ := hDescribes.named
          rw [commandsOfTap_of_sent hTapped hCommands, hCommands, deviceCommands_append]
          simp [deviceCommands, hTarget]
      | refused _ hWorld _ =>
          have hNone : after.world.central.commands = screen.world.central.commands ++ [] := by
            rw [hWorld, List.append_nil]
          rw [commandsOfTap_of_sent hTapped hNone, hWorld]
          exact (List.append_nil _).symm
  | controller event =>
      obtain ⟨world, hWorld, hAfter⟩ := bind_eq_ok.mp hStep
      cases hAfter
      have hSame := World.step_deviceCommands hWorld (fun hEvent => hLock (by rw [hEvent]))
        fun hEvent => hUnlock (by rw [hEvent])
      rw [hSame]
      exact (List.append_nil _).symm
  | radio peripheral answer =>
      cases hStep
      rw [(World.radio_central peripheral answer).1]
      exact (List.append_nil _).symm

end Steps

/-- The commands sent and the records written over a run of taps. -/
structure Logged (start : LockScreen) (history : History LockScreen LockScreenEvent)
    (screen : LockScreen) : Prop where
  recorded : Recorded start history screen
  commands : deviceCommands screen.world.central.commands =
    deviceCommands start.world.central.commands ++ (tapCommands history).map Prod.snd

theorem logged_of_run {start screen : LockScreen}
    {history : History LockScreen LockScreenEvent}
    (run : Run lockScreenStep start history screen)
    (hStart : ∃ roster : Roster CBPeripheral, Refines start.world roster)
    (hCalls : ∀ entry ∈ history, entry.2 ≠ .controller .lockDevice ∧
      entry.2 ≠ .controller .unlockDevice) : Logged start history screen := by
  apply run.induction_of_permitted (fun _ event => event ≠ .controller .lockDevice ∧
    event ≠ .controller .unlockDevice) (Logged start) ?_ ?_ hCalls
  · exact ⟨⟨hStart, [], by simp, .nil⟩, by simp [tapCommands]⟩
  · intro history state event after _ hState hEvent hStep
    obtain ⟨roster, hRefines⟩ := hState.recorded.wellFormed
    refine ⟨hState.recorded.step hStep, ?_⟩
    rw [step_deviceCommands hRefines hStep hEvent.1 hEvent.2, hState.commands,
      tapCommands_concat, List.map_append, List.append_assoc]

end LockScreen

namespace Application

/-- A history of the application, as the lock's screen saw it. -/
def lockHistory (history : History Application ApplicationEvent) :
    History LockScreen LockScreenEvent :=
  seenHistory lockScreen lockEvent history

/-- The controller's calls are made from within a tap and by nothing else. -/
theorem lockEvent_ne_call {app : Application} {event : ApplicationEvent}
    {seen : LockScreenEvent} (hSeen : app.lockEvent event = some seen) :
    seen ≠ .controller .lockDevice ∧ seen ≠ .controller .unlockDevice := by
  cases event with
  | didSelectRow path =>
      unfold lockEvent at hSeen
      dsimp only at hSeen
      split at hSeen
      · cases hSeen
        exact ⟨nofun, nofun⟩
      · cases hSeen
  | changeLockStatus now =>
      unfold lockEvent at hSeen
      dsimp only at hSeen
      split at hSeen
      · cases hSeen
        exact ⟨nofun, nofun⟩
      · cases hSeen
  | _ =>
      cases hSeen
      try exact ⟨nofun, nofun⟩

section Launch
variable {platform : Platform} {peripherals : CBPeripheral → PeripheralObject}
  {realm : RLMRealm} {central : CBCentralManager} {start app : Application}
  {history : History Application ApplicationEvent}

/-- The launch starts from a new controller, over the store and the devices that are there. -/
theorem world_of_launch (hLaunch : launch peripherals realm central = .ok start) :
    start.world = ⟨.init, peripherals, realm, central⟩ := by
  rw [launch_eq] at hLaunch
  cases hLaunch
  rw [showTab_world]
  rfl

/-- A run of the application is one of the lock's screen. -/
theorem lockRun_of_run (hLaunch : launch peripherals realm central = .ok start)
    (run : Run (applicationStep platform) start history app) :
    Run lockScreenStep start.lockScreen (lockHistory history) app.lockScreen :=
  (simulates_lockScreen platform).run run (assembled_of_launch hLaunch)

theorem logged_of_run (hLaunch : launch peripherals realm central = .ok start)
    (run : Run (applicationStep platform) start history app) :
    LockScreen.Logged start.lockScreen (lockHistory history) app.lockScreen := by
  apply LockScreen.logged_of_run (lockRun_of_run hLaunch run)
    ⟨.empty, refines_of_launch hLaunch⟩
  intro seen hMem
  obtain ⟨entry, _, _, hSeen⟩ := mem_seenHistory.mp hMem
  exact lockEvent_ne_call hSeen

end Launch

end Application

/-- In every run of the application the commands that devices were sent are those of the
taps on the lock, in their order, and the records written describe them one by one: nothing
is sent without a record, and nothing is recorded that was not sent. -/
theorem every_command_is_recorded {platform : Platform}
    {peripherals : CBPeripheral → PeripheralObject} {realm : RLMRealm}
    {central : CBCentralManager} {start app : Application}
    {history : History Application ApplicationEvent}
    (hLaunch : Application.launch peripherals realm central = .ok start)
    (run : Run (applicationStep platform) start history app) :
    ∃ records sent, app.world.realm.history = realm.history ++ records ∧
      deviceCommands app.world.central.commands =
        deviceCommands central.commands ++ sent.map Prod.snd ∧
      sent = tapCommands (Application.lockHistory history) ∧
      List.Forall₂ (fun record (sent : World × Command) => record.Describes sent.1 sent.2)
        records sent := by
  have hLogged := Application.logged_of_run hLaunch run
  have hStart := Application.world_of_launch hLaunch
  obtain ⟨records, hRecords, hDescribes⟩ := hLogged.recorded.records
  have hCommands := hLogged.commands
  change _ = start.world.realm.history ++ records at hRecords
  change _ = deviceCommands start.world.central.commands ++ _ at hCommands
  rw [hStart] at hRecords hCommands
  exact ⟨records, _, hRecords, hCommands, rfl, hDescribes⟩

/-- A device is found and touched, unlocked, and locked again. -/
def touchAndToggle : List ApplicationEvent :=
  [.didDiscoverPeripheral frontDoor ⟨100, 20⟩, .contentDidAppear, .didSelectRow ⟨1, 1⟩,
    .contentDidAppear, .changeLockStatus ⟨200, 30⟩, .radio frontDoor .connects,
    .changeLockStatus ⟨300, 31⟩]

theorem both_commands_are_recorded :
    ∃ start app, Application.launch freshWorld.peripherals freshWorld.realm
        freshWorld.central = .ok start ∧
      exec (applicationStep samplePlatform) start touchAndToggle = .ok app ∧
      deviceCommands app.world.central.commands =
        [.connectPeripheral frontDoor, .cancelPeripheralConnection frontDoor] ∧
      ∃ records sent, app.world.realm.history = records ∧ records.length = 2 ∧
        List.Forall₂ (fun record (sent : World × Command) => record.Describes sent.1 sent.2)
          records sent := by
  obtain ⟨start, app, hLaunch, hExec, hCommands, hLength⟩ :
      ∃ start app, Application.launch freshWorld.peripherals freshWorld.realm
          freshWorld.central = .ok start ∧
        exec (applicationStep samplePlatform) start touchAndToggle = .ok app ∧
        deviceCommands app.world.central.commands =
          [.connectPeripheral frontDoor, .cancelPeripheralConnection frontDoor] ∧
        app.world.realm.history.length = 2 :=
    ⟨_, _, rfl, rfl, rfl, rfl⟩
  obtain ⟨records, sent, hRecords, _, _, hDescribes⟩ :=
    every_command_is_recorded hLaunch (run_of_exec hExec)
  refine ⟨start, app, hLaunch, hExec, hCommands, records, sent, hRecords, ?_, hDescribes⟩
  rw [← hLength, hRecords]
  rfl

end LockJaw
