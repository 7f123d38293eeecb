import LockJaw.Lock.History
import LockJaw.Lock.Picture

/-! Commands and the power of the radio. The report of `poweredOn` sets `isOnline` and
starts a scan; no report ever clears the flag, and `connectPeripheral:` and
`cancelPeripheralConnection:` do not look at it. -/
namespace LockJaw

open Cocoa Semantics

namespace LockScreenEvent

/-- The state a callback of the central manager reports. -/
def reported : LockScreenEvent → Option CBCentralManagerState
  | .controller (.centralManagerDidUpdateState state) => some state
  | _ => none

/-- Devices are locked and unlocked by taps alone. -/
def TapDriven (event : LockScreenEvent) : Prop :=
  event ≠ .controller .lockDevice ∧ event ≠ .controller .unlockDevice

end LockScreenEvent

/-- The states reported in a history, oldest first. -/
def reports (history : History LockScreen LockScreenEvent) : List CBCentralManagerState :=
  history.filterMap fun entry => entry.2.reported

def lastReported (history : History LockScreen LockScreenEvent) :
    Option CBCentralManagerState :=
  (reports history).getLast?

/-- An event adds its report, if it makes one, to those before it. -/
theorem reports_concat (history : History LockScreen LockScreenEvent)
    (entry : LockScreen × LockScreenEvent) :
    reports (history ++ [entry]) = reports history ++ entry.2.reported.toList := by
  simp only [reports, List.filterMap_append]
  cases hReported : entry.2.reported <;> simp [hReported]

/-- The last report is that of the last event, or the last one before it. -/
theorem lastReported_concat (history : History LockScreen LockScreenEvent)
    (entry : LockScreen × LockScreenEvent) :
    lastReported (history ++ [entry]) = entry.2.reported.or (lastReported history) := by
  rw [lastReported, reports_concat, List.getLast?_append]
  cases entry.2.reported <;> rfl

/-- What one step sends to the central manager. -/
def LockScreen.sends (screen : LockScreen) (event : LockScreenEvent) : List Command :=
  match lockScreenStep screen event with
  | .ok after =>
      after.world.central.commands.drop screen.world.central.commands.length
  | .error _ => []

/-- The steps that may send a command without a report: a call of `beginScanning` after
some report of `poweredOn`, and a tap on a settled device. -/
def LockScreenEvent.Attempts (history : History LockScreen LockScreenEvent)
    (screen : LockScreen) : LockScreenEvent → Prop
  | .controller .beginScanning => CBCentralManagerState.poweredOn ∈ reports history
  | .changeLockStatus _ =>
      ∃ peripheral, screen.world.Designates peripheral ∧ screen.world.Settled peripheral
  | _ => False

/-- An event that attempts a command reports no state. -/
theorem LockScreenEvent.reported_of_attempts {history : History LockScreen LockScreenEvent}
    {screen : LockScreen} {event : LockScreenEvent} (h : event.Attempts history screen) :
    event.reported = none := by
  cases event with
  | changeLockStatus => rfl
  | radio => rfl
  | controller event =>
      cases event with
      | centralManagerDidUpdateState state => exact h.elim
      | _ => rfl

namespace World

section Central
variable {world after : World}

/-- A selection sends no command and leaves the power alone. -/
theorem selectConnected_central (peripheral : CBPeripheral) :
    (world.selectConnected peripheral).central = world.central ∧
      (world.selectConnected peripheral).controller.isOnline = world.controller.isOnline := by
  obtain ⟨_, _, hAfter⟩ := world.selectConnected_frame peripheral
  rw [hAfter]
  exact ⟨rfl, rfl⟩

/-- A discovery sends no command and leaves the power alone. -/
theorem didDiscoverPeripheral_central (peripheral : CBPeripheral) (now : NSDate) :
    (world.didDiscoverPeripheral peripheral now).central = world.central ∧
      (world.didDiscoverPeripheral peripheral now).controller.isOnline =
        world.controller.isOnline := by
  by_cases hName : (world.peripherals peripheral).name = none
  · rw [didDiscoverPeripheral_of_unnamed hName]
    exact ⟨rfl, rfl⟩
  · obtain ⟨listed, hListed, hAfter⟩ := @didDiscoverPeripheral_of_named _ _ now hName
    rw [hAfter]
    rcases hListed with rfl | rfl | rfl
    · exact ⟨rfl, rfl⟩
    · exact ⟨rfl, rfl⟩
    · exact ⟨rfl, rfl⟩

/-- Reports, scans and commands apart, a step leaves the central manager alone. -/
theorem step_central {event : ControllerEvent} (hStep : world.step event = .ok after)
    (hReport : ∀ state, event ≠ .centralManagerDidUpdateState state)
    (hScan : event ≠ .beginScanning) (hLock : event ≠ .lockDevice)
    (hUnlock : event ≠ .unlockDevice) :
    after.central = world.central ∧ after.controller.isOnline = world.controller.isOnline := by
  cases event with
  | didDiscoverPeripheral peripheral now =>
      cases hStep
      exact didDiscoverPeripheral_central peripheral now
  | selectPeripheralAtIndex index inSection =>
      rcases selectPeripheralAtIndex_cases hStep with ⟨_, n, peripheral, _, _, rfl⟩ |
        ⟨_, n, peripheral, _, _, rfl⟩ | ⟨_, _, rfl⟩
      · exact selectConnected_central peripheral
      · exact selectConnected_central peripheral
      · exact ⟨rfl, rfl⟩
  | removeExpiredDevices clock =>
      obtain ⟨_, _, _, rfl⟩ := removeExpiredDevices_eq_ok hStep
      exact ⟨rfl, rfl⟩
  | runNotificationBlock =>
      cases hStep
      unfold runNotificationBlock
      split
      · exact ⟨rfl, rfl⟩
      · exact ⟨rfl, rfl⟩
      · dsimp only
        split <;> exact ⟨rfl, rfl⟩
  | peripheralChanges peripheral name link =>
      cases hStep
      exact ⟨rfl, rfl⟩
  | didConnectPeripheral =>
      cases hStep
      exact ⟨rfl, rfl⟩
  | didDisconnectPeripheral =>
      cases hStep
      exact ⟨rfl, rfl⟩
  | centralManagerDidUpdateState state => exact absurd rfl (hReport state)
  | beginScanning => exact absurd rfl hScan
  | lockDevice => exact absurd rfl hLock
  | unlockDevice => exact absurd rfl hUnlock

/-- An answer of the radio sends no command and leaves the power alone. -/
theorem radio_central (peripheral : CBPeripheral) (answer : RadioAnswer) :
    (world.radio peripheral answer).central = world.central ∧
      (world.radio peripheral answer).controller.isOnline = world.controller.isOnline := by
  unfold radio
  split
  · exact ⟨rfl, rfl⟩
  · cases answer <;> exact ⟨rfl, rfl⟩

/-- Online, the scan is commanded. -/
theorem beginScanning_of_online (h : world.controller.isOnline = true) :
    world.beginScanning = world.send .scanForPeripherals := by
  rw [beginScanning, if_pos h]

/-- Offline, nothing happens. -/
theorem beginScanning_of_offline (h : world.controller.isOnline = false) :
    world.beginScanning = world := by
  rw [beginScanning, if_neg (by simp [h])]

end Central

end World

/-- The controller is well formed, and online once the radio was reported on. -/
structure Online (history : History LockScreen LockScreenEvent) (screen : LockScreen) : Prop where
  wellFormed : ∃ roster : Roster CBPeripheral, Refines screen.world roster
  online : screen.world.controller.isOnline = true ↔
    CBCentralManagerState.poweredOn ∈ reports history

/-- What a step does to the radio. -/
inductive LockScreen.Powers (history : History LockScreen LockScreenEvent)
    (screen after : LockScreen) (event : LockScreenEvent) : Prop where
  | report (hReported : event.reported = some .poweredOn)
      (hOnline : after.world.controller.isOnline = true)
      (hCommands : after.world.central.commands =
        screen.world.central.commands ++ [.scanForPeripherals])
  | attempt (command : Command) (hAttempts : event.Attempts history screen)
      (hOnline : after.world.controller.isOnline = screen.world.controller.isOnline)
      (hCommands : after.world.central.commands = screen.world.central.commands ++ [command])
  | idle (hReported : event.reported ≠ some .poweredOn)
      (hAttempts : ¬ event.Attempts history screen)
      (hOnline : after.world.controller.isOnline = screen.world.controller.isOnline)
      (hCommands : after.world.central.commands = screen.world.central.commands)

/-- What a step sends is what it adds to the commands of the central manager. -/
theorem LockScreen.sends_eq {screen after : LockScreen} {event : LockScreenEvent}
    {commands : List Command} (hStep : lockScreenStep screen event = .ok after)
    (hCommands : after.world.central.commands = screen.world.central.commands ++ commands) :
    screen.sends event = commands := by
  simp [sends, hStep, hCommands]

namespace Online

variable {history : History LockScreen LockScreenEvent} {screen after : LockScreen}
  {event : LockScreenEvent}

/-- A fresh controller has had no report and is not online. -/
theorem start (hInit : screen.world.controller = .init) : Online [] screen where
  wellFormed := ⟨.empty, .init hInit⟩
  online := by
    rw [hInit]
    simp [LKJBluetoothController.init, reports]

/-- A call scans exactly when a report of power on came before it. -/
theorem beginScanning (h : Online history screen)
    (hStep : lockScreenStep screen (.controller .beginScanning) = .ok after) :
    screen.Powers history after (.controller .beginScanning) := by
  cases hStep
  cases hOnline : screen.world.controller.isOnline with
  | true =>
      have hAfter := World.beginScanning_of_online hOnline
      refine .attempt .scanForPeripherals (h.online.mp hOnline) ?_ ?_
      · change screen.world.beginScanning.controller.isOnline = _
        rw [hAfter]
        rfl
      · change screen.world.beginScanning.central.commands = _
        rw [hAfter]
        rfl
  | false =>
      have hAfter := World.beginScanning_of_offline hOnline
      refine .idle nofun ?_ ?_ ?_
      · intro hAttempts
        rw [h.online.mpr hAttempts] at hOnline
        cases hOnline
      · change screen.world.beginScanning.controller.isOnline = _
        rw [hAfter]
      · change screen.world.beginScanning.central.commands = _
        rw [hAfter]

/-- The report of power on is followed by a scan, and no other report by any command. -/
theorem didUpdateState {state : CBCentralManagerState}
    (hStep : lockScreenStep screen (.controller (.centralManagerDidUpdateState state)) =
      .ok after) :
    screen.Powers history after (.controller (.centralManagerDidUpdateState state)) := by
  cases hStep
  cases state with
  | poweredOn => exact .report rfl rfl rfl
  | unknown => exact .idle (by decide) id rfl rfl
  | resetting => exact .idle (by decide) id rfl rfl
  | unsupported => exact .idle (by decide) id rfl rfl
  | unauthorized => exact .idle (by decide) id rfl rfl
  | poweredOff => exact .idle (by decide) id rfl rfl

/-- A tap sends a command exactly when the selected device is settled. -/
theorem changeLockStatus (h : Online history screen) {now : NSDate}
    (hStep : lockScreenStep screen (.changeLockStatus now) = .ok after) :
    screen.Powers history after (.changeLockStatus now) := by
  obtain ⟨roster, hRefines⟩ := h.wellFormed
  rcases LockScreen.tap_cases hRefines with hIneligible | ⟨peripheral, hDesignates, hState⟩ |
    ⟨peripheral, hDesignates, hState⟩
  · change screen.changeLockStatus now = _ at hStep
    rw [LockScreen.changeLockStatus_of_ineligible now hIneligible] at hStep
    cases hStep
    refine .idle nofun ?_ rfl rfl
    rintro ⟨peripheral, hDesignates, hSettled⟩
    rw [World.isElgibleForLock_of_designates hDesignates] at hIneligible
    exact of_decide_eq_false (Except.ok.inj hIneligible) hSettled
  · change screen.changeLockStatus now = _ at hStep
    rw [LockScreen.changeLockStatus_of_connected now hDesignates hState] at hStep
    cases hStep
    exact .attempt (.cancelPeripheralConnection peripheral)
      ⟨peripheral, hDesignates, .inl hState⟩ rfl rfl
  · change screen.changeLockStatus now = _ at hStep
    rw [LockScreen.changeLockStatus_of_disconnected now hDesignates hState] at hStep
    cases hStep
    exact .attempt (.connectPeripheral peripheral)
      ⟨peripheral, hDesignates, .inr hState⟩ rfl rfl

/-- Each step of a tap-driven run sends its commands as the reports so far allow. -/
theorem powers (h : Online history screen) (hScope : event.TapDriven)
    (hStep : lockScreenStep screen event = .ok after) : screen.Powers history after event := by
  cases event with
  | changeLockStatus now => exact h.changeLockStatus hStep
  | radio peripheral answer =>
      cases hStep
      obtain ⟨hCentral, hOnline⟩ := @World.radio_central screen.world peripheral answer
      exact .idle nofun id hOnline (congrArg CBCentralManager.commands hCentral)
  | controller event =>
      by_cases hScan : event = .beginScanning
      · subst hScan
        exact h.beginScanning hStep
      by_cases hReport : ∃ state, event = .centralManagerDidUpdateState state
      · obtain ⟨state, rfl⟩ := hReport
        exact didUpdateState hStep
      obtain ⟨world, hWorld, hAfter⟩ := bind_eq_ok.mp hStep
      cases hAfter
      have hOther : ∀ state, event ≠ .centralManagerDidUpdateState state :=
        fun state hSame => hReport ⟨state, hSame⟩
      obtain ⟨hCentral, hOnline⟩ := World.step_central hWorld hOther hScan
        (fun hLock => hScope.1 (hLock ▸ rfl)) (fun hUnlock => hScope.2 (hUnlock ▸ rfl))
      refine .idle ?_ ?_ hOnline (congrArg CBCentralManager.commands hCentral)
      · cases event <;> first
          | exact absurd rfl (hOther _)
          | nofun
      · cases event <;> first
          | exact absurd rfl hScan
          | exact id

/-- The flag follows the reports through every tap-driven step. -/
theorem step (h : Online history screen) (hScope : event.TapDriven)
    (hStep : lockScreenStep screen event = .ok after) :
    Online (history ++ [(screen, event)]) after := by
  refine ⟨lockScreenStep_refines h.wellFormed hStep, ?_⟩
  rw [reports_concat, List.mem_append]
  cases h.powers hScope hStep with
  | report hReported hOnline _ => simp [hReported, hOnline]
  | attempt command hAttempts hOnline _ =>
      simp [LockScreenEvent.reported_of_attempts hAttempts, hOnline, h.online]
  | idle hReported _ hOnline _ =>
      rw [hOnline, h.online]
      constructor
      · exact .inl
      · rintro (hOld | hNew)
        · exact hOld
        · exact absurd (Option.mem_toList.mp hNew) hReported

end Online

/-- Commands are sent only while the last reported state is `poweredOn`. -/
def SendsWhilePoweredOn (history : History LockScreen LockScreenEvent) : Prop :=
  ∀ prior screen event rest, history = prior ++ (screen, event) :: rest →
    screen.sends event ≠ [] → lastReported (prior ++ [(screen, event)]) = some .poweredOn

/-- After each report of `poweredOn` a scan has been issued. -/
def ScansAfterPowerOn (history : History LockScreen LockScreenEvent) : Prop :=
  ∀ prior screen event rest, history = prior ++ (screen, event) :: rest →
    event.reported = some .poweredOn →
    ∃ entry ∈ (screen, event) :: rest, .scanForPeripherals ∈ entry.1.sends entry.2

section Runs
variable {start finish : LockScreen} {history : History LockScreen LockScreenEvent}

/-- In every state of a tap-driven run the flag is what the reports have made it. -/
theorem reachable_online (run : Run lockScreenStep start history finish)
    (hInit : start.world.controller = .init) (hScope : ∀ entry ∈ history, entry.2.TapDriven) :
    Online history finish := by
  apply run.induction_of_permitted (fun _ event => event.TapDriven) Online (.start hInit) ?_ hScope
  intro history state event after _ hState hTap hStep
  exact hState.step hTap hStep

/-- Each step of a run is of one of the three kinds. -/
theorem powers_at_split (run : Run lockScreenStep start history finish)
    (hInit : start.world.controller = .init) (hScope : ∀ entry ∈ history, entry.2.TapDriven)
    {prior rest : History LockScreen LockScreenEvent} {screen : LockScreen}
    {event : LockScreenEvent} (hSplit : history = prior ++ (screen, event) :: rest) :
    ∃ after, lockScreenStep screen event = .ok after ∧ screen.Powers prior after event := by
  subst hSplit
  obtain ⟨after, hPrior, hStep, _⟩ := run.split_cons
  have hOnline := reachable_online hPrior hInit fun entry hEntry =>
    hScope entry (List.mem_append_left _ hEntry)
  exact ⟨after, hStep, hOnline.powers (hScope (screen, event) (by simp)) hStep⟩

/-- The radio is commanded only while it is on, and scans after each report of it, exactly
when every call of `beginScanning` after a first such report and every tap on a settled
device is made while the last report says so. -/
theorem commands_while_powered_on_iff (run : Run lockScreenStep start history finish)
    (hInit : start.world.controller = .init) (hScope : ∀ entry ∈ history, entry.2.TapDriven) :
    (SendsWhilePoweredOn history ∧ ScansAfterPowerOn history) ↔
      ∀ prior screen event rest, history = prior ++ (screen, event) :: rest →
        event.Attempts prior screen → lastReported prior = some .poweredOn := by
  constructor
  · rintro ⟨hSends, _⟩ prior screen event rest hSplit hAttempts
    obtain ⟨after, hStep, hPowers⟩ := powers_at_split run hInit hScope hSplit
    cases hPowers with
    | report hReported _ _ =>
        rw [LockScreenEvent.reported_of_attempts hAttempts] at hReported
        cases hReported
    | attempt command _ _ hCommands =>
        have hLast := hSends prior screen event rest hSplit
          (by rw [LockScreen.sends_eq hStep hCommands]; exact List.cons_ne_nil _ _)
        rwa [lastReported_concat, LockScreenEvent.reported_of_attempts hAttempts,
          Option.none_or] at hLast
    | idle _ hIdle _ _ => exact absurd hAttempts hIdle
  · intro hAttempts
    constructor
    · intro prior screen event rest hSplit hSends
      obtain ⟨after, hStep, hPowers⟩ := powers_at_split run hInit hScope hSplit
      rw [lastReported_concat]
      cases hPowers with
      | report hReported _ _ =>
          rw [hReported]
          rfl
      | attempt command hAttempt _ _ =>
          rw [LockScreenEvent.reported_of_attempts hAttempt, Option.none_or]
          exact hAttempts prior screen event rest hSplit hAttempt
      | idle _ _ _ hCommands =>
          rw [← List.append_nil screen.world.central.commands] at hCommands
          exact absurd (LockScreen.sends_eq hStep hCommands) hSends
    · intro prior screen event rest hSplit hReport
      obtain ⟨after, hStep, hPowers⟩ := powers_at_split run hInit hScope hSplit
      refine ⟨(screen, event), List.mem_cons_self, ?_⟩
      cases hPowers with
      | report _ _ hCommands =>
          rw [LockScreen.sends_eq hStep hCommands]
          exact List.mem_cons_self
      | attempt command hAttempt _ _ =>
          rw [LockScreenEvent.reported_of_attempts hAttempt] at hReport
          cases hReport
      | idle hReported _ _ _ => exact absurd hReport hReported

end Runs

/-- The radio is reported on, and a device is discovered, picked and unlocked. -/
def powerOnAndUnlock : List LockScreenEvent :=
  [.controller (.centralManagerDidUpdateState .poweredOn),
    .controller (.didDiscoverPeripheral frontDoor ⟨100, 20⟩),
    .controller (.selectPeripheralAtIndex (.position 0) 1), .changeLockStatus ⟨200, 30⟩]

theorem commands_while_powered_on_after_power_on :
    ∃ screen, exec lockScreenStep freshScreen powerOnAndUnlock = .ok screen ∧
      screen.world.central.commands = [.scanForPeripherals, .connectPeripheral frontDoor] ∧
      SendsWhilePoweredOn (historyOf lockScreenStep freshScreen powerOnAndUnlock) ∧
      ScansAfterPowerOn (historyOf lockScreenStep freshScreen powerOnAndUnlock) := by
  obtain ⟨screen, hExec, hCommands⟩ :
      ∃ screen, exec lockScreenStep freshScreen powerOnAndUnlock = .ok screen ∧
        screen.world.central.commands = [.scanForPeripherals, .connectPeripheral frontDoor] :=
    ⟨_, rfl, rfl⟩
  obtain ⟨first, second, third, hHistory⟩ : ∃ first second third,
      historyOf lockScreenStep freshScreen powerOnAndUnlock =
        [(freshScreen, .controller (.centralManagerDidUpdateState .poweredOn)),
          (first, .controller (.didDiscoverPeripheral frontDoor ⟨100, 20⟩)),
          (second, .controller (.selectPeripheralAtIndex (.position 0) 1)),
          (third, .changeLockStatus ⟨200, 30⟩)] := ⟨_, _, _, rfl⟩
  have hScope : ∀ entry ∈ historyOf lockScreenStep freshScreen powerOnAndUnlock,
      entry.2.TapDriven := by
    intro entry hEntry
    have hAction := action_mem_of_mem_historyOf hEntry
    constructor
    · intro hLock
      simp [hLock, powerOnAndUnlock] at hAction
    · intro hUnlock
      simp [hUnlock, powerOnAndUnlock] at hAction
  refine ⟨screen, hExec, hCommands, ?_⟩
  apply (commands_while_powered_on_iff (run_of_exec hExec) rfl hScope).mpr
  intro prior state event rest hSplit hAttempts
  rw [hHistory] at hSplit
  rcases prior with _ | ⟨_, _ | ⟨_, _ | ⟨_, _ | ⟨_, prior⟩⟩⟩⟩
  · cases hSplit
    exact hAttempts.elim
  · cases hSplit
    rfl
  · cases hSplit
    rfl
  · cases hSplit
    rfl
  · simp at hSplit

/-- The radio is switched off again before the scan and the tap. -/
def powerOffAndUnlock : List LockScreenEvent :=
  [.controller (.centralManagerDidUpdateState .poweredOn),
    .controller (.didDiscoverPeripheral frontDoor ⟨100, 20⟩),
    .controller (.selectPeripheralAtIndex (.position 0) 1),
    .controller (.centralManagerDidUpdateState .poweredOff), .controller .beginScanning,
    .changeLockStatus ⟨200, 30⟩]

theorem scan_and_connect_while_powered_off :
    ∃ screen, exec lockScreenStep freshScreen powerOffAndUnlock = .ok screen ∧
      screen.world.central.commands =
        [.scanForPeripherals, .scanForPeripherals, .connectPeripheral frontDoor] ∧
      ¬ (SendsWhilePoweredOn (historyOf lockScreenStep freshScreen powerOffAndUnlock) ∧
        ScansAfterPowerOn (historyOf lockScreenStep freshScreen powerOffAndUnlock)) := by
  refine ⟨_, rfl, rfl, ?_⟩
  rintro ⟨hSends, _⟩
  obtain ⟨prior, screen, hHistory, hSent, hLast⟩ : ∃ prior screen,
      historyOf lockScreenStep freshScreen powerOffAndUnlock =
        prior ++ (screen, .changeLockStatus ⟨200, 30⟩) :: [] ∧
      screen.sends (.changeLockStatus ⟨200, 30⟩) = [.connectPeripheral frontDoor] ∧
      lastReported prior = some .poweredOff :=
    ⟨[_, _, _, _, _], _, rfl, rfl, rfl⟩
  have hOn := hSends prior screen _ [] hHistory (by rw [hSent]; exact List.cons_ne_nil _ _)
  rw [lastReported_concat, hLast] at hOn
  cases hOn

end LockJaw
