import LockJaw.Lock.Screen
import Mathlib.Data.List.Forall2

/-! The lock history against the commands. A tap reads the state twice, once for the
record and once inside `lockDevice` or `unlockDevice`; within one tap both readings
agree, so the records pair with the commands over every run. -/
namespace LockJaw

open Cocoa Semantics

/-- The record tells the direction of the command, and the name its target had. -/
structure LKJHistory.Describes (record : LKJHistory) (world : World) (command : Command) :
    Prop where
  locks : record.isLockAction = true ↔
    ∃ peripheral, command = .cancelPeripheralConnection peripheral
  unlocks : record.isLockAction = false ↔
    ∃ peripheral, command = .connectPeripheral peripheral
  named : ∃ peripheral, command.target = some peripheral ∧
    record.lockName = (world.peripherals peripheral).name

/-- The commands a tap sent, each with the world it was sent in. -/
def LockScreen.commandsOfTap (screen : LockScreen) (event : LockScreenEvent) :
    List (World × Command) :=
  match event with
  | .changeLockStatus now =>
      match screen.changeLockStatus now with
      | .ok after =>
          (after.world.central.commands.drop screen.world.central.commands.length).map
            fun command => (screen.world, command)
      | .error _ => []
  | _ => []

def tapCommands (history : History LockScreen LockScreenEvent) : List (World × Command) :=
  history.flatMap fun entry => entry.1.commandsOfTap entry.2

/-- A further tap adds its commands. -/
theorem tapCommands_concat (history : History LockScreen LockScreenEvent)
    (screen : LockScreen) (event : LockScreenEvent) :
    tapCommands (history ++ [(screen, event)]) =
      tapCommands history ++ screen.commandsOfTap event := by
  simp [tapCommands]

/-- One tap: with an eligible device one command and one record that describes it,
and otherwise nothing but an alert. -/
inductive LockScreen.Taps (screen after : LockScreen) : Prop where
  | accepted (command : Command) (record : LKJHistory)
      (hEligible : screen.world.isElgibleForLock = .ok true)
      (hCommands :
        after.world.central.commands = screen.world.central.commands ++ [command])
      (hHistory : after.world.realm.history = screen.world.realm.history ++ [record])
      (hDescribes : record.Describes screen.world command)
  | refused (hEligible : screen.world.isElgibleForLock = .ok false)
      (hWorld : after.world = screen.world) (hView : after.lockView = screen.lockView)

namespace LockScreen

section Taps
variable {screen after : LockScreen} {roster : Roster CBPeripheral}

/-- On a well-formed controller a tap completes. -/
theorem changeLockStatus_taps (hRefines : Refines screen.world roster) (now : NSDate) :
    ∃ after, screen.changeLockStatus now = .ok after ∧ screen.Taps after ∧
      Refines after.world roster := by
  rcases tap_cases hRefines with hIneligible | ⟨peripheral, hSelected, hState⟩ |
    ⟨peripheral, hSelected, hState⟩
  · exact ⟨_, changeLockStatus_of_ineligible now hIneligible,
      .refused hIneligible rfl rfl, hRefines⟩
  · have hEligible : screen.world.isElgibleForLock = .ok true := by
      simp [World.isElgibleForLock_of_designates hSelected, hState]
    refine ⟨_, changeLockStatus_of_connected now hSelected hState, ?_, hRefines.congr rfl⟩
    refine .accepted (.cancelPeripheralConnection peripheral) _ hEligible rfl rfl ?_
    exact ⟨by simp, by simp, peripheral, rfl, rfl⟩
  · have hEligible : screen.world.isElgibleForLock = .ok true := by
      simp [World.isElgibleForLock_of_designates hSelected, hState]
    refine ⟨_, changeLockStatus_of_disconnected now hSelected hState, ?_, hRefines.congr rfl⟩
    refine .accepted (.connectPeripheral peripheral) _ hEligible rfl rfl ?_
    exact ⟨by simp, by simp, peripheral, rfl, rfl⟩

/-- The records a tap adds describe the commands it sends, one each. -/
theorem Taps.records {now : NSDate} (h : screen.Taps after)
    (hStep : screen.changeLockStatus now = .ok after) :
    ∃ records, after.world.realm.history = screen.world.realm.history ++ records ∧
      List.Forall₂ (fun record (sent : World × Command) => record.Describes sent.1 sent.2)
        records (screen.commandsOfTap (.changeLockStatus now)) := by
  cases h with
  | accepted command record _ hCommands hHistory hDescribes =>
      refine ⟨[record], hHistory, ?_⟩
      have hSent : screen.commandsOfTap (.changeLockStatus now) = [(screen.world, command)] := by
        simp [commandsOfTap, hStep, hCommands]
      rw [hSent]
      exact .cons hDescribes .nil
  | refused _ hWorld _ =>
      refine ⟨[], by simp [hWorld], ?_⟩
      have hSent : screen.commandsOfTap (.changeLockStatus now) = [] := by
        simp [commandsOfTap, hStep, hWorld]
      rw [hSent]
      exact .nil

end Taps

end LockScreen

namespace World

variable {world after : World}

/-- The controller writes devices to the store and never a history record. -/
theorem step_history {roster : Roster CBPeripheral} (hRefines : Refines world roster)
    {event : ControllerEvent} (hStep : world.step event = .ok after) :
    after.realm.history = world.realm.history := by
  rcases step_cases hRefines.index_ne_notFound hStep with ⟨peripheral, now, rfl, rfl⟩ |
    ⟨index, inSection, rfl, hSelect⟩ | ⟨clock, rfl, hPass⟩ | ⟨_, _, hSame⟩
  · rw [(world.didDiscoverPeripheral_frame peripheral now).1]
  · rcases selectPeripheralAtIndex_cases hSelect with ⟨_, n, peripheral, _, _, rfl⟩ |
      ⟨_, n, peripheral, _, _, rfl⟩ | ⟨_, _, rfl⟩
    · rw [selectConnected_realm]
    · rw [selectConnected_realm]
      rfl
    · rfl
  · obtain ⟨_, _, _, rfl⟩ := removeExpiredDevices_eq_ok hPass
    rfl
  · rw [hSame.2]

theorem radio_realm (peripheral : CBPeripheral) (answer : RadioAnswer) :
    (world.radio peripheral answer).realm = world.realm := by
  unfold radio
  split
  · rfl
  · cases answer <;> rfl

end World

/-- Every step leaves a well-formed controller. -/
theorem lockScreenStep_refines {screen after : LockScreen} {event : LockScreenEvent}
    (h : ∃ roster : Roster CBPeripheral, Refines screen.world roster)
    (hStep : lockScreenStep screen event = .ok after) :
    ∃ roster : Roster CBPeripheral, Refines after.world roster := by
  obtain ⟨roster, hRefines⟩ := h
  cases event with
  | changeLockStatus now =>
      obtain ⟨tapped, hTapped, _, hNext⟩ := LockScreen.changeLockStatus_taps hRefines now
      obtain rfl : after = tapped := Except.ok.inj (hStep.symm.trans hTapped)
      exact ⟨roster, hNext⟩
  | controller event =>
      obtain ⟨world, hWorld, hAfter⟩ := bind_eq_ok.mp hStep
      cases hAfter
      obtain ⟨next, _, hNext⟩ := hRefines.step hWorld
      exact ⟨next, hNext⟩
  | radio peripheral answer =>
      cases hStep
      exact ⟨roster, hRefines.congr (World.radio_lists peripheral answer)⟩

/-- The records written so far, and a well-formed controller for the next tap. -/
structure Recorded (start : LockScreen) (history : History LockScreen LockScreenEvent)
    (screen : LockScreen) : Prop where
  wellFormed : ∃ roster : Roster CBPeripheral, Refines screen.world roster
  records : ∃ records, screen.world.realm.history = start.world.realm.history ++ records ∧
    List.Forall₂ (fun record (sent : World × Command) => record.Describes sent.1 sent.2)
      records (tapCommands history)

/-- Each step records the commands of its tap. -/
theorem Recorded.step {start screen after : LockScreen}
    {history : History LockScreen LockScreenEvent} (h : Recorded start history screen)
    {event : LockScreenEvent} (hStep : lockScreenStep screen event = .ok after) :
    Recorded start (history ++ [(screen, event)]) after := by
  refine ⟨lockScreenStep_refines h.wellFormed hStep, ?_⟩
  obtain ⟨⟨roster, hRefines⟩, records, hRecords, hDescribes⟩ := h
  cases event with
  | changeLockStatus now =>
      obtain ⟨tapped, hTapped, hTaps, _⟩ := LockScreen.changeLockStatus_taps hRefines now
      obtain rfl : after = tapped := Except.ok.inj (hStep.symm.trans hTapped)
      obtain ⟨new, hNew, hPaired⟩ := hTaps.records hTapped
      refine ⟨records ++ new, ?_, ?_⟩
      · rw [hNew, hRecords, List.append_assoc]
      · rw [tapCommands_concat]
        exact List.rel_append hDescribes hPaired
  | controller event =>
      obtain ⟨world, hWorld, hAfter⟩ := bind_eq_ok.mp hStep
      cases hAfter
      refine ⟨records, ?_, ?_⟩
      · rw [← hRecords]
        exact World.step_history hRefines hWorld
      · rw [tapCommands_concat]
        simpa [LockScreen.commandsOfTap] using hDescribes
  | radio peripheral answer =>
      cases hStep
      refine ⟨records, ?_, ?_⟩
      · rw [← hRecords, World.radio_realm]
      · rw [tapCommands_concat]
        simpa [LockScreen.commandsOfTap] using hDescribes

/-- In every run each tap on an eligible device writes one record and sends one
command, every other tap does neither, and the records written describe the
commands sent, one by one and in order. -/
theorem history_describes_commands {start screen : LockScreen}
    {history : History LockScreen LockScreenEvent}
    (run : Run lockScreenStep start history screen) (hReachable : start.world.Reachable) :
    (∀ now, ∃ after, screen.changeLockStatus now = .ok after ∧ screen.Taps after) ∧
    ∃ records, screen.world.realm.history = start.world.realm.history ++ records ∧
      records.length = (tapCommands history).length ∧
      List.Forall₂ (fun record (sent : World × Command) => record.Describes sent.1 sent.2)
        records (tapCommands history) := by
  have hStart : Recorded start [] start := ⟨hReachable.refines, [], by simp, .nil⟩
  obtain ⟨⟨roster, hRefines⟩, records, hRecords, hDescribes⟩ :=
    run.induction (Recorded start) hStart fun _ _ _ _ _ hState hStep => hState.step hStep
  refine ⟨?_, records, hRecords, hDescribes.length_eq, hDescribes⟩
  intro now
  obtain ⟨after, hAfter, hTaps, _⟩ := LockScreen.changeLockStatus_taps hRefines now
  exact ⟨after, hAfter, hTaps⟩

/-- An unlock, a tap that is refused while the device connects, and a lock. -/
def unlockAndLock : List LockScreenEvent :=
  [.controller (.didDiscoverPeripheral frontDoor ⟨100, 20⟩),
    .controller (.selectPeripheralAtIndex (.position 0) 1),
    .changeLockStatus ⟨200, 30⟩, .changeLockStatus ⟨250, 31⟩, .radio frontDoor .connects,
    .changeLockStatus ⟨300, 40⟩]

theorem history_describes_two_commands :
    ∃ screen, exec lockScreenStep freshScreen unlockAndLock = .ok screen ∧
      screen.world.realm.history.length = 2 ∧
      (tapCommands (historyOf lockScreenStep freshScreen unlockAndLock)).length = 2 := by
  have hFinal : ∃ screen, exec lockScreenStep freshScreen unlockAndLock = .ok screen ∧
      screen.world.realm.history.length = 2 := ⟨_, rfl, rfl⟩
  obtain ⟨screen, hExec, hLength⟩ := hFinal
  obtain ⟨_, records, hRecords, hEqual, _⟩ :=
    history_describes_commands (run_of_exec hExec) freshWorld_reachable
  refine ⟨screen, hExec, hLength, ?_⟩
  rw [← hEqual, ← hLength, hRecords]
  rfl

end LockJaw
