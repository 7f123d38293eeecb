import LockJaw.App.History
import Mathlib.Algebra.Group.Nat.Even

/-! What the user gets for a tap on the lock: a command, which turns the picture over, or an
alert, which does not. The picture keeps count of the commands and of nothing else. -/
namespace LockJaw

open Cocoa Semantics

namespace LockScreen

/-- The answers to the taps of a history. -/
structure Answered (start : LockScreen) (history : History LockScreen LockScreenEvent)
    (screen : LockScreen) : Prop where
  alerts : ∃ refused, screen.presentedAlerts =
      start.presentedAlerts ++ List.replicate refused unableToReachLock ∧
    refused + (tapCommands history).length =
      (history.filterMap fun entry => tapTime entry.2).length
  picture : (screen.lockView.isLocked = start.lockView.isLocked) ↔
    Even (tapCommands history).length

namespace Answered

variable {start screen after : LockScreen} {history : History LockScreen LockScreenEvent}

/-- A step that is no tap is not answered. -/
theorem silent (h : Answered start history screen) {event : LockScreenEvent}
    (hNoTap : tapTime event = none) (hCommands : screen.commandsOfTap event = [])
    (hView : after.lockView = screen.lockView)
    (hAlerts : after.presentedAlerts = screen.presentedAlerts) :
    Answered start (history ++ [(screen, event)]) after := by
  obtain ⟨refused, hRefused, hCount⟩ := h.alerts
  constructor
  · refine ⟨refused, hAlerts.trans hRefused, ?_⟩
    rw [tapCommands_concat, hCommands, List.append_nil, hCount]
    simp [hNoTap]
  · rw [tapCommands_concat, hCommands, List.append_nil, hView]
    exact h.picture

/-- A tap that is refused costs an alert. -/
theorem refused (h : Answered start history screen) {now : NSDate}
    (hTap : screen.changeLockStatus now = .ok { screen with
      presentedAlerts := screen.presentedAlerts ++ [unableToReachLock] }) :
    Answered start (history ++ [(screen, .changeLockStatus now)]) { screen with
      presentedAlerts := screen.presentedAlerts ++ [unableToReachLock] } := by
  obtain ⟨refused, hRefused, hCount⟩ := h.alerts
  have hNone : screen.commandsOfTap (.changeLockStatus now) = [] := by
    have hSent : screen.world.central.commands = screen.world.central.commands ++ [] :=
      (List.append_nil _).symm
    exact commandsOfTap_of_sent hTap hSent
  constructor
  · refine ⟨refused + 1, ?_, ?_⟩
    · change screen.presentedAlerts ++ _ = _
      rw [hRefused, List.append_assoc, List.replicate_succ']
    · rw [tapCommands_concat, hNone, List.append_nil, List.filterMap_append,
        List.length_append, ← hCount]
      simp [tapTime]
      omega
  · rw [tapCommands_concat, hNone, List.append_nil]
    exact h.picture

/-- A tap that sends a command turns the picture over. -/
theorem accepted (h : Answered start history screen) {now : NSDate}
    (hTap : screen.changeLockStatus now = .ok after) {command : Command}
    (hSent : after.world.central.commands = screen.world.central.commands ++ [command])
    (hView : after.lockView = screen.lockView.changeLockStatus)
    (hAlerts : after.presentedAlerts = screen.presentedAlerts) :
    Answered start (history ++ [(screen, .changeLockStatus now)]) after := by
  obtain ⟨refused, hRefused, hCount⟩ := h.alerts
  have hOne := commandsOfTap_of_sent hTap hSent
  constructor
  · refine ⟨refused, hAlerts.trans hRefused, ?_⟩
    rw [tapCommands_concat, hOne, List.filterMap_append, List.length_append,
      List.length_append, ← hCount]
    simp [tapTime]
    omega
  · rw [tapCommands_concat, hOne, List.length_append, List.length_map, List.length_singleton,
      Nat.even_add_one, ← h.picture, hView]
    change (!screen.lockView.isLocked) = _ ↔ _
    cases screen.lockView.isLocked <;> cases start.lockView.isLocked <;> simp

theorem step (h : Answered start history screen) {roster : Roster CBPeripheral}
    (hRefines : Refines screen.world roster) {event : LockScreenEvent}
    (hStep : lockScreenStep screen event = .ok after) :
    Answered start (history ++ [(screen, event)]) after := by
  cases event with
  | controller event =>
      obtain ⟨world, _, hAfter⟩ := bind_eq_ok.mp hStep
      cases hAfter
      exact h.silent rfl rfl rfl rfl
  | radio peripheral answer =>
      cases hStep
      exact h.silent rfl rfl rfl rfl
  | changeLockStatus now =>
      have hTap : screen.changeLockStatus now = .ok after := hStep
      rcases tap_cases hRefines with hIneligible | ⟨peripheral, hSelected, hState⟩ |
        ⟨peripheral, hSelected, hState⟩
      · have hRefused := changeLockStatus_of_ineligible now hIneligible
        obtain rfl := Except.ok.inj (hTap.symm.trans hRefused)
        exact h.refused hRefused
      · have hLocked := changeLockStatus_of_connected now hSelected hState
        obtain rfl := Except.ok.inj (hTap.symm.trans hLocked)
        exact h.accepted hLocked rfl rfl rfl
      · have hUnlocked := changeLockStatus_of_disconnected now hSelected hState
        obtain rfl := Except.ok.inj (hTap.symm.trans hUnlocked)
        exact h.accepted hUnlocked rfl rfl rfl

theorem of_run (run : Run lockScreenStep start history screen)
    (hStart : ∃ roster : Roster CBPeripheral, Refines start.world roster) :
    Answered start history screen := by
  induction run with
  | nil =>
      constructor
      · exact ⟨0, by simp, rfl⟩
      · simp [tapCommands]
  | snoc prior last ih =>
      obtain ⟨roster, hRefines⟩ := prior.invariant
        (fun state => ∃ roster : Roster CBPeripheral, Refines state.world roster) hStart
        fun _ _ _ hState hStep => lockScreenStep_refines hState hStep
      exact ih.step hRefines last

end Answered

end LockScreen

/-- In every run each tap that reaches the lock is answered once, by one command or by one
alert, and the lock is drawn closed exactly when the number of commands is even, whichever
devices they went to and whatever became of them. -/
theorem every_tap_is_answered {platform : Platform}
    {peripherals : CBPeripheral → PeripheralObject} {realm : RLMRealm}
    {central : CBCentralManager} {start app : Application}
    {history : History Application ApplicationEvent}
    (hLaunch : Application.launch peripherals realm central = .ok start)
    (run : Run (applicationStep platform) start history app) :
    ∃ refused sent, app.presentedAlerts =
        List.replicate refused LockScreen.unableToReachLock ∧
      deviceCommands app.world.central.commands = deviceCommands central.commands ++ sent ∧
      refused + sent.length = (Application.tapTimes history).length ∧
      (app.lockView.isLocked = true ↔ Even sent.length) := by
  have hAnswered := LockScreen.Answered.of_run (Application.lockRun_of_run hLaunch run)
    ⟨.empty, Application.refines_of_launch hLaunch⟩
  have hCommands := (Application.logged_of_run hLaunch run).commands
  have hPicture := hAnswered.picture
  obtain ⟨refused, hAlerts, hCount⟩ := hAnswered.alerts
  rw [Application.launch_eq] at hLaunch
  cases hLaunch
  refine ⟨refused, _, hAlerts, hCommands, ?_, ?_⟩
  · rw [List.length_map]
    exact hCount
  · rw [List.length_map]
    exact hPicture

/-- A device is unlocked and locked, and tapped again before it has let go. -/
def toggleAndTapAgain : List ApplicationEvent :=
  touchAndToggle ++ [.changeLockStatus ⟨301, 32⟩]

theorem third_tap_is_answered :
    ∃ start app, Application.launch freshWorld.peripherals freshWorld.realm
        freshWorld.central = .ok start ∧
      exec (applicationStep samplePlatform) start toggleAndTapAgain = .ok app ∧
      ∃ refused : Nat, ∃ sent : List Command,
        deviceCommands app.world.central.commands = sent ∧ refused + sent.length = 3 ∧
        (app.lockView.isLocked = true ↔ Even sent.length) := by
  obtain ⟨start, app, hLaunch, hExec, hTimes⟩ :
      ∃ start app, Application.launch freshWorld.peripherals freshWorld.realm
          freshWorld.central = .ok start ∧
        exec (applicationStep samplePlatform) start toggleAndTapAgain = .ok app ∧
        (Application.tapTimes (historyOf (applicationStep samplePlatform) start
          toggleAndTapAgain)).length = 3 :=
    ⟨_, _, rfl, rfl, rfl⟩
  obtain ⟨refused, sent, _, hSent, hCount, hPicture⟩ :=
    every_tap_is_answered hLaunch (run_of_exec hExec)
  exact ⟨start, app, hLaunch, hExec, refused, sent, hSent, hCount.trans hTimes, hPicture⟩

end LockJaw
