import LockJaw.App.Commands

/-! A lock command is final in the application. The controller's `lockDevice` leaves an
attempt under way alone, but a tap on the lock asks `isElgibleForLock` first, and so it never
reaches `lockDevice` while an attempt is pending. -/
namespace LockJaw

open Cocoa Semantics

/-- The commands that one device was sent, oldest first. -/
def commandsTo (commands : List Command) (peripheral : CBPeripheral) : List Command :=
  commands.filter fun command => command.target = some peripheral

section Sent
variable {commands sent : List Command} {command : Command} {peripheral other : CBPeripheral}

/-- A command to a device is a command about a device. -/
theorem commandsTo_deviceCommands (commands : List Command) (peripheral : CBPeripheral) :
    commandsTo (deviceCommands commands) peripheral = commandsTo commands peripheral := by
  rw [commandsTo, deviceCommands, List.filter_filter]
  congr 1
  funext command
  cases command.target <;> simp

/-- The commands to a device come in their order. -/
theorem commandsTo_append (commands sent : List Command) (peripheral : CBPeripheral) :
    commandsTo (commands ++ sent) peripheral =
      commandsTo commands peripheral ++ commandsTo sent peripheral :=
  List.filter_append _ _

theorem commandsTo_concat_self (hTarget : command.target = some peripheral) :
    commandsTo (commands ++ [command]) peripheral =
      commandsTo commands peripheral ++ [command] := by
  rw [commandsTo_append]
  simp [commandsTo, hTarget]

theorem commandsTo_concat_of_ne (hTarget : command.target = some other)
    (hOther : peripheral ≠ other) :
    commandsTo (commands ++ [command]) peripheral = commandsTo commands peripheral := by
  rw [commandsTo_append]
  simp [commandsTo, hTarget, Ne.symm hOther]

end Sent

/-- Every device does what it was told last: it is open, or opening, only if that was to
connect, and it was told to let go only right after it was told to connect. -/
structure World.Obeys (world : World) : Prop where
  opened : ∀ peripheral, (world.peripherals peripheral).link.opens = true →
    (commandsTo world.central.commands peripheral).getLast? =
      some (.connectPeripheral peripheral)
  alternating : ∀ peripheral sent,
    sent ++ [.cancelPeripheralConnection peripheral] <+:
      commandsTo world.central.commands peripheral →
    sent.getLast? = some (.connectPeripheral peripheral)

namespace World.Obeys

variable {world after : World} {peripheral : CBPeripheral}

/-- Before any command every link is closed. -/
theorem start (hCommands : world.central.commands = [])
    (hClosed : ∀ peripheral, (world.peripherals peripheral).link = .disconnected) :
    world.Obeys := by
  constructor
  · intro peripheral hOpens
    rw [hClosed] at hOpens
    cases hOpens
  · intro peripheral sent hPrefix
    rw [hCommands] at hPrefix
    simp [commandsTo] at hPrefix

/-- A step that tells no device anything opens none. -/
theorem frame (h : world.Obeys)
    (hCommands : deviceCommands after.central.commands = deviceCommands world.central.commands)
    (hLinks : ∀ peripheral, (after.peripherals peripheral).link.opens = true →
      (world.peripherals peripheral).link.opens = true) : after.Obeys := by
  have hSame : ∀ peripheral, commandsTo after.central.commands peripheral =
      commandsTo world.central.commands peripheral := by
    intro peripheral
    rw [← commandsTo_deviceCommands, hCommands, commandsTo_deviceCommands]
  constructor
  · intro peripheral hOpens
    rw [hSame]
    exact h.opened peripheral (hLinks peripheral hOpens)
  · intro peripheral sent
    rw [hSame]
    exact h.alternating peripheral sent

/-- A device that is disconnected is told to connect. -/
theorem connectPeripheral (h : world.Obeys) : (world.connectPeripheral peripheral).Obeys := by
  have hTarget : Command.target (.connectPeripheral peripheral) = some peripheral := rfl
  constructor
  · intro other hOpens
    by_cases hOther : other = peripheral
    · subst hOther
      exact (congrArg List.getLast? (commandsTo_concat_self hTarget)).trans
        List.getLast?_concat
    · rw [World.connectPeripheral, setLink_link_of_ne _ _ _ hOther] at hOpens
      exact (congrArg List.getLast? (commandsTo_concat_of_ne hTarget hOther)).trans
        (h.opened other hOpens)
  · intro other sent hPrefix
    change _ <+: commandsTo (world.central.commands ++ [.connectPeripheral peripheral]) other
      at hPrefix
    by_cases hOther : other = peripheral
    · subst hOther
      rw [commandsTo_concat_self hTarget, List.prefix_concat_iff] at hPrefix
      rcases hPrefix with hWhole | hPrefix
      · have hLast := (List.append_inj' hWhole rfl).2
        cases hLast
      · exact h.alternating other sent hPrefix
    · rw [commandsTo_concat_of_ne hTarget hOther] at hPrefix
      exact h.alternating other sent hPrefix

/-- A device that is open is told to let go. -/
theorem cancelPeripheralConnection (h : world.Obeys)
    (hOpen : (world.peripherals peripheral).link = .connected) :
    (world.cancelPeripheralConnection peripheral).Obeys := by
  have hTarget : Command.target (.cancelPeripheralConnection peripheral) = some peripheral :=
    rfl
  constructor
  · intro other hOpens
    by_cases hOther : other = peripheral
    · subst hOther
      rw [World.cancelPeripheralConnection, setLink_link, hOpen] at hOpens
      cases hOpens
    · rw [World.cancelPeripheralConnection, setLink_link_of_ne _ _ _ hOther] at hOpens
      exact (congrArg List.getLast? (commandsTo_concat_of_ne hTarget hOther)).trans
        (h.opened other hOpens)
  · intro other sent hPrefix
    change _ <+: commandsTo (world.central.commands ++
      [.cancelPeripheralConnection peripheral]) other at hPrefix
    by_cases hOther : other = peripheral
    · subst hOther
      rw [commandsTo_concat_self hTarget, List.prefix_concat_iff] at hPrefix
      rcases hPrefix with hWhole | hPrefix
      · -- this is the command that was just sent
        rw [(List.append_inj' hWhole rfl).1]
        apply h.opened other
        rw [hOpen]
        rfl
      · exact h.alternating other sent hPrefix
    · rw [commandsTo_concat_of_ne hTarget hOther] at hPrefix
      exact h.alternating other sent hPrefix

end World.Obeys

namespace LockScreen

/-- A step of the lock's screen keeps every device obedient. -/
theorem step_obeys {screen after : LockScreen} (h : screen.world.Obeys)
    {roster : Roster CBPeripheral} (hRefines : Refines screen.world roster)
    {event : LockScreenEvent} (hScope : event.ByTapsAndRadio screen)
    (hStep : lockScreenStep screen event = .ok after) : after.world.Obeys := by
  cases event with
  | controller event =>
      obtain ⟨world, hWorld, hAfter⟩ := bind_eq_ok.mp hStep
      cases hAfter
      have hLink := World.step_link hWorld hScope
      apply h.frame
      · apply World.step_deviceCommands hWorld
        · rintro rfl
          exact hScope
        · rintro rfl
          exact hScope
      · intro peripheral hOpens
        rwa [hLink] at hOpens
  | radio other answer =>
      cases hStep
      apply h.frame
      · rw [(World.radio_central other answer).1]
      · intro peripheral hOpens
        rw [World.radio_link] at hOpens
        split at hOpens
        · cases hAnswer : (screen.world.peripherals peripheral).link.answer answer with
          | none => rwa [hAnswer] at hOpens
          | some link =>
              rw [hAnswer] at hOpens
              exact Link.opens_of_answer hAnswer hOpens
        · exact hOpens
  | changeLockStatus now =>
      have hTap : screen.changeLockStatus now = .ok after := hStep
      have hRecord : ∀ {world : World} (record : LKJHistory), world.Obeys →
          (world.addHistory record).Obeys :=
        fun _ hWorld => ⟨hWorld.opened, hWorld.alternating⟩
      rcases tap_cases hRefines with hIneligible | ⟨peripheral, hSelected, hState⟩ |
        ⟨peripheral, hSelected, hState⟩
      · rw [changeLockStatus_of_ineligible now hIneligible] at hTap
        cases hTap
        exact h
      · rw [changeLockStatus_of_connected now hSelected hState] at hTap
        cases hTap
        exact hRecord _ (h.cancelPeripheralConnection (World.state_eq_connected_iff.mp hState))
      · rw [changeLockStatus_of_disconnected now hSelected hState] at hTap
        cases hTap
        exact hRecord _ h.connectPeripheral

theorem obeys_of_run {start screen : LockScreen} {history : History LockScreen LockScreenEvent}
    (run : Run lockScreenStep start history screen)
    (hStart : ∃ roster : Roster CBPeripheral, Refines start.world roster)
    (hObeys : start.world.Obeys)
    (hScope : ∀ entry ∈ history, entry.2.ByTapsAndRadio entry.1) : screen.world.Obeys := by
  apply run.induction_of_permitted (fun state event => event.ByTapsAndRadio state)
    (fun _ state => state.world.Obeys) hObeys ?_ hScope
  intro history state event after prior hState hEvent hStep
  obtain ⟨roster, hRefines⟩ := prior.invariant
    (fun state => ∃ roster : Roster CBPeripheral, Refines state.world roster) hStart
    fun _ _ _ hState hStep => lockScreenStep_refines hState hStep
  exact step_obeys hState hRefines hEvent hStep

end LockScreen

/-- What the lock's screen sees of the application are taps, radio answers and steps that
leave the links alone. -/
theorem Application.lockEvent_byTapsAndRadio {app : Application} {event : ApplicationEvent}
    {seen : LockScreenEvent} (hSeen : app.lockEvent event = some seen) :
    seen.ByTapsAndRadio app.lockScreen := by
  cases event with
  | didSelectRow path =>
      unfold lockEvent at hSeen
      dsimp only at hSeen
      split at hSeen
      · cases hSeen
        trivial
      · cases hSeen
  | changeLockStatus now =>
      unfold lockEvent at hSeen
      dsimp only at hSeen
      split at hSeen
      · cases hSeen
        trivial
      · cases hSeen
  | peripheralDidUpdateName peripheral name =>
      cases hSeen
      exact rfl
  | _ =>
      cases hSeen
      try trivial

/-- In every run of a fresh application a device is connected, or on its way to be, only if
the last command it was sent is to connect: one that was locked stays locked until it is
unlocked again, whatever the radio does and whichever devices are selected in between. And a
device is told to let go only right after it was told to connect. -/
theorem locked_device_stays_locked {platform : Platform}
    {peripherals : CBPeripheral → PeripheralObject} {realm : RLMRealm}
    {central : CBCentralManager} {start app : Application}
    {history : History Application ApplicationEvent}
    (hLaunch : Application.launch peripherals realm central = .ok start)
    (hClosed : ∀ peripheral, (peripherals peripheral).link = .disconnected)
    (hFresh : central.commands = [])
    (run : Run (applicationStep platform) start history app) (peripheral : CBPeripheral) :
    ((app.world.peripherals peripheral).link.opens = true →
      (commandsTo app.world.central.commands peripheral).getLast? =
        some (.connectPeripheral peripheral)) ∧
    ∀ sent, sent ++ [.cancelPeripheralConnection peripheral] <+:
        commandsTo app.world.central.commands peripheral →
      sent.getLast? = some (.connectPeripheral peripheral) := by
  have hStart : start.lockScreen.world.Obeys := by
    change start.world.Obeys
    rw [Application.world_of_launch hLaunch]
    exact .start hFresh hClosed
  have hObeys : app.lockScreen.world.Obeys := by
    apply LockScreen.obeys_of_run (Application.lockRun_of_run hLaunch run)
      ⟨.empty, Application.refines_of_launch hLaunch⟩ hStart
    intro seen hMem
    obtain ⟨entry, _, hView, hSeen⟩ := mem_seenHistory.mp hMem
    rw [hView]
    exact Application.lockEvent_byTapsAndRadio hSeen
  exact ⟨hObeys.opened peripheral, hObeys.alternating peripheral⟩

theorem locked_front_door_stays_locked :
    ∃ start app, Application.launch freshWorld.peripherals freshWorld.realm
        freshWorld.central = .ok start ∧
      exec (applicationStep samplePlatform) start touchAndToggle = .ok app ∧
      (app.world.peripherals frontDoor).link.opens = false := by
  obtain ⟨start, app, hLaunch, hExec, hCommands⟩ :
      ∃ start app, Application.launch freshWorld.peripherals freshWorld.realm
          freshWorld.central = .ok start ∧
        exec (applicationStep samplePlatform) start touchAndToggle = .ok app ∧
        commandsTo app.world.central.commands frontDoor =
          [.connectPeripheral frontDoor, .cancelPeripheralConnection frontDoor] :=
    ⟨_, _, rfl, rfl, rfl⟩
  refine ⟨start, app, hLaunch, hExec, ?_⟩
  have hLast := (locked_device_stays_locked hLaunch (fun _ => rfl) rfl (run_of_exec hExec)
    frontDoor).1
  rw [hCommands] at hLast
  cases hOpens : (app.world.peripherals frontDoor).link.opens with
  | false => rfl
  | true => cases hLast hOpens

end LockJaw
