import LockJaw.App.Finality
import LockJaw.App.Keyring
import LockJaw.App.Sessions
import LockJaw.App.Touches

/-! The application refines the keyring. What the keyring keeps is read off the controller, the
peripheral objects and the store; a touch on a row takes the device, a tap on the lock turns
the key, a launch is a restart, and all else the application does is not seen. -/
namespace LockJaw

open Cocoa Semantics

/-- The keyring that a world stands for. -/
def World.keyring (world : World) : Keyring CBPeripheral where
  name := fun peripheral => (world.peripherals peripheral).name
  link := fun peripheral => (world.peripherals peripheral).link
  heard := {peripheral | world.Seen peripheral}
  owned := {peripheral | world.HasRecord peripheral}
  inHand := world.selectedPeripheral.toOption
  log := world.realm.history

/-- What a step of the lock's screen means to the keyring. -/
def LockScreen.keyringEvent (screen : LockScreen) :
    LockScreenEvent → Option (KeyringEvent CBPeripheral)
  | .changeLockStatus now => some (.turn now)
  | .radio peripheral answer => some (.answer peripheral answer)
  | .controller (.peripheralChanges peripheral name _) => some (.rename peripheral name)
  | .controller event =>
      ((screen.world.advertised event).map .hear).or ((screen.world.picked event).map .take)

/-- A method of the controller hears of a device, takes one, or means nothing. -/
theorem LockScreen.keyringEvent_controller {screen : LockScreen} {event : ControllerEvent}
    (hRename : ∀ peripheral name link, event ≠ .peripheralChanges peripheral name link) :
    screen.keyringEvent (.controller event) =
      ((screen.world.advertised event).map .hear).or
        ((screen.world.picked event).map .take) := by
  cases event with
  | peripheralChanges peripheral name link => exact absurd rfl (hRename peripheral name link)
  | _ => rfl

/-- No event of a session is a restart. -/
theorem LockScreen.inSession_of_keyringEvent {screen : LockScreen} {event : LockScreenEvent}
    {seen : KeyringEvent CBPeripheral} (hSeen : screen.keyringEvent event = some seen) :
    seen.inSession = some seen := by
  cases event with
  | changeLockStatus now =>
      cases hSeen
      rfl
  | radio peripheral answer =>
      cases hSeen
      rfl
  | controller event =>
      by_cases hRename : ∃ peripheral name link, event = .peripheralChanges peripheral name link
      · obtain ⟨peripheral, name, link, rfl⟩ := hRename
        cases hSeen
        rfl
      · push Not at hRename
        rw [keyringEvent_controller hRename, Option.or_eq_some_iff, Option.map_eq_some_iff,
          Option.map_eq_some_iff] at hSeen
        obtain ⟨peripheral, _, rfl⟩ | ⟨_, peripheral, _, rfl⟩ := hSeen
        · rfl
        · rfl

namespace World

section Updates
variable (world : World) (peripheral : CBPeripheral)

theorem keyring_setPeripheral (object : PeripheralObject) :
    (world.setPeripheral peripheral object).keyring = { world.keyring with
      name := Function.update world.keyring.name peripheral object.name
      link := Function.update world.keyring.link peripheral object.link } := by
  apply Keyring.ext
  · exact Function.comp_update PeripheralObject.name world.peripherals peripheral object
  · exact Function.comp_update PeripheralObject.link world.peripherals peripheral object
  · rfl
  · rfl
  · rfl
  · rfl

theorem keyring_setLink (link : Link) :
    (world.setLink peripheral link).keyring = world.keyring.setLink peripheral link := by
  have hName : Function.update world.keyring.name peripheral (world.peripherals peripheral).name =
      world.keyring.name := Function.update_eq_self peripheral world.keyring.name
  rw [setLink, keyring_setPeripheral, hName]
  rfl

/-- A change of the name, which leaves the link as it was. -/
theorem keyring_rename (name : Option String) :
    (world.setPeripheral peripheral { world.peripherals peripheral with name := name }).keyring =
      { world.keyring with name := Function.update world.keyring.name peripheral name } := by
  have hLink : Function.update world.keyring.link peripheral (world.peripherals peripheral).link =
      world.keyring.link := Function.update_eq_self peripheral world.keyring.link
  rw [keyring_setPeripheral, hLink]

/-- An answer of the radio is an answer on the keyring. -/
theorem keyring_radio (answer : RadioAnswer) :
    .ok (world.radio peripheral answer).keyring =
      world.keyring.step (.answer peripheral answer) := by
  have hRadio : (world.radio peripheral answer).keyring = world.keyring.setLink peripheral
      (((world.peripherals peripheral).link.answer answer).getD
        (world.peripherals peripheral).link) := by
    unfold radio
    split
    · rename_i hAnswer
      rw [hAnswer, ← keyring_setLink]
      simp [setLink, setPeripheral]
    · rename_i link hAnswer
      rw [hAnswer, ← keyring_setLink]
      cases answer <;> rfl
  rw [hRadio]
  rfl

/-- A record of the store is an entry of the log. -/
theorem keyring_addHistory (record : LKJHistory) :
    (world.addHistory record).keyring =
      { world.keyring with log := world.keyring.log ++ [record] } := rfl

/-- To toggle a device is to turn its key. -/
theorem keyring_toggled (now : NSDate) :
    (world.toggled peripheral now).keyring = world.keyring.turnIn peripheral now := by
  unfold toggled Keyring.turnIn
  have hLink : world.keyring.link peripheral = (world.peripherals peripheral).link := rfl
  rw [hLink, state]
  cases hState : (world.peripherals peripheral).link with
  | connected =>
      dsimp only [Link.state]
      rw [keyring_addHistory, cancelPeripheralConnection, keyring_setLink, hState]
      rfl
  | disconnected =>
      dsimp only [Link.state]
      rw [keyring_addHistory, connectPeripheral, keyring_setLink, hState]
      rfl
  | connecting => rfl
  | disconnecting attemptWaits => rfl

end Updates

section Steps
variable {world after : World} {roster : Roster CBPeripheral}

/-- What is in hand is the selected device. -/
theorem keyring_inHand (hRefines : Refines world roster) :
    world.keyring.inHand = roster.selected := by
  have hSelection := hRefines.selection
  cases hSelected : roster.selected with
  | none =>
      rw [hSelected] at hSelection
      have hIndex : world.controller.selectedBluetoothDeviceIndex = .position (-1) := hSelection
      show world.selectedPeripheral.toOption = none
      rw [selectedPeripheral, hIndex]
      simp [objectAtIndex, Except.toOption]
  | some peripheral =>
      rw [hSelected] at hSelection
      show world.selectedPeripheral.toOption = some peripheral
      rw [selectedPeripheral_eq_ok.mpr hSelection]
      rfl

/-- What a step of the controller hears of and picks, the keyring hears of and takes. -/
theorem keyring_sets {ledger : Ledger} (h : Agrees ledger world) {event : ControllerEvent}
    (hStep : world.step event = .ok after) :
    after.keyring.heard =
      {peripheral | peripheral ∈ world.advertised event} ∪ world.keyring.heard ∧
    after.keyring.owned =
      {peripheral | peripheral ∈ world.picked event} ∪ world.keyring.owned ∧
    after.keyring.inHand = (world.picked event).or world.keyring.inHand ∧
    after.keyring.log = world.keyring.log := by
  have hAfter := h.controllerStep hStep
  obtain ⟨roster, hRefines⟩ := h.wellFormed
  obtain ⟨next, hRosterStep, hNext⟩ := hRefines.step hStep
  refine ⟨?_, ?_, ?_, World.step_history hRefines hStep⟩
  · ext peripheral
    show after.Seen peripheral ↔ peripheral ∈ world.advertised event ∨ world.Seen peripheral
    rw [hAfter.seen_advertised, h.seen_advertised, List.mem_append, Option.mem_toList, or_comm,
      Option.mem_def]
  · ext peripheral
    show after.HasRecord peripheral ↔ peripheral ∈ world.picked event ∨ world.HasRecord peripheral
    rw [hAfter.recorded, h.recorded, List.mem_append, Option.mem_toList, ← or_assoc, or_comm,
      Option.mem_def]
  · rw [keyring_inHand hNext, keyring_inHand hRefines]
    exact hRosterStep.selected_eq

end Steps

end World

namespace Agrees

section Steps
variable {screen after : LockScreen} {world : World} {ledger : Ledger}

/-- The steps of the controller, a change of a name apart. -/
theorem keyring_controllerStep (h : Agrees ledger screen.world) {event : ControllerEvent}
    (hScope : (LockScreenEvent.controller event).ByTapsAndRadio screen)
    (hStep : screen.world.step event = .ok world)
    (hRename : ∀ peripheral name link, event ≠ .peripheralChanges peripheral name link) :
    world.keyring = { screen.world.keyring with
      heard := {peripheral | peripheral ∈ screen.world.advertised event} ∪
        screen.world.keyring.heard
      owned := {peripheral | peripheral ∈ screen.world.picked event} ∪ screen.world.keyring.owned
      inHand := (screen.world.picked event).or screen.world.keyring.inHand } := by
  obtain ⟨hHeard, hOwned, hInHand, hLog⟩ := World.keyring_sets h hStep
  apply Keyring.ext
  · funext peripheral
    by_cases hDiscovery : ∃ other now, event = .didDiscoverPeripheral other now
    · obtain ⟨other, now, rfl⟩ := hDiscovery
      cases hStep
      exact World.didDiscoverPeripheral_name screen.world other now peripheral
    · push Not at hDiscovery
      have hLock : event ≠ .lockDevice := by
        rintro rfl
        exact hScope
      have hUnlock : event ≠ .unlockDevice := by
        rintro rfl
        exact hScope
      show (world.peripherals peripheral).name = _
      rw [World.step_peripherals hStep hDiscovery hLock hUnlock hRename]
      rfl
  · funext peripheral
    exact World.step_link hStep hScope peripheral
  · exact hHeard
  · exact hOwned
  · exact hInHand
  · exact hLog

/-- A step of the lock's screen is the labelled step of the keyring, or is not seen. -/
theorem keyring_step (h : Agrees ledger screen.world) {seen : LockScreenEvent}
    (hScope : seen.ByTapsAndRadio screen) (hStep : lockScreenStep screen seen = .ok after) :
    match screen.keyringEvent seen with
    | some event => screen.world.keyring.step event = .ok after.world.keyring
    | none => after.world.keyring = screen.world.keyring := by
  obtain ⟨roster, hRefines⟩ := h.wellFormed
  cases seen with
  | changeLockStatus now =>
      have hSelection := hRefines.selection
      have hTap : screen.changeLockStatus now = .ok after := hStep
      show Except.ok (screen.world.keyring.turn now) = _
      rw [Keyring.turn, World.keyring_inHand hRefines]
      cases hSelected : roster.selected with
      | none =>
          rw [hSelected] at hSelection
          rw [LockScreen.changeLockStatus_of_ineligible now
            (LockScreen.ineligible_of_no_selection hSelection)] at hTap
          cases hTap
          rfl
      | some peripheral =>
          rw [hSelected] at hSelection
          obtain ⟨tapped, hTapped, hWorld⟩ :=
            LockScreen.changeLockStatus_toggles now hSelection
          obtain rfl : after = tapped := Except.ok.inj (hTap.symm.trans hTapped)
          rw [hWorld, World.keyring_toggled]
  | radio peripheral answer =>
      cases hStep
      exact (screen.world.keyring_radio peripheral answer).symm
  | controller event =>
      obtain ⟨world, hWorld, hAfter⟩ := bind_eq_ok.mp hStep
      cases hAfter
      by_cases hRename : ∃ peripheral name link, event = .peripheralChanges peripheral name link
      · obtain ⟨peripheral, name, link, rfl⟩ := hRename
        cases hWorld
        obtain rfl : link = (screen.world.peripherals peripheral).link := hScope
        exact congrArg Except.ok (screen.world.keyring_rename peripheral name).symm
      push Not at hRename
      have hKeyring := h.keyring_controllerStep hScope hWorld hRename
      obtain ⟨next, hRosterStep, _⟩ := hRefines.step hWorld
      rw [LockScreen.keyringEvent_controller hRename]
      cases hAdvertised : screen.world.advertised event with
      | some peripheral =>
          obtain ⟨hName, hPicked⟩ := World.named_of_advertised hAdvertised
          show screen.world.keyring.step (.hear peripheral) = .ok world.keyring
          rw [Keyring.step_hear hName, hKeyring, hAdvertised, hPicked]
          simp [Set.singleton_union]
      | none =>
          cases hPicked : screen.world.picked event with
          | some peripheral =>
              rw [hPicked] at hRosterStep
              have hSeen := (hRefines.seen peripheral).mpr hRosterStep.picked_seen
              show screen.world.keyring.step (.take peripheral) = .ok world.keyring
              rw [Keyring.step_take hSeen, hKeyring, hAdvertised, hPicked]
              simp [Set.singleton_union]
          | none =>
              show world.keyring = screen.world.keyring
              rw [hKeyring, hAdvertised, hPicked]
              simp

end Steps

end Agrees

namespace Application

/-- What an event of the application means to the keyring. -/
def keyringEvent (app : Application) (event : ApplicationEvent) :
    Option (KeyringEvent CBPeripheral) :=
  (app.lockEvent event).bind app.lockScreen.keyringEvent

def keyringEvents (history : History Application ApplicationEvent) :
    List (KeyringEvent CBPeripheral) :=
  history.filterMap fun entry => entry.1.keyringEvent entry.2

section Steps
variable {platform : Platform} {app after : Application} {event : ApplicationEvent}

/-- A step of the application is the step of the keyring that it means, or none. -/
theorem keyring_step {ledger : Ledger} (h : Agrees ledger app.world)
    (hAssembled : app.Assembled) (hStep : applicationStep platform app event = .ok after) :
    match app.keyringEvent event with
    | some seen => app.world.keyring.step seen = .ok after.world.keyring
    | none => after.world.keyring = app.world.keyring := by
  have hTakes := applicationStep_takes hAssembled hStep
  cases hLabel : app.lockEvent event with
  | none =>
      have hWorld := hTakes.silent_world hLabel
      rw [keyringEvent, hLabel, hWorld]
      rfl
  | some seen =>
      have hScreen : Agrees ledger app.lockScreen.world := h
      rw [keyringEvent, hLabel]
      exact hScreen.keyring_step (lockEvent_byTapsAndRadio hLabel) (hTakes.labelled hLabel)

/-- The application simulates the keyring. -/
theorem simulates_keyring (platform : Platform) :
    Simulates (applicationStep platform) Keyring.step (fun app => app.world.keyring)
      keyringEvent fun app => app.Assembled ∧ ∃ ledger, Agrees ledger app.world where
  preserved := by
    rintro state action after ⟨hAssembled, ledger, hAgrees⟩ hStep
    exact ⟨hAssembled.step hStep, _, step_agrees hAgrees hAssembled hStep⟩
  labelled := by
    rintro state action after seen ⟨hAssembled, ledger, hAgrees⟩ hStep hSeen
    have hKeyring := keyring_step hAgrees hAssembled hStep
    rwa [hSeen] at hKeyring
  silent := by
    rintro state action after ⟨hAssembled, ledger, hAgrees⟩ hStep hNone
    have hKeyring := keyring_step hAgrees hAssembled hStep
    rwa [hNone] at hKeyring

/-- No event of the application restarts the keyring; a launch does. -/
theorem inSession_of_keyringEvent {seen : KeyringEvent CBPeripheral}
    (hSeen : app.keyringEvent event = some seen) : seen.inSession = some seen := by
  obtain ⟨screenEvent, _, hScreen⟩ := Option.bind_eq_some_iff.mp hSeen
  exact LockScreen.inSession_of_keyringEvent hScreen

end Steps

/-- A launch, as the keyring sees it. -/
def restartOf (peripherals : CBPeripheral → PeripheralObject) : KeyringEvent CBPeripheral :=
  .restart (fun peripheral => (peripherals peripheral).name)
    fun peripheral => (peripherals peripheral).link

section Sessions
variable {platform : Platform} {past history : History Application ApplicationEvent}
  {realm : RLMRealm} {peripherals : CBPeripheral → PeripheralObject}
  {central : CBCentralManager} {start app : Application}

/-- The keyring sees what the application means. -/
theorem sessionEvents_seenHistory (history : History Application ApplicationEvent) :
    Keyring.sessionEvents
        (seenHistory (fun app => app.world.keyring) keyringEvent history) =
      keyringEvents history := by
  rw [Keyring.sessionEvents, seenHistory, List.filterMap_filterMap]
  apply List.filterMap_congr
  intro entry _
  cases hSeen : entry.1.keyringEvent entry.2 with
  | none => rfl
  | some seen => exact inSession_of_keyringEvent hSeen

/-- A keyring that keeps what the store keeps, over its whole history. -/
structure Keeps (past : History Application ApplicationEvent) (realm : RLMRealm)
    (trace : History (Keyring CBPeripheral) (KeyringEvent CBPeripheral))
    (keyring : Keyring CBPeripheral) : Prop where
  run : Run Keyring.step .new trace keyring
  events : Keyring.sessionEvents trace = keyringEvents past
  owned : keyring.owned = {peripheral | ∃ object ∈ realm.peripherals,
    object.uuid = some peripheral.identifier.UUIDString}
  log : keyring.log = realm.history

/-- A new installation keeps an empty keyring. -/
theorem Keeps.installed : Keeps [] { peripherals := [], history := [] } [] .new where
  run := .nil
  events := rfl
  owned := by simp [Keyring.new]
  log := rfl

section Launch
variable {trace : History (Keyring CBPeripheral) (KeyringEvent CBPeripheral)}
  {keyring : Keyring CBPeripheral}

/-- A launch on the store is a restart. -/
theorem Keeps.restart (h : Keeps past realm trace keyring)
    (hLaunch : launch peripherals realm central = .ok start) :
    keyring.step (restartOf peripherals) = .ok start.world.keyring := by
  rw [world_of_launch hLaunch]
  show Except.ok _ = _
  rw [h.owned, h.log]
  congr 1
  apply Keyring.ext
  · rfl
  · rfl
  · simp [World.keyring, World.Seen, LKJBluetoothController.init]
  · rfl
  · rfl
  · rfl

/-- The keyring goes through a session with the application. -/
theorem Keeps.session (h : Keeps past realm trace keyring) (hStored : Stored past realm)
    (hLaunch : launch peripherals realm central = .ok start)
    (run : Run (applicationStep platform) start history app) :
    Run Keyring.step keyring ((keyring, restartOf peripherals) ::
      seenHistory (fun app => app.world.keyring) keyringEvent history) app.world.keyring := by
  have hStart : start.Assembled ∧ ∃ ledger, Agrees ledger start.world :=
    ⟨assembled_of_launch hLaunch, _, hStored.agrees_of_launch hLaunch⟩
  have hRestart := Run.snoc .nil (h.restart hLaunch)
  exact hRestart.trans ((simulates_keyring platform).run run hStart)

/-- What a session left in the store is kept after it. -/
theorem Keeps.next (h : Keeps past realm trace keyring) (hStored : Stored past realm)
    (hLaunch : launch peripherals realm central = .ok start)
    (run : Run (applicationStep platform) start history app) :
    Keeps (past ++ history) app.world.realm (trace ++ (keyring, restartOf peripherals) ::
      seenHistory (fun app => app.world.keyring) keyringEvent history) app.world.keyring where
  run := h.run.trans (h.session hStored hLaunch run)
  events := by
    have hEvents := h.events
    have hSession := sessionEvents_seenHistory history
    unfold Keyring.sessionEvents keyringEvents at hEvents hSession ⊢
    rw [List.filterMap_append, List.filterMap_append, hEvents, ← hSession]
    rfl
  owned := rfl
  log := rfl

end Launch

/-- Whatever the sessions were, what they leave is what a keyring keeps. -/
theorem Sessions.keeps (h : Sessions platform past realm) :
    ∃ trace keyring, Keeps past realm trace keyring := by
  induction h with
  | installed => exact ⟨_, _, .installed⟩
  | next earlier hLaunch run ih =>
      obtain ⟨trace, keyring, hKeeps⟩ := ih
      exact ⟨_, _, hKeeps.next earlier.stored hLaunch run⟩

end Sessions

end Application

/-- With its screens, tables, queues and indices left out, every session of the application is
a run of a keyring: the keyring that the earlier sessions left is restarted, and then hears of,
takes, turns and logs exactly what the application does. Each of the keyring's rules is met at
every step, so what is in hand was heard of in this session and is owned. -/
theorem application_refines_keyring {platform : Platform}
    {past history : History Application ApplicationEvent} {realm : RLMRealm}
    (hSessions : Application.Sessions platform past realm)
    {peripherals : CBPeripheral → PeripheralObject} {central : CBCentralManager}
    {start app : Application}
    (hLaunch : Application.launch peripherals realm central = .ok start)
    (run : Run (applicationStep platform) start history app) :
    ∃ trace keyring, Run Keyring.step .new trace keyring ∧
      Keyring.sessionEvents trace = Application.keyringEvents past ∧
      Run Keyring.step keyring ((keyring, Application.restartOf peripherals) ::
        seenHistory (fun app => app.world.keyring) Application.keyringEvent history)
        app.world.keyring ∧
      app.world.keyring.Holds := by
  obtain ⟨trace, keyring, hKeeps⟩ := hSessions.keeps
  have hSession := hKeeps.session hSessions.stored hLaunch run
  exact ⟨trace, keyring, hKeeps.run, hKeeps.events, hSession,
    Keyring.holds_of_run (hKeeps.run.trans hSession)⟩

theorem application_refines_keyring_in_hand :
    ∃ start app, Application.launch freshWorld.peripherals freshWorld.realm
        freshWorld.central = .ok start ∧
      exec (applicationStep samplePlatform) start touchAndToggle = .ok app ∧
      Application.keyringEvents (historyOf (applicationStep samplePlatform) start touchAndToggle) =
        [.hear frontDoor, .take frontDoor, .turn ⟨200, 30⟩, .answer frontDoor .connects,
          .turn ⟨300, 31⟩] ∧
      frontDoor ∈ app.world.keyring.heard ∧ frontDoor ∈ app.world.keyring.owned := by
  obtain ⟨start, app, hLaunch, hExec, hEvents, hInHand⟩ :
      ∃ start app, Application.launch freshWorld.peripherals freshWorld.realm
          freshWorld.central = .ok start ∧
        exec (applicationStep samplePlatform) start touchAndToggle = .ok app ∧
        Application.keyringEvents
            (historyOf (applicationStep samplePlatform) start touchAndToggle) =
          [.hear frontDoor, .take frontDoor, .turn ⟨200, 30⟩, .answer frontDoor .connects,
            .turn ⟨300, 31⟩] ∧
        app.world.keyring.inHand = some frontDoor :=
    ⟨_, _, rfl, rfl, rfl, rfl⟩
  obtain ⟨_, _, _, _, _, hHolds⟩ := application_refines_keyring
    .installed hLaunch (run_of_exec hExec)
  exact ⟨start, app, hLaunch, hExec, hEvents, hHolds.heard frontDoor hInHand,
    hHolds.owned frontDoor hInHand⟩

end LockJaw
