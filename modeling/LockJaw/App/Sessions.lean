import LockJaw.App.Listing
import LockJaw.Bluetooth.Sessions

/-! The application over any number of launches. A session may stop in any state, and the
next launch finds the store and nothing else. The store knows every device that was ever
touched and logs every command that was ever sent. -/
namespace LockJaw

open Cocoa Semantics

/-- The device whose named advertisement a step is. -/
def LockScreen.advertised (screen : LockScreen) : LockScreenEvent → Option CBPeripheral
  | .controller event => screen.world.advertised event
  | _ => none

namespace Agrees

variable {ledger : Ledger} {world : World}

/-- A record of the history says nothing about devices. -/
theorem addHistory (h : Agrees ledger world) (record : LKJHistory) :
    Agrees ledger (world.addHistory record) := by
  obtain ⟨roster, hRefines⟩ := h.wellFormed
  exact ⟨⟨roster, hRefines.congr rfl⟩, h.recorded, h.uuid_nodup, h.known_recorded,
    h.discovered_unrecorded, h.current_known, h.seen_advertised⟩

/-- A step of the lock's screen enters what it picks and what it hears. -/
theorem screenStep {screen after : LockScreen} (h : Agrees ledger screen.world)
    {event : LockScreenEvent} (hStep : lockScreenStep screen event = .ok after) :
    Agrees { ledger with
      current := ledger.current ++ (screen.picked event).toList
      advertised := ledger.advertised ++ (screen.advertised event).toList } after.world := by
  cases event with
  | controller event =>
      obtain ⟨world, hWorld, hAfter⟩ := bind_eq_ok.mp hStep
      cases hAfter
      exact h.controllerStep hWorld
  | radio peripheral answer =>
      cases hStep
      have hSame : screen.world.SameDevices (screen.world.radio peripheral answer) :=
        ⟨World.radio_lists peripheral answer, World.radio_realm peripheral answer⟩
      simpa [LockScreen.picked, LockScreen.advertised] using h.sameDevices hSame
  | changeLockStatus now =>
      obtain ⟨roster, hRefines⟩ := h.wellFormed
      have hTap : screen.changeLockStatus now = .ok after := hStep
      have hAfter : Agrees ledger after.world := by
        obtain hWorld | ⟨peripheral, record, _, _, hWorld | hWorld⟩ :=
          LockScreen.changeLockStatus_world hRefines hTap
        · rw [hWorld]
          exact h
        · have hSame : screen.world.SameDevices
              (screen.world.cancelPeripheralConnection peripheral) := ⟨rfl, rfl⟩
          rw [hWorld]
          exact (h.sameDevices hSame).addHistory record
        · have hSame : screen.world.SameDevices
              (screen.world.connectPeripheral peripheral) := ⟨rfl, rfl⟩
          rw [hWorld]
          exact (h.sameDevices hSame).addHistory record
      simpa [LockScreen.picked, LockScreen.advertised] using hAfter

end Agrees

namespace Application

/-- The devices picked in a history, in their order. -/
def touched (history : History Application ApplicationEvent) : List CBPeripheral :=
  history.filterMap fun entry => entry.1.picked entry.2

/-- The devices with a named advertisement in a history. -/
def heard (history : History Application ApplicationEvent) : List CBPeripheral :=
  history.filterMap fun entry => entry.1.advertised entry.2

section Steps
variable {platform : Platform} {app after : Application} {event : ApplicationEvent}

/-- The application hears of what the lock's screen hears of. -/
theorem advertised_eq (app : Application) (event : ApplicationEvent) :
    app.advertised event = (app.lockEvent event).bind app.lockScreen.advertised := by
  cases event with
  | didSelectRow path =>
      unfold lockEvent
      dsimp only
      split
      · rfl
      · rfl
  | changeLockStatus now =>
      unfold lockEvent
      dsimp only
      split
      · rfl
      · rfl
  | _ => rfl

/-- A step keeps the store and the lists in agreement with what was heard and touched. -/
theorem step_agrees {ledger : Ledger} (h : Agrees ledger app.world) (hAssembled : app.Assembled)
    (hStep : applicationStep platform app event = .ok after) :
    Agrees { ledger with
      current := ledger.current ++ (app.picked event).toList
      advertised := ledger.advertised ++ (app.advertised event).toList } after.world := by
  have hTakes := applicationStep_takes hAssembled hStep
  cases hLabel : app.lockEvent event with
  | none =>
      have hWorld := hTakes.silent_world hLabel
      rw [picked, advertised_eq, hLabel, hWorld]
      simpa using h
  | some seen =>
      rw [picked, advertised_eq, hLabel]
      have hScreen : Agrees ledger app.lockScreen.world := h
      exact hScreen.screenStep (hTakes.labelled hLabel)

end Steps

/-- The sessions up to now, with their whole history, and the store they left. A step that
raises has not written to the store, so its session stops in the state before it. -/
inductive Sessions (platform : Platform) :
    History Application ApplicationEvent → RLMRealm → Prop where
  | installed : Sessions platform [] { peripherals := [], history := [] }
  | next {past : History Application ApplicationEvent} {realm : RLMRealm}
      (earlier : Sessions platform past realm) {peripherals : CBPeripheral → PeripheralObject}
      {central : CBCentralManager} {start app : Application}
      {history : History Application ApplicationEvent}
      (hLaunch : launch peripherals realm central = .ok start)
      (run : Run (applicationStep platform) start history app) :
      Sessions platform (past ++ history) app.world.realm

/-- What the store says of the devices touched and the commands sent. -/
structure Stored (past : History Application ApplicationEvent) (realm : RLMRealm) : Prop where
  uuid_nodup : (realm.peripherals.map LKJPeripheral.uuid).Nodup
  devices : ∀ peripheral : CBPeripheral,
    (∃ object ∈ realm.peripherals, object.uuid = some peripheral.identifier.UUIDString) ↔
      peripheral ∈ touched past
  commands : List.Forall₂ (fun record (sent : World × Command) =>
    record.Describes sent.1 sent.2) realm.history (tapCommands (lockHistory past))

section Launches
variable {platform : Platform} {past history : History Application ApplicationEvent}
  {peripherals : CBPeripheral → PeripheralObject} {realm : RLMRealm}
  {central : CBCentralManager} {start app : Application}

/-- A launch opens the ledger of its session. -/
theorem Stored.agrees_of_launch (h : Stored past realm)
    (hLaunch : launch peripherals realm central = .ok start) :
    Agrees ⟨touched past, [], []⟩ start.world := by
  rw [world_of_launch hLaunch]
  constructor
  · exact ⟨.empty, .init rfl⟩
  · intro peripheral
    simpa [World.HasRecord] using h.devices peripheral
  · exact h.uuid_nodup
  · simp [LKJBluetoothController.init]
  · simp [LKJBluetoothController.init]
  · simp
  · simp [World.Seen, LKJBluetoothController.init]

/-- So does a session, over a store that earlier ones left. -/
theorem Stored.agrees_of_run (h : Stored past realm)
    (hLaunch : launch peripherals realm central = .ok start)
    (run : Run (applicationStep platform) start history app) :
    Agrees ⟨touched past, touched history, heard history⟩ app.world := by
  apply run.induction fun history app =>
    Agrees ⟨touched past, touched history, heard history⟩ app.world
  · exact h.agrees_of_launch hLaunch
  · intro history state event after prior hState hStep
    have hReached := Reached.of_run hLaunch prior
    have hNext := step_agrees hState hReached.inStep.assembled hStep
    have hTouched : touched (history ++ [(state, event)]) =
        touched history ++ (state.picked event).toList := by
      rw [touched, List.filterMap_append, ← touched]
      cases hPicked : state.picked event <;> simp [hPicked]
    have hHeard : heard (history ++ [(state, event)]) =
        heard history ++ (state.advertised event).toList := by
      rw [heard, List.filterMap_append, ← heard]
      cases hAdvertised : state.advertised event <;> simp [hAdvertised]
    rw [hTouched, hHeard]
    exact hNext

/-- A session adds its touches and its commands to the store. -/
theorem Stored.run (h : Stored past realm)
    (hLaunch : launch peripherals realm central = .ok start)
    (run : Run (applicationStep platform) start history app) :
    Stored (past ++ history) app.world.realm := by
  have hAgrees := h.agrees_of_run hLaunch run
  have hLogged := logged_of_run hLaunch run
  obtain ⟨records, hRecords, hDescribes⟩ := hLogged.recorded.records
  constructor
  · exact hAgrees.uuid_nodup
  · intro peripheral
    rw [touched, List.filterMap_append, List.mem_append]
    exact hAgrees.recorded peripheral
  · change _ = start.world.realm.history ++ records at hRecords
    rw [world_of_launch hLaunch] at hRecords
    have hCommands : tapCommands (lockHistory (past ++ history)) =
        tapCommands (lockHistory past) ++ tapCommands (lockHistory history) := by
      simp [tapCommands, lockHistory, seenHistory]
    rw [hCommands]
    change app.world.realm.history = realm.history ++ records at hRecords
    rw [hRecords]
    exact List.rel_append h.commands hDescribes

/-- The store holds what the sessions have touched. -/
theorem Sessions.stored (h : Sessions platform past realm) : Stored past realm := by
  induction h with
  | installed => exact ⟨.nil, by simp [touched], .nil⟩
  | next _ hLaunch run ih => exact ih.run hLaunch run

end Launches

end Application

/-- After any number of sessions, each stopped in any state, the store has one record for
every device that was ever touched and none for another, and its history describes every
command that was ever sent, in order. -/
theorem store_outlives_sessions {platform : Platform}
    {past : History Application ApplicationEvent} {realm : RLMRealm}
    (hSessions : Application.Sessions platform past realm) :
    (∀ peripheral : CBPeripheral,
      realm.peripherals.countP
          (fun object => object.uuid = some peripheral.identifier.UUIDString) =
        if peripheral ∈ Application.touched past then 1 else 0) ∧
    List.Forall₂ (fun record (sent : World × Command) => record.Describes sent.1 sent.2)
      realm.history (tapCommands (Application.lockHistory past)) := by
  have hStored := hSessions.stored
  refine ⟨?_, hStored.commands⟩
  intro peripheral
  have hCount : realm.peripherals.countP
      (fun object => object.uuid = some peripheral.identifier.UUIDString) =
        (realm.peripherals.map LKJPeripheral.uuid).count
          (some peripheral.identifier.UUIDString) := by
    rw [List.count, List.countP_map]
    congr 1
    funext object
    exact Bool.eq_iff_iff.mpr (by simp)
  rw [hCount, hStored.uuid_nodup.count]
  exact if_congr (List.mem_map.trans (hStored.devices peripheral)) rfl rfl

theorem store_outlives_two_commands :
    ∃ start app, Application.launch freshWorld.peripherals freshWorld.realm
        freshWorld.central = .ok start ∧
      exec (applicationStep samplePlatform) start touchAndToggle = .ok app ∧
      app.world.realm.peripherals.countP
        (fun object => object.uuid = some frontDoor.identifier.UUIDString) = 1 := by
  obtain ⟨start, app, hLaunch, hExec, hTouched⟩ :
      ∃ start app, Application.launch freshWorld.peripherals freshWorld.realm
          freshWorld.central = .ok start ∧
        exec (applicationStep samplePlatform) start touchAndToggle = .ok app ∧
        Application.touched ([] ++
          historyOf (applicationStep samplePlatform) start touchAndToggle) = [frontDoor] :=
    ⟨_, _, rfl, rfl, rfl⟩
  have hSessions := Application.Sessions.installed.next hLaunch (run_of_exec hExec)
  refine ⟨start, app, hLaunch, hExec, ?_⟩
  rw [(store_outlives_sessions hSessions).1 frontDoor, hTouched, if_pos List.mem_cons_self]

/-- In every session the known devices are those heard of by name that were touched, in this
session or in an earlier one, and the discovered devices are those heard of that never were:
who was touched once comes back as known after any number of launches. -/
theorem touched_devices_come_back {platform : Platform}
    {past history : History Application ApplicationEvent} {realm : RLMRealm}
    (hSessions : Application.Sessions platform past realm)
    {peripherals : CBPeripheral → PeripheralObject} {central : CBCentralManager}
    {start app : Application}
    (hLaunch : Application.launch peripherals realm central = .ok start)
    (run : Run (applicationStep platform) start history app) (peripheral : CBPeripheral) :
    (peripheral ∈ app.world.controller.knownDevicesArray ↔
      peripheral ∈ Application.heard history ∧
        peripheral ∈ Application.touched (past ++ history)) ∧
    (peripheral ∈ app.world.controller.discoveredDevicesArray ↔
      peripheral ∈ Application.heard history ∧
        peripheral ∉ Application.touched (past ++ history)) := by
  have hAgrees := hSessions.stored.agrees_of_run hLaunch run
  have hCovered := (Application.Advertised.of_run hLaunch run).covered peripheral
  rw [hAgrees.seen_advertised, World.Listed] at hCovered
  have hTouched : app.world.HasRecord peripheral ↔
      peripheral ∈ Application.touched (past ++ history) := by
    rw [Application.touched, List.filterMap_append, List.mem_append]
    exact hAgrees.recorded peripheral
  rw [← hTouched, hCovered]
  constructor
  · constructor
    · exact fun hKnown => ⟨.inl hKnown, hAgrees.known_recorded peripheral hKnown⟩
    · rintro ⟨hKnown | hDiscovered, hRecord⟩
      · exact hKnown
      · exact absurd hRecord (hAgrees.discovered_unrecorded peripheral hDiscovered)
  · constructor
    · exact fun hDiscovered =>
        ⟨.inr hDiscovered, hAgrees.discovered_unrecorded peripheral hDiscovered⟩
    · rintro ⟨hKnown | hDiscovered, hNew⟩
      · exact absurd (hAgrees.known_recorded peripheral hKnown) hNew
      · exact hDiscovered

/-- Both doors are heard of again. -/
def hearBothDoors : List ApplicationEvent :=
  [.didDiscoverPeripheral frontDoor ⟨500, 40⟩, .didDiscoverPeripheral backDoor ⟨501, 41⟩]

theorem front_door_comes_back :
    ∃ start app again later, Application.launch freshWorld.peripherals freshWorld.realm
        freshWorld.central = .ok start ∧
      exec (applicationStep samplePlatform) start touchAndToggle = .ok app ∧
      Application.launch freshWorld.peripherals app.world.realm freshWorld.central =
        .ok again ∧
      exec (applicationStep samplePlatform) again hearBothDoors = .ok later ∧
      frontDoor ∈ later.world.controller.knownDevicesArray ∧
      backDoor ∈ later.world.controller.discoveredDevicesArray := by
  obtain ⟨start, app, again, later, hLaunch, hExec, hAgain, hLater, hTouched, hHeard⟩ :
      ∃ start app again later, Application.launch freshWorld.peripherals freshWorld.realm
          freshWorld.central = .ok start ∧
        exec (applicationStep samplePlatform) start touchAndToggle = .ok app ∧
        Application.launch freshWorld.peripherals app.world.realm freshWorld.central =
          .ok again ∧
        exec (applicationStep samplePlatform) again hearBothDoors = .ok later ∧
        Application.touched (([] ++
            historyOf (applicationStep samplePlatform) start touchAndToggle) ++
          historyOf (applicationStep samplePlatform) again hearBothDoors) = [frontDoor] ∧
        Application.heard (historyOf (applicationStep samplePlatform) again hearBothDoors) =
          [frontDoor, backDoor] :=
    ⟨_, _, _, _, rfl, rfl, rfl, rfl, rfl, rfl⟩
  have hSessions := Application.Sessions.installed.next hLaunch (run_of_exec hExec)
  have hFront := touched_devices_come_back hSessions hAgain (run_of_exec hLater) frontDoor
  have hBack := touched_devices_come_back hSessions hAgain (run_of_exec hLater) backDoor
  rw [hTouched, hHeard] at hFront hBack
  refine ⟨start, app, again, later, hLaunch, hExec, hAgain, hLater, ?_, ?_⟩
  · exact hFront.1.mpr ⟨List.mem_cons_self, List.mem_cons_self⟩
  · exact hBack.2.mpr ⟨by simp, by decide⟩

end LockJaw
