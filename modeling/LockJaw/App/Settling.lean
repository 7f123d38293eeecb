import LockJaw.App.Exceptions

/-! The queues run dry. A discovery travels over two queues before its row appears, and the
table draws rows meanwhile: UIKit fetches an inserted row's cell as soon as it can be seen.
Both queues can be worked off with any drawing in between, unless a discovery was on its way
when the screen appeared; its device is then counted twice, and the last row has none. -/
namespace LockJaw

open Cocoa Semantics

namespace ConnectionScreen

variable {screen : ConnectionScreen}

/-- A delivery uses up one block of the notification queue, and leaves the lists alone. -/
theorem PassFree.delivery_world (h : screen.PassFree) :
    screen.runNotificationBlock.world = { screen.world with
      controller.notificationQueue := screen.world.controller.notificationQueue.tail } := by
  rw [Application.runNotificationBlock_world]
  unfold World.runNotificationBlock
  split
  · rename_i hQueue
    rw [hQueue, List.tail_nil, ← hQueue]
  · rename_i posted rest hQueue
    rw [hQueue]
    rfl
  · rename_i rest hQueue
    have hBlock := h.queue (hQueue ▸ List.mem_cons_self)
    simp [discoveryBlocks] at hBlock

end ConnectionScreen

/-- The work of the two queues and of the table. -/
def ApplicationEvent.worksOff : ApplicationEvent → Bool
  | .runNotificationBlock | .runMainBlock | .drawConnectionRow _ => true
  | _ => false

/-- The work calls no method of the controller. -/
theorem ApplicationEvent.controllerEvent_of_worksOff (app : Application)
    {event : ApplicationEvent} (hWork : event.worksOff = true) :
    event.controllerEvent app = none := by
  cases event with
  | runNotificationBlock => rfl
  | runMainBlock => rfl
  | drawConnectionRow => rfl
  | _ => cases hWork

namespace Application

/-- A state that the queues lead to while the connection screen stays: the lists and the
excess of the rows are what they were. -/
structure Settles (app state : Application) : Prop where
  reached : ∃ history, Reached history state
  rows : state.RowsInStep
  shows : state.ShowsConnection
  known : state.world.controller.knownDevicesArray = app.world.controller.knownDevicesArray
  discovered : state.world.controller.discoveredDevicesArray =
    app.world.controller.discoveredDevicesArray
  excess : ∀ inSection, inSection = 0 ∨ inSection = 1 →
    state.tabs.connection.excess inSection = app.tabs.connection.excess inSection

namespace Settles

variable {platform : Platform} {app state after : Application} {event : ApplicationEvent}

/-- A step that leaves the screen and the lists alone. -/
theorem step (h : app.Settles state)
    (hStep : applicationStep platform state event = .ok after)
    (hShows : after.ShowsConnection)
    (hKnown : after.world.controller.knownDevicesArray =
      state.world.controller.knownDevicesArray)
    (hDiscovered : after.world.controller.discoveredDevicesArray =
      state.world.controller.discoveredDevicesArray) : app.Settles after := by
  obtain ⟨history, hReached⟩ := h.reached
  obtain ⟨roster, hRefines, _⟩ := hReached.roster
  have hTakes := applicationStep_takes hReached.inStep.assembled hStep
  have hMoves := hTakes.excess h.rows hReached.inStep h.shows hShows
  constructor
  · exact ⟨_, hReached.step hStep⟩
  · exact h.rows.takes hRefines hTakes
  · exact hShows
  · exact hKnown.trans h.known
  · exact hDiscovered.trans h.discovered
  · intro inSection hSection
    rw [← h.excess inSection hSection]
    rcases hSection with rfl | rfl
    · rw [hMoves.known, Int.sub_zero]
    · rw [hMoves.discovered, Int.add_zero]

/-- The work goes on. -/
theorem work (h : app.Settles state) (hWork : event.worksOff = true)
    (hStep : applicationStep platform state event = .ok after) : app.Settles after := by
  obtain ⟨history, hReached⟩ := h.reached
  cases applicationStep_takes hReached.inStep.assembled hStep with
  | idle => exact h
  | connectionDrawing => exact h.step hStep h.shows rfl rfl
  | controller _ _ _ hEvent =>
      rw [ApplicationEvent.controllerEvent_of_worksOff state hWork] at hEvent
      cases hEvent
  | delivery =>
      have hWorld := h.rows.free.delivery_world
      apply h.step hStep h.shows
      · rw [setConnection_world, hWorld]
        rfl
      · rw [setConnection_world, hWorld]
        rfl
  | mainBlock connection hBlock =>
      have hWorld : (state.setConnection connection).world = state.world :=
        (ConnectionScreen.runMainBlock_frame hBlock).1
      exact h.step hStep h.shows (by rw [hWorld]) (by rw [hWorld])
  | _ => cases hWork

/-- Where the appearance counted no device twice every row has its device. -/
theorem completes (h : app.Settles state) (platform : Platform)
    (hExact : ∀ inSection, inSection = 0 ∨ inSection = 1 →
      app.tabs.connection.excess inSection = 0)
    (hWork : event.worksOff = true) :
    ∃ after, applicationStep platform state event = .ok after := by
  cases event with
  | runNotificationBlock => exact ⟨_, applicationStep_runNotificationBlock platform state⟩
  | runMainBlock =>
      obtain ⟨connection, hBlock⟩ :=
        ConnectionScreen.runMainBlock_completes h.rows.free h.rows.table
      exact ⟨_, applicationStep_runMainBlock hBlock⟩
  | drawConnectionRow path =>
      apply drawConnectionRow_completes h.rows.table
      rintro ⟨_, hRow, hMissing⟩
      have hSection := h.rows.table.inSection hRow
      have hExcess := (h.excess path.inSection hSection).trans (hExact path.inSection hSection)
      have hPending := state.tabs.connection.pending_nonneg path.inSection
      rw [UITableView.hasRow, h.rows.table.rows, decide_eq_true_eq] at hRow
      unfold ConnectionScreen.excess ConnectionScreen.deviceRows at hExcess
      rw [if_neg (by omega)] at hExcess
      have hDevices : state.tabs.connection.world.numberOfDevicesInSection path.inSection =
          state.world.numberOfDevicesInSection path.inSection := rfl
      omega
  | _ => cases hWork

/-- A schedule of work that completes leads on. -/
theorem schedule (h : app.Settles state) {schedule : List ApplicationEvent}
    (hWork : ∀ event ∈ schedule, event.worksOff = true)
    (hExec : exec (applicationStep platform) state schedule = .ok after) :
    app.Settles after := by
  apply (run_of_exec hExec).invariant_of_permitted (fun _ event => event.worksOff = true)
    app.Settles h
  · intro state event after hState hEvent hStep
    exact hState.work hEvent hStep
  · intro entry hEntry
    exact hWork entry.2 (action_mem_of_mem_historyOf hEntry)

/-- Where the appearance counted no device twice every schedule of work completes. -/
theorem schedule_completes (h : app.Settles state) (platform : Platform)
    (hExact : ∀ inSection, inSection = 0 ∨ inSection = 1 →
      app.tabs.connection.excess inSection = 0)
    {schedule : List ApplicationEvent} (hWork : ∀ event ∈ schedule, event.worksOff = true) :
    ∃ after, exec (applicationStep platform) state schedule = .ok after := by
  have hStep : ∀ state event, app.Settles state → event.worksOff = true →
      ∃ after, applicationStep platform state event = .ok after ∧ app.Settles after := by
    intro state event hState hEvent
    obtain ⟨after, hAfter⟩ := hState.completes platform hExact hEvent
    exact ⟨after, hAfter, hState.work hEvent hAfter⟩
  obtain ⟨after, hAfter, _⟩ := exec_completes (ApplicationEvent.worksOff · = true) app.Settles
    hStep h hWork
  exact ⟨after, hAfter⟩

/-- A delivery uses up a notification. -/
theorem delivery (h : app.Settles state) (platform : Platform)
    (hQueue : state.world.controller.notificationQueue.length ≠ 0) :
    ∃ after, applicationStep platform state .runNotificationBlock = .ok after ∧
      app.Settles after ∧ state.world.controller.notificationQueue.length =
        after.world.controller.notificationQueue.length + 1 := by
  have hWorld := h.rows.free.delivery_world
  have hStep := applicationStep_runNotificationBlock platform state
  refine ⟨_, hStep, h.work rfl hStep, ?_⟩
  rw [setConnection_world, hWorld]
  change _ = state.world.controller.notificationQueue.tail.length + 1
  rw [List.length_tail]
  omega

/-- A block of the main queue uses up itself, and posts nothing. -/
theorem mainBlock (h : app.Settles state) (platform : Platform)
    (hQueue : state.tabs.connection.mainQueue.length ≠ 0) :
    ∃ after, applicationStep platform state .runMainBlock = .ok after ∧ app.Settles after ∧
      after.world = state.world ∧ state.tabs.connection.mainQueue.length =
        after.tabs.connection.mainQueue.length + 1 := by
  obtain ⟨connection, hBlock⟩ :=
    ConnectionScreen.runMainBlock_completes h.rows.free h.rows.table
  obtain ⟨hWorld, _, hRest⟩ := ConnectionScreen.runMainBlock_frame hBlock
  have hStep : applicationStep platform state .runMainBlock =
      .ok (state.setConnection connection) := applicationStep_runMainBlock hBlock
  refine ⟨_, hStep, h.work rfl hStep, hWorld, ?_⟩
  change _ = connection.mainQueue.length + 1
  rw [hRest, List.length_tail]
  omega

/-- First the one queue runs dry, then the other. -/
theorem drain (h : app.Settles state) (platform : Platform) :
    ∃ deliveries blocks settled, exec (applicationStep platform) state
        (List.replicate deliveries .runNotificationBlock ++
          List.replicate blocks .runMainBlock) = .ok settled ∧ app.Settles settled ∧
      settled.world.controller.notificationQueue = [] ∧
      settled.tabs.connection.mainQueue = [] := by
  obtain ⟨delivered, hDeliver, hDelivered, hPosted⟩ := exec_drains
    (fun state : Application => state.world.controller.notificationQueue.length) app.Settles
    (fun _ hState hQueue => hState.delivery platform hQueue) h
  have hBlock : ∀ state : Application, app.Settles state ∧
      state.world.controller.notificationQueue = [] →
      state.tabs.connection.mainQueue.length ≠ 0 → ∃ after,
        applicationStep platform state .runMainBlock = .ok after ∧
        (app.Settles after ∧ after.world.controller.notificationQueue = []) ∧
        state.tabs.connection.mainQueue.length =
          after.tabs.connection.mainQueue.length + 1 := by
    rintro state ⟨hState, hEmpty⟩ hQueue
    obtain ⟨after, hStep, hNext, hWorld, hLess⟩ := hState.mainBlock platform hQueue
    exact ⟨after, hStep, ⟨hNext, by rw [hWorld, hEmpty]⟩, hLess⟩
  obtain ⟨settled, hRun, ⟨hSettled, hEmpty⟩, hMain⟩ := exec_drains
    (fun state : Application => state.tabs.connection.mainQueue.length)
    (fun state => app.Settles state ∧ state.world.controller.notificationQueue = []) hBlock
    ⟨hDelivered, List.length_eq_zero_iff.mp hPosted⟩
  refine ⟨state.world.controller.notificationQueue.length,
    delivered.tabs.connection.mainQueue.length, settled, ?_, hSettled, hEmpty,
    List.length_eq_zero_iff.mp hMain⟩
  rw [exec_append _ hDeliver]
  exact hRun

/-- The sections have the devices that they had. -/
theorem numberOfDevices (h : app.Settles state) (inSection : Int) :
    state.world.numberOfDevicesInSection inSection =
      app.world.numberOfDevicesInSection inSection := by
  unfold World.numberOfDevicesInSection
  rw [h.known, h.discovered]

/-- Where nothing is on its way, the rows are the devices and what the appearance counted
twice. -/
theorem rows_of_empty (h : app.Settles state)
    (hQueue : state.world.controller.notificationQueue = [])
    (hMain : state.tabs.connection.mainQueue = []) {inSection : Int}
    (hSection : inSection = 0 ∨ inSection = 1) :
    ConnectionScreen.deviceRows (state.tabs.connection.numberOfRows inSection) =
      app.world.numberOfDevicesInSection inSection + app.tabs.connection.excess inSection := by
  have hDevices := h.numberOfDevices inSection
  have hPending : state.tabs.connection.pending inSection = 0 := by
    unfold ConnectionScreen.pending World.posted
    change (List.count _ state.world.controller.notificationQueue : Int) + _ = 0
    rw [hQueue, hMain]
    rfl
  have hSame := h.excess inSection hSection
  rw [ConnectionScreen.excess, hPending] at hSame
  change _ - state.world.numberOfDevicesInSection inSection = _ at hSame
  omega

/-- A row that counts a device twice has no device to draw. -/
theorem raises_of_excess (h : app.Settles state)
    (hQueue : state.world.controller.notificationQueue = [])
    (hMain : state.tabs.connection.mainQueue = []) {inSection : Int}
    (hSection : inSection = 0 ∨ inSection = 1)
    (hExcess : 0 < app.tabs.connection.excess inSection) :
    ∃ path, state.Raises (.drawConnectionRow path) := by
  have hRows := h.rows_of_empty hQueue hMain hSection
  have hDevices := h.numberOfDevices inSection
  have hCount := ConnectionScreen.numberOfDevicesInSection_nonneg app.world inSection
  have hEncoded : state.tabs.connection.numberOfRows inSection ≠ 0 := by
    intro hNone
    rw [ConnectionScreen.deviceRows, if_pos hNone] at hRows
    omega
  rw [ConnectionScreen.deviceRows, if_neg hEncoded] at hRows
  refine ⟨⟨state.tabs.connection.numberOfRows inSection - 1, inSection⟩, h.shows.1, ?_, ?_⟩
  · rw [UITableView.hasRow, h.rows.table.rows, decide_eq_true_eq]
    dsimp only
    omega
  · dsimp only
    omega

end Settles

section Since
variable {platform : Platform} {app shown seen : Application}
  {history before since other later between : History Application ApplicationEvent}

/-- An appearance that comes first is the last one. -/
theorem ShownSince.same_of_split (h : ShownSince history before shown since)
    (hLater : ShownSince history other seen later)
    (hSplit : (shown, .contentDidAppear) :: since =
      between ++ (seen, .contentDidAppear) :: later) : shown = seen := by
  cases between with
  | nil =>
      cases hSplit
      rfl
  | cons entry rest =>
      obtain ⟨_, hSince⟩ := List.cons.inj hSplit
      have hShows := h.stays (seen, .contentDidAppear) (by simp [hSince])
      have hAppearing := hLater.appearing.symm.trans hShows.2
      cases hAppearing

/-- There is one appearance since which the screen has been shown. -/
theorem ShownSince.unique (h : ShownSince history before shown since)
    (hOther : ShownSince history other seen later) : shown = seen := by
  have hSplit := h.split.symm.trans hOther.split
  rcases List.append_eq_append_iff.mp hSplit with ⟨between, _, hRest⟩ | ⟨between, _, hRest⟩
  · exact h.same_of_split hOther hRest
  · exact (hOther.same_of_split h hRest).symm

/-- What the rows exceed the lists by is what was on its way at the appearance. -/
theorem ShownSince.excess {peripherals : CBPeripheral → PeripheralObject} {realm : RLMRealm}
    {central : CBCentralManager} {start : Application} (h : ShownSince history before shown since)
    (hLaunch : launch peripherals realm central = .ok start)
    (run : Run (applicationStep platform) start history app) (hShows : app.ShowsConnection)
    {inSection : Int} (hSection : inSection = 0 ∨ inSection = 1) :
    app.tabs.connection.excess inSection = shown.tabs.connection.pending inSection := by
  obtain ⟨_, seen, _, hSeen, hExcess⟩ := excess_of_run hLaunch run hShows
  rw [h.unique hSeen]
  exact hExcess inSection hSection

/-- Nothing was on its way at the appearance exactly when the rows exceed no list. -/
theorem ShownSince.quiet_iff {peripherals : CBPeripheral → PeripheralObject} {realm : RLMRealm}
    {central : CBCentralManager} {start : Application} (h : ShownSince history before shown since)
    (hLaunch : launch peripherals realm central = .ok start)
    (run : Run (applicationStep platform) start history app) (hShows : app.ShowsConnection) :
    shown.tabs.connection.Quiet ↔ ∀ inSection, inSection = 0 ∨ inSection = 1 →
      app.tabs.connection.excess inSection = 0 := by
  obtain ⟨_, earlier, _, _⟩ := Run.split_cons (h.split ▸ run)
  have hFree := (rowsInStep_of_run hLaunch earlier).free
  rw [ConnectionScreen.quiet_iff hFree, ← h.excess hLaunch run hShows (.inl rfl),
    ← h.excess hLaunch run hShows (.inr rfl)]
  constructor
  · rintro ⟨hZero, hOne⟩ inSection (rfl | rfl)
    · exact hZero
    · exact hOne
  · intro hExact
    exact ⟨hExact 0 (.inl rfl), hExact 1 (.inr rfl)⟩

end Since

end Application

/-- From a state that shows the connection screen the two queues can be worked off in every
order, with every row of the table drawn at any time, without an exception exactly when no
discovery was on its way when the screen appeared. Then, wherever the work has got to, both
queues can be emptied; the screen is still shown, the lists are what they were, and each
section has a row for each of its devices and no other. -/
theorem connection_screen_settles {platform : Platform}
    {peripherals : CBPeripheral → PeripheralObject} {realm : RLMRealm}
    {central : CBCentralManager} {start app shown : Application}
    {history before since : History Application ApplicationEvent}
    (hLaunch : Application.launch peripherals realm central = .ok start)
    (run : Run (applicationStep platform) start history app) (hShows : app.ShowsConnection)
    (hSince : Application.ShownSince history before shown since) :
    ((∀ schedule, (∀ event ∈ schedule, event.worksOff = true) →
        ∃ after, exec (applicationStep platform) app schedule = .ok after) ↔
      shown.tabs.connection.Quiet) ∧
    (shown.tabs.connection.Quiet → ∀ schedule after,
      (∀ event ∈ schedule, event.worksOff = true) →
      exec (applicationStep platform) app schedule = .ok after →
      ∃ deliveries blocks settled, exec (applicationStep platform) after
          (List.replicate deliveries .runNotificationBlock ++
            List.replicate blocks .runMainBlock) = .ok settled ∧
        settled.world.controller.notificationQueue = [] ∧
        settled.tabs.connection.mainQueue = [] ∧
        settled.ShowsConnection ∧
        settled.world.controller.knownDevicesArray =
          app.world.controller.knownDevicesArray ∧
        settled.world.controller.discoveredDevicesArray =
          app.world.controller.discoveredDevicesArray ∧
        ∀ inSection, inSection = 0 ∨ inSection = 1 →
          ConnectionScreen.deviceRows (settled.tabs.connection.numberOfRows inSection) =
            app.world.numberOfDevicesInSection inSection) := by
  have hRows := Application.rowsInStep_of_run hLaunch run
  have hQuiet := hSince.quiet_iff hLaunch run hShows
  have hStart : app.Settles app :=
    ⟨⟨_, .of_run hLaunch run⟩, hRows, hShows, rfl, rfl, fun _ _ => rfl⟩
  rw [hQuiet]
  refine ⟨⟨?_, ?_⟩, ?_⟩
  · intro hCompletes inSection hSection
    by_contra hExcess
    have hPositive : 0 < app.tabs.connection.excess inSection := by
      have hPending := shown.tabs.connection.pending_nonneg inSection
      have hSame := hSince.excess hLaunch run hShows hSection
      omega
    -- once the queues are empty the last row of the section has no device to draw
    obtain ⟨deliveries, blocks, settled, hExec, hSettled, hPosted, hMain⟩ :=
      hStart.drain platform
    obtain ⟨path, hRaises⟩ := hSettled.raises_of_excess hPosted hMain hSection hPositive
    obtain ⟨after, hAll⟩ := hCompletes ((List.replicate deliveries .runNotificationBlock ++
      List.replicate blocks .runMainBlock) ++ [.drawConnectionRow path]) (by
        intro event hEvent
        simp only [List.mem_append, List.mem_replicate, List.mem_singleton] at hEvent
        rcases hEvent with (⟨_, rfl⟩ | ⟨_, rfl⟩) | rfl <;> rfl)
    rw [exec_append _ hExec, exec,
      Application.applicationStep_of_raises hSettled.rows.table hRaises] at hAll
    cases hAll
  · intro hExact schedule hWork
    exact hStart.schedule_completes platform hExact hWork
  · intro hExact schedule after hWork hExec
    obtain ⟨deliveries, blocks, settled, hDrain, hSettled, hPosted, hMain⟩ :=
      (hStart.schedule hWork hExec).drain platform
    refine ⟨deliveries, blocks, settled, hDrain, hPosted, hMain, hSettled.shows, hSettled.known,
      hSettled.discovered, ?_⟩
    intro inSection hSection
    rw [hSettled.rows_of_empty hPosted hMain hSection, hExact inSection hSection, Int.add_zero]

/-- Two devices are found, one before the screen appears and one after it. -/
def discoverAndDiscover : List ApplicationEvent :=
  [.didDiscoverPeripheral frontDoor ⟨100, 20⟩, .runNotificationBlock, .runMainBlock,
    .contentDidAppear, .didDiscoverPeripheral backDoor ⟨100, 21⟩]

theorem connection_screen_settles_with_both_doors :
    ∃ start app, Application.launch freshWorld.peripherals freshWorld.realm
        freshWorld.central = .ok start ∧
      exec (applicationStep samplePlatform) start discoverAndDiscover = .ok app ∧
      ∃ deliveries blocks settled, exec (applicationStep samplePlatform) app
          (List.replicate deliveries .runNotificationBlock ++
            List.replicate blocks .runMainBlock) = .ok settled ∧
        settled.tabs.connection.mainQueue = [] ∧
        settled.world.controller.discoveredDevicesArray = [frontDoor, backDoor] ∧
        ConnectionScreen.deviceRows (settled.tabs.connection.numberOfRows 1) = 2 := by
  obtain ⟨start, app, before, shown, since, hLaunch, hExec, hShows, hSince, hQuiet, hDevices⟩ :
      ∃ start app before shown since, Application.launch freshWorld.peripherals
          freshWorld.realm freshWorld.central = .ok start ∧
        exec (applicationStep samplePlatform) start discoverAndDiscover = .ok app ∧
        app.ShowsConnection ∧
        Application.ShownSince (historyOf (applicationStep samplePlatform) start
          discoverAndDiscover) before shown since ∧
        shown.tabs.connection.Quiet ∧
        app.world.controller.discoveredDevicesArray = [frontDoor, backDoor] := by
    refine ⟨_, _, [_, _, _], _, [_], rfl, rfl, ⟨rfl, rfl⟩, ⟨rfl, rfl, rfl, ?_⟩, ?_, rfl⟩
    · exact List.forall_mem_singleton.mpr ⟨rfl, rfl⟩
    · exact fun _ => ⟨List.not_mem_nil, List.not_mem_nil⟩
  obtain ⟨deliveries, blocks, settled, hDrain, _, hMain, _, _, hSame, hRows⟩ :=
    (connection_screen_settles hLaunch (run_of_exec hExec) hShows hSince).2 hQuiet [] app
      (List.forall_mem_nil _) rfl
  refine ⟨start, app, hLaunch, hExec, deliveries, blocks, settled, hDrain, hMain,
    hSame.trans hDevices, ?_⟩
  rw [hRows 1 (.inr rfl)]
  show (app.world.controller.discoveredDevicesArray.length : Int) = 2
  rw [hDevices]
  rfl

end LockJaw
