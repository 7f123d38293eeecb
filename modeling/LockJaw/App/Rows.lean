import LockJaw.App.Screens
import LockJaw.Connection.Batches

/-! The connection screen inside the application. A selection leaves the screen, so while
it stays no device moves between its sections: its rows keep what they owed to the lists
when it appeared, and no cell is outdated. -/
namespace LockJaw

open Cocoa Semantics

namespace World

theorem radio_counts (world : World) (peripheral : CBPeripheral) (answer : RadioAnswer) :
    Counts world (world.radio peripheral answer) 0 := by
  unfold radio
  split
  · exact .unchanged rfl rfl rfl
  · rename_i link _
    have hPost : ∀ block, block ∈ discoveryBlocks →
        (∀ inSection, block ≠ .post (.newBluetoothDeviceDiscovered inSection)) →
        Counts world ((world.setLink peripheral link).dispatchAsync block) 0 := by
      intro block hBlock hOther
      obtain ⟨hQueued, hKnown, hDiscovered⟩ :=
        @Counts.dispatchAsync (world.setLink peripheral link) block hBlock hOther
      exact ⟨hQueued, hKnown, hDiscovered⟩
    cases answer with
    | connects => exact hPost _ (by simp [discoveryBlocks]) (by simp)
    | failsToConnect => exact .unchanged rfl rfl rfl
    | disconnects => exact hPost _ (by simp [discoveryBlocks]) (by simp)

end World

/-- A tap on the lock touches neither the queue nor the lists. -/
theorem LockScreen.changeLockStatus_counts {screen after : LockScreen}
    {roster : Roster CBPeripheral} (hRefines : Refines screen.world roster) {now : NSDate}
    (hTap : screen.changeLockStatus now = .ok after) :
    World.Counts screen.world after.world 0 := by
  obtain hWorld | ⟨peripheral, record, _, _, hWorld | hWorld⟩ :=
    changeLockStatus_world hRefines hTap
  · rw [hWorld]
    exact .unchanged rfl rfl rfl
  · rw [hWorld]
    exact .unchanged rfl rfl rfl
  · rw [hWorld]
    exact .unchanged rfl rfl rfl

namespace Application

/-- The connection screen is the content and has appeared. -/
def ShowsConnection (app : Application) : Prop :=
  app.current = some .connectionViewController ∧ app.tabs.appearance = .appeared

/-- The table of the connection screen. While the screen is shown, every cell that has been
drawn tells the device at its row. -/
structure RowsInStep (app : Application) : Prop where
  free : app.tabs.connection.PassFree
  table : app.tabs.connection.TableInStep
  cells : app.ShowsConnection → ∀ (path : NSIndexPath) (n : Nat), path.row = n + 1 →
    ∃ status, status ≠ .outdated ∧ app.tabs.connection.CellTells path n status

section Steps
variable {platform : Platform} {app after : Application} {event : ApplicationEvent}
  {roster : Roster CBPeripheral}

theorem InStep.connection_appeared (h : app.InStep) (hShows : app.ShowsConnection) :
    app.tabs.connection.appearance = .appeared := by
  rw [h.connection, if_pos hShows.1]
  exact hShows.2

/-- A step of the connection screen that leaves the cells alone and at most appends to the
lists. -/
theorem RowsInStep.setConnection (h : app.RowsInStep) (hRefines : Refines app.world roster)
    {connection : ConnectionScreen} (hFree : connection.PassFree)
    (hTable : connection.TableInStep)
    (hLists : World.ListsChange app.world connection.world none)
    (hCells : connection.tableView.cells = app.tabs.connection.tableView.cells) :
    (app.setConnection connection).RowsInStep where
  free := hFree
  table := hTable
  cells := by
    intro hShows path n hPath
    obtain ⟨status, hFresh, hTells⟩ := h.cells hShows path n hPath
    refine ⟨status, hFresh, ?_⟩
    have hKept : connection.CellTells path n (status.afterTaking path none) :=
      hTells.lists hPath h.table (by rw [hCells]) hLists hRefines.wellFormed
    exact hKept

theorem RowsInStep.setWorld (h : app.RowsInStep) (hRefines : Refines app.world roster)
    {world : World} {moved : Int} (hCounts : World.Counts app.world world moved)
    (hLists : World.ListsChange app.world world none) : (app.setWorld world).RowsInStep :=
  h.setConnection hRefines (h.free.of_counts hCounts) ⟨h.table.rows, h.table.cells⟩ hLists rfl

/-- A tab that has just been chosen is not shown yet. -/
theorem RowsInStep.showTab {sender : Nat} (hFree : app.tabs.connection.PassFree)
    (hTable : app.tabs.connection.TableInStep) : (app.showTab sender).RowsInStep := by
  have hConnection := showTab_connection app sender
  constructor
  · rw [hConnection]
    exact ⟨hFree.queue, hFree.blocks, hFree.encoded⟩
  · rw [hConnection]
    exact ⟨hTable.rows, hTable.cells⟩
  · intro hShows
    exact absurd hShows.2 (showTab_not_appeared app sender)

/-- An appearance drops every cell. -/
theorem RowsInStep.contentDidAppear (h : app.RowsInStep) :
    (app.contentDidAppear platform).RowsInStep := by
  by_cases hAppearing : app.tabs.appearance = .appearing
  · have hConnection := @contentDidAppear_connection platform app hAppearing
    by_cases hCurrent : app.current = some .connectionViewController
    · rw [if_pos hCurrent] at hConnection
      constructor
      · rw [hConnection]
        exact h.free.viewDidAppear
      · rw [hConnection]
        exact ⟨rfl, nofun⟩
      · intro _ path n _
        rw [hConnection]
        exact ⟨.undrawn, by decide, rfl⟩
    · rw [if_neg hCurrent] at hConnection
      constructor
      · rw [hConnection]
        exact h.free
      · rw [hConnection]
        exact h.table
      · intro hShows
        rw [ShowsConnection, contentDidAppear_current] at hShows
        exact absurd hShows.1 hCurrent
  · have hTabs := contentDidAppear_tabs platform app
    rw [TabScreen.contentDidAppear_of_appeared hAppearing] at hTabs
    constructor
    · rw [hTabs]
      exact h.free
    · rw [hTabs]
      exact h.table
    · rw [hTabs]
      intro hShows
      apply h.cells
      rw [ShowsConnection, contentDidAppear_current, hTabs] at hShows
      exact hShows

/-- A cell is drawn with the device at its row. -/
theorem RowsInStep.drawCell (h : app.RowsInStep) {path : NSIndexPath} {cell : ConnectionCell}
    (hRow : app.tabs.connection.tableView.hasRow path = true)
    (hCell : app.tabs.connection.cellForRow path = .ok cell) :
    (app.setConnection { app.tabs.connection with
      tableView := app.tabs.connection.tableView.drawCell path cell }).RowsInStep where
  free := ⟨h.free.queue, h.free.blocks, h.free.encoded⟩
  table := by
    refine ⟨h.table.rows, ?_⟩
    intro other drawn hDrawn
    by_cases hSame : other = path
    · subst hSame
      exact hRow
    · have hOld : (app.tabs.connection.tableView.drawCell path cell).cells other =
          some drawn := hDrawn
      rw [UITableView.drawCell_cells_of_ne _ cell hSame] at hOld
      exact h.table.cells other drawn hOld
  cells := by
    intro hShows other n hPath
    by_cases hSame : other = path
    · subst hSame
      obtain ⟨peripheral, hGet, rfl⟩ :=
        (ConnectionScreen.cellForRow_eq_ok hPath (h.table.inSection hRow)).mp hCell
      exact ⟨.current, by decide, peripheral, UITableView.drawCell_cells_self _ _ _, hGet⟩
    · obtain ⟨status, hFresh, hTells⟩ := h.cells hShows other n hPath
      refine ⟨status, hFresh, ?_⟩
      have hCells := UITableView.drawCell_cells_of_ne app.tabs.connection.tableView cell hSame
      cases status with
      | undrawn => exact hCells.trans hTells
      | current =>
          obtain ⟨peripheral, hDrawn, hGet⟩ := hTells
          exact ⟨peripheral, hCells.trans hDrawn, hGet⟩
      | outdated => exact absurd rfl hFresh

/-- What CoreBluetooth asks of the controller takes no device out of a list. -/
theorem controllerEvent_takes_none {controllerEvent : ControllerEvent}
    (hEvent : event.controllerEvent app = some controllerEvent) :
    (∀ clock, controllerEvent ≠ .removeExpiredDevices clock) ∧
      controllerEvent ≠ .runNotificationBlock ∧ controllerEvent.takenIndex = none ∧
      controllerEvent.selectedSection = none := by
  cases event with
  | didDiscoverPeripheral =>
      cases hEvent
      exact ⟨nofun, nofun, rfl, rfl⟩
  | centralManagerDidUpdateState =>
      cases hEvent
      exact ⟨nofun, nofun, rfl, rfl⟩
  | peripheralDidUpdateName =>
      cases hEvent
      exact ⟨nofun, nofun, rfl, rfl⟩
  | _ => cases hEvent

theorem RowsInStep.takes (h : app.RowsInStep) (hRefines : Refines app.world roster)
    (hTakes : app.Takes platform event after) : after.RowsInStep := by
  cases hTakes with
  | idle => exact h
  | click sender => exact .showTab h.free h.table
  | selection path world transitions hCurrent hRow hWorld =>
      have hNext := h.free.of_counts (World.selectPeripheralAtIndex_counts hWorld)
      apply RowsInStep.showTab
      · exact ⟨hNext.queue, hNext.blocks, hNext.encoded⟩
      · exact ⟨h.table.rows, h.table.cells⟩
  | tap now screen hCurrent hVisible hScreen =>
      have hCounts := LockScreen.changeLockStatus_counts hRefines hScreen
      have hFree := h.free.of_counts hCounts
      refine ⟨⟨hFree.queue, hFree.blocks, hFree.encoded⟩, ⟨h.table.rows, h.table.cells⟩, ?_⟩
      intro hShows
      have hBoth : some ViewControllerClass.lockViewController =
          some .connectionViewController := hCurrent.symm.trans hShows.1
      cases hBoth
  | appearance => exact h.contentDidAppear
  | connectionDrawing path cell hCurrent hRow hCell => exact h.drawCell hRow hCell
  | historyDrawing path now cell => exact ⟨h.free, h.table, h.cells⟩
  | historyLoading => exact ⟨h.free, h.table, h.cells⟩
  | controller event controllerEvent world hEvent hWorld =>
      obtain ⟨hPass, hDelivery, hTaken, _⟩ := controllerEvent_takes_none hEvent
      have hLists := World.step_lists hRefines hWorld hPass
      rw [hTaken] at hLists
      exact h.setWorld hRefines (World.step_counts hWorld hPass hDelivery) hLists
  | radio peripheral answer =>
      exact h.setWorld hRefines (World.radio_counts app.world peripheral answer)
        (.unchanged (World.radio_lists peripheral answer))
  | delivery =>
      have hLists := @World.step_lists _ app.world.runNotificationBlock.2 roster hRefines
        .runNotificationBlock rfl nofun
      have hWorld := runNotificationBlock_world app.tabs.connection
      obtain ⟨mainQueue, hDelivered⟩ := h.free.runNotificationBlock_eq
      apply h.setConnection hRefines h.free.runNotificationBlock
      · rw [hDelivered]
        exact ⟨h.table.rows, h.table.cells⟩
      · rw [hWorld]
        exact hLists
      · rw [hDelivered]
  | mainBlock connection hBlock =>
      obtain ⟨hTable, hCells⟩ := h.table.runMainBlock h.free hBlock
      have hWorld := (ConnectionScreen.runMainBlock_frame hBlock).1
      apply h.setConnection hRefines (h.free.runMainBlock hBlock) hTable
      · rw [hWorld]
        exact .unchanged rfl
      · exact hCells

/-- While the screen stays, no step changes what the rows of a section exceed its list
by. -/
theorem Takes.excess (hTakes : app.Takes platform event after) (h : app.RowsInStep)
    (hInStep : app.InStep) (hShows : app.ShowsConnection) (hStays : after.ShowsConnection) :
    ConnectionScreen.Moves app.tabs.connection after.tabs.connection 0 := by
  cases hTakes with
  | idle => exact .unchanged fun _ => rfl
  | click sender => exact absurd hStays.2 (showTab_not_appeared app sender)
  | selection path world transitions => exact absurd hStays.2 (showTab_not_appeared _ 0)
  | tap now screen hCurrent =>
      have hBoth := hCurrent.symm.trans hShows.1
      cases hBoth
  | appearance =>
      have hAppeared : app.tabs.appearance ≠ .appearing := by
        rw [hShows.2]
        exact Appearance.noConfusion
      rw [contentDidAppear_tabs, TabScreen.contentDidAppear_of_appeared hAppeared]
      exact .unchanged fun _ => rfl
  | connectionDrawing path cell => exact .unchanged fun _ => rfl
  | historyDrawing path now cell => exact .unchanged fun _ => rfl
  | historyLoading => exact .unchanged fun _ => rfl
  | controller event controllerEvent world hEvent hWorld =>
      obtain ⟨hPass, hDelivery, _, hSection⟩ := controllerEvent_takes_none hEvent
      have hCounts := World.step_counts hWorld hPass hDelivery
      rw [hSection] at hCounts
      exact .of_counts hCounts app.tabs.connection.transitions
  | radio peripheral answer =>
      exact .of_counts (World.radio_counts app.world peripheral answer)
        app.tabs.connection.transitions
  | delivery => exact .runNotificationBlock h.free (hInStep.connection_appeared hShows)
  | mainBlock connection hBlock => exact .runMainBlock h.free hBlock

/-- The connection screen is shown by an appearance alone. -/
theorem Takes.shown_before (hTakes : app.Takes platform event after)
    (hShows : after.ShowsConnection) :
    app.ShowsConnection ∨ event = .contentDidAppear ∧ app.tabs.appearance = .appearing ∧
      app.current = some .connectionViewController ∧
      after = app.contentDidAppear platform := by
  cases hTakes with
  | idle => exact .inl hShows
  | click sender => exact absurd hShows.2 (showTab_not_appeared app sender)
  | selection path world transitions => exact absurd hShows.2 (showTab_not_appeared _ 0)
  | tap => exact .inl hShows
  | appearance =>
      have hCurrent : app.current = some .connectionViewController := by
        rw [← contentDidAppear_current platform app]
        exact hShows.1
      by_cases hAppearing : app.tabs.appearance = .appearing
      · exact .inr ⟨rfl, hAppearing, hCurrent, rfl⟩
      · have hAppeared := hShows.2
        rw [contentDidAppear_tabs, TabScreen.contentDidAppear_of_appeared hAppearing] at hAppeared
        exact .inl ⟨hCurrent, hAppeared⟩
  | connectionDrawing => exact .inl hShows
  | historyDrawing => exact .inl hShows
  | historyLoading => exact .inl hShows
  | controller => exact .inl hShows
  | radio => exact .inl hShows
  | delivery => exact .inl hShows
  | mainBlock => exact .inl hShows

/-- At an appearance the rows exceed the lists by what is still on its way. -/
theorem excess_contentDidAppear (hAppearing : app.tabs.appearance = .appearing)
    (hCurrent : app.current = some .connectionViewController) (inSection : Int)
    (hSection : inSection = 0 ∨ inSection = 1) :
    (app.contentDidAppear platform).tabs.connection.excess inSection =
      app.tabs.connection.pending inSection := by
  rw [contentDidAppear_connection hAppearing, if_pos hCurrent]
  have hRecount := ConnectionScreen.deviceRows_recount app.world inSection
  have hRows : app.tabs.connection.viewDidAppear.numberOfRows inSection =
      ConnectionScreen.recount app.world inSection := by
    rcases hSection with rfl | rfl
    · rfl
    · rfl
  rw [ConnectionScreen.excess, hRows, hRecount]
  change app.world.numberOfDevicesInSection inSection + app.tabs.connection.pending inSection -
    app.world.numberOfDevicesInSection inSection = _
  omega

end Steps

section Launch
variable {platform : Platform} {peripherals : CBPeripheral → PeripheralObject}
  {realm : RLMRealm} {central : CBCentralManager} {start app : Application}
  {history : History Application ApplicationEvent}

theorem rowsInStep_of_launch (hLaunch : launch peripherals realm central = .ok app) :
    app.RowsInStep := by
  have hLoaded : CellsTell [] (.viewDidLoad ⟨.init, peripherals, realm, central⟩ true) :=
    .start rfl
  rw [launch_eq] at hLaunch
  cases hLaunch
  exact .showTab hLoaded.free hLoaded.table

theorem rowsInStep_of_run (hLaunch : launch peripherals realm central = .ok start)
    (run : Run (applicationStep platform) start history app) : app.RowsInStep := by
  apply run.induction (fun _ state => state.RowsInStep) (rowsInStep_of_launch hLaunch)
  intro _ state event after prior hState hStep
  have hReached := Reached.of_run hLaunch prior
  obtain ⟨roster, hRefines, _⟩ := hReached.roster
  exact hState.takes hRefines (applicationStep_takes hReached.inStep.assembled hStep)

end Launch

/-- The appearance since which the connection screen has been shown. -/
structure ShownSince (history before : History Application ApplicationEvent)
    (shown : Application) (since : History Application ApplicationEvent) : Prop where
  split : history = before ++ (shown, .contentDidAppear) :: since
  appearing : shown.tabs.appearance = .appearing
  current : shown.current = some .connectionViewController
  stays : ∀ entry ∈ since, entry.1.ShowsConnection

/-- The rows of a section are its devices, once what is on its way has arrived, and those
that were on their way when the screen appeared. -/
def RowsAccountFor (app shown : Application) (inSection : Int) : Prop :=
  ConnectionScreen.deviceRows (app.tabs.connection.numberOfRows inSection) +
      app.tabs.connection.pending inSection =
    app.world.numberOfDevicesInSection inSection + shown.tabs.connection.pending inSection

theorem rowsAccountFor_iff {app shown : Application} {inSection : Int} :
    app.RowsAccountFor shown inSection ↔
      app.tabs.connection.excess inSection = shown.tabs.connection.pending inSection := by
  unfold RowsAccountFor ConnectionScreen.excess
  change _ = app.tabs.connection.world.numberOfDevicesInSection inSection + _ ↔ _
  constructor
  · intro h
    omega
  · intro h
    omega

section Accounts
variable {platform : Platform} {peripherals : CBPeripheral → PeripheralObject}
  {realm : RLMRealm} {central : CBCentralManager} {start app : Application}
  {history : History Application ApplicationEvent}

/-- The rows exceed the lists by what was on its way at the appearance. -/
theorem excess_of_run (hLaunch : launch peripherals realm central = .ok start)
    (run : Run (applicationStep platform) start history app) (hShows : app.ShowsConnection) :
    ∃ before shown since, ShownSince history before shown since ∧
      ∀ inSection, inSection = 0 ∨ inSection = 1 →
        app.tabs.connection.excess inSection = shown.tabs.connection.pending inSection := by
  induction run with
  | nil =>
      rw [launch_eq] at hLaunch
      cases hLaunch
      exact absurd hShows.2 (showTab_not_appeared _ 1)
  | @snoc history state after event prior last ih =>
      have hReached := Reached.of_run hLaunch prior
      have hRows := rowsInStep_of_run hLaunch prior
      have hTakes := applicationStep_takes hReached.inStep.assembled last
      rcases hTakes.shown_before hShows with hState | ⟨rfl, hAppearing, hCurrent, rfl⟩
      · obtain ⟨before, shown, since, hSince, hExcess⟩ := ih hState
        have hMoves := hTakes.excess hRows hReached.inStep hState hShows
        refine ⟨before, shown, since ++ [(state, event)],
          ⟨by simp [hSince.split], hSince.appearing, hSince.current, ?_⟩, ?_⟩
        · intro entry hEntry
          rcases List.mem_append.mp hEntry with hEntry | hEntry
          · exact hSince.stays entry hEntry
          · rw [List.mem_singleton.mp hEntry]
            exact hState
        · intro inSection hSection
          have hPrior := hExcess inSection hSection
          rcases hSection with rfl | rfl
          · rw [hMoves.known, hPrior, Int.sub_zero]
          · rw [hMoves.discovered, hPrior, Int.add_zero]
      · refine ⟨history, state, [], ⟨rfl, hAppearing, hCurrent, by simp⟩, ?_⟩
        intro inSection hSection
        exact excess_contentDidAppear hAppearing hCurrent inSection hSection

end Accounts

end Application

/-- In every state that shows the connection screen there was an appearance since which it
has been shown without a break, and each section has a row for each of its devices and one
more for each discovery that was on its way at that appearance. -/
theorem rows_account_since_appearance {platform : Platform}
    {peripherals : CBPeripheral → PeripheralObject} {realm : RLMRealm}
    {central : CBCentralManager} {start app : Application}
    {history : History Application ApplicationEvent}
    (hLaunch : Application.launch peripherals realm central = .ok start)
    (run : Run (applicationStep platform) start history app) (hShows : app.ShowsConnection) :
    ∃ before shown since, Application.ShownSince history before shown since ∧
      ∀ inSection, inSection = 0 ∨ inSection = 1 → app.RowsAccountFor shown inSection := by
  obtain ⟨before, shown, since, hSince, hExcess⟩ :=
    Application.excess_of_run hLaunch run hShows
  refine ⟨before, shown, since, hSince, ?_⟩
  intro inSection hSection
  exact Application.rowsAccountFor_iff.mpr (hExcess inSection hSection)

/-- A device is delivered while the screen appears, another one once it is shown. -/
def discoverAroundAppearance : List ApplicationEvent :=
  [.didDiscoverPeripheral frontDoor ⟨100, 20⟩, .contentDidAppear,
    .didDiscoverPeripheral backDoor ⟨100, 21⟩, .runNotificationBlock, .runMainBlock]

theorem rows_account_around_appearance :
    ∃ start app, Application.launch freshWorld.peripherals freshWorld.realm
        freshWorld.central = .ok start ∧
      exec (applicationStep samplePlatform) start discoverAroundAppearance = .ok app ∧
      app.tabs.connection.numberOfRows 1 = 3 ∧ app.tabs.connection.pending 1 = 1 ∧
      app.world.numberOfDevicesInSection 1 = 2 ∧
      ∃ before shown since, Application.ShownSince
          (historyOf (applicationStep samplePlatform) start discoverAroundAppearance)
          before shown since ∧
        shown.tabs.connection.pending 1 = 1 := by
  obtain ⟨start, app, hLaunch, hExec, hShows, hRows, hPending, hDevices⟩ :
      ∃ start app, Application.launch freshWorld.peripherals freshWorld.realm
          freshWorld.central = .ok start ∧
        exec (applicationStep samplePlatform) start discoverAroundAppearance = .ok app ∧
        app.ShowsConnection ∧ app.tabs.connection.numberOfRows 1 = 3 ∧
        app.tabs.connection.pending 1 = 1 ∧ app.world.numberOfDevicesInSection 1 = 2 :=
    ⟨_, _, rfl, rfl, ⟨rfl, rfl⟩, rfl, rfl, rfl⟩
  obtain ⟨before, shown, since, hSince, hAccount⟩ :=
    rows_account_since_appearance hLaunch (run_of_exec hExec) hShows
  refine ⟨start, app, hLaunch, hExec, hRows, hPending, hDevices, before, shown, since, hSince, ?_⟩
  have hBalance := hAccount 1 (.inr rfl)
  rw [Application.RowsAccountFor, hRows, hPending, hDevices, ConnectionScreen.deviceRows,
    if_neg (by decide)] at hBalance
  omega

end LockJaw
