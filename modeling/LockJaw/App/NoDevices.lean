import LockJaw.App.Listing
import LockJaw.App.Settling

/-! The label "No devices found." over the table of the connection screen. It is set wherever
the table reads its counts, and no count changes elsewhere while the screen is shown. -/
namespace LockJaw

open Cocoa Semantics

namespace ConnectionScreen

/-- The label is as the counts were when the table last read them. -/
def LabelInStep (screen : ConnectionScreen) : Prop :=
  screen.noDevicesLabelHidden =
    !decide (screen.numberofRowsInSectionOne = 0 ∧ screen.numberOfRowsInSectionZero = 0)

/-- Every discovery on its way is one of a device in the lists. -/
def Backed (screen : ConnectionScreen) : Prop :=
  screen.pending 0 + screen.pending 1 ≤
    screen.world.numberOfDevicesInSection 0 + screen.world.numberOfDevicesInSection 1

section Steps
variable {screen after : ConnectionScreen}

theorem labelInStep_setTableView (screen : ConnectionScreen)
    (tableView : UITableView ConnectionCell) : (screen.setTableView tableView).LabelInStep := rfl

/-- A block of the main queue leaves the label in step with the counts. -/
theorem LabelInStep.runMainBlock (h : screen.LabelInStep)
    (hBlock : screen.runMainBlock = .ok after) : after.LabelInStep := by
  unfold ConnectionScreen.runMainBlock at hBlock
  split at hBlock
  · cases hBlock
    exact h
  · obtain ⟨_, tableView, rfl⟩ := newBluetoothDevice_eq_ok hBlock
    exact labelInStep_setTableView _ tableView
  · obtain ⟨tableView, _, rfl⟩ := deleteRow_eq_ok hBlock
    exact labelInStep_setTableView _ tableView

/-- The label is shown exactly while both counts are zero. -/
theorem LabelInStep.shows_counts_iff (h : screen.LabelInStep) :
    screen.noDevicesLabelHidden = false ↔
      screen.numberOfRows 0 = 0 ∧ screen.numberOfRows 1 = 0 := by
  rw [h, Bool.not_eq_false', decide_eq_true_eq, and_comm]
  rfl

/-- The label shows exactly when the table has no row. -/
theorem LabelInStep.shows_iff (h : screen.LabelInStep) (hTable : screen.TableInStep)
    (hFree : screen.PassFree) :
    screen.noDevicesLabelHidden = false ↔
      ∀ path, screen.tableView.hasRow path = false := by
  rw [h.shows_counts_iff]
  constructor
  · rintro ⟨hZero, hOne⟩ path
    have hEmpty : screen.numberOfRows path.inSection = 0 := by
      by_cases hKnown : path.inSection = 0
      · rw [hKnown, hZero]
      · by_cases hDiscovered : path.inSection = 1
        · rw [hDiscovered, hOne]
        · simp [numberOfRows, hKnown, hDiscovered]
    rw [UITableView.hasRow, hTable.rows, hEmpty, decide_eq_false_iff_not]
    omega
  · intro hNone
    have hEmpty : ∀ inSection, screen.numberOfRows inSection = 0 := by
      intro inSection
      have hFirst := hNone ⟨0, inSection⟩
      have hEncoded := hFree.encoded inSection
      rw [UITableView.hasRow, hTable.rows, decide_eq_false_iff_not] at hFirst
      dsimp only at hFirst
      omega
    exact ⟨hEmpty 0, hEmpty 1⟩

/-- A section that counts rows has one for a device. -/
theorem PassFree.deviceRows_cases (h : screen.PassFree) (inSection : Int) :
    screen.numberOfRows inSection = 0 ∧ deviceRows (screen.numberOfRows inSection) = 0 ∨
      1 ≤ deviceRows (screen.numberOfRows inSection) := by
  obtain hEmpty | hRows := h.encoded inSection
  · exact .inl ⟨hEmpty, by rw [hEmpty, deviceRows, if_pos rfl]⟩
  · right
    rw [deviceRows, if_neg (by omega)]
    omega

/-- A step of the controller that is no pass puts no more on its way than it lists. -/
theorem Backed.of_counts (h : screen.Backed) {world : World} {moved : Int}
    (hCounts : World.Counts screen.world world moved) :
    Backed { screen with world := world } := by
  have hKnown := hCounts.known
  have hDiscovered := hCounts.discovered
  unfold Backed pending at h ⊢
  dsimp only
  omega

/-- A delivery takes a notification off the one queue, and puts a block on the other one at
most. -/
theorem PassFree.pending_runNotificationBlock (h : screen.PassFree) (inSection : Int) :
    screen.runNotificationBlock.pending inSection ≤ screen.pending inSection := by
  cases hQueue : screen.world.controller.notificationQueue with
  | nil => rw [runNotificationBlock_of_nil hQueue]
  | cons block rest =>
      have hBlock := h.queue (hQueue ▸ List.mem_cons_self)
      rcases mem_discoveryBlocks.mp hBlock with ⟨object, _, rfl⟩ | rfl | rfl
      · rw [runNotificationBlock_of_post hQueue, observe]
        split
        · simp only [pending, World.posted, hQueue, List.count_cons]
          omega
        · simp only [pending, World.posted, hQueue, List.count_cons, List.count_append,
            List.count_nil]
          by_cases hSame : object = inSection
          · simp [hSame]
            omega
          · simp [hSame]
      · rw [runNotificationBlock_of_post hQueue]
        simp [observe, pending, World.posted, hQueue]
      · rw [runNotificationBlock_of_post hQueue]
        simp [observe, pending, World.posted, hQueue]

/-- A delivery leaves no more on its way than is listed. -/
theorem Backed.runNotificationBlock (h : screen.Backed) (hFree : screen.PassFree) :
    screen.runNotificationBlock.Backed := by
  have hZero := hFree.pending_runNotificationBlock 0
  have hOne := hFree.pending_runNotificationBlock 1
  have hDevices : ∀ inSection, screen.runNotificationBlock.world.numberOfDevicesInSection
      inSection = screen.world.numberOfDevicesInSection inSection := by
    intro inSection
    rw [hFree.delivery_world]
    rfl
  unfold Backed at h ⊢
  rw [hDevices, hDevices]
  omega

/-- So does a block of the main queue. -/
theorem Backed.runMainBlock (h : screen.Backed) (hBlock : screen.runMainBlock = .ok after) :
    after.Backed := by
  obtain ⟨hWorld, _, hRest⟩ := runMainBlock_frame hBlock
  have hPending : ∀ inSection, after.pending inSection ≤ screen.pending inSection := by
    intro inSection
    have hCount := (List.tail_sublist screen.mainQueue).count_le (.newBluetoothDevice inSection)
    rw [pending, pending, hWorld, hRest]
    omega
  have hZero := hPending 0
  have hOne := hPending 1
  unfold Backed at h ⊢
  rw [hWorld]
  omega

end Steps

end ConnectionScreen

namespace Application

section Steps
variable {platform : Platform} {app after : Application} {event : ApplicationEvent}

/-- While the screen is shown its label is in step with its table: an appearance reads the
counts, and so does every block. -/
theorem Takes.labelInStep (hTakes : app.Takes platform event after) (h : app.RowsInStep)
    (hLabel : app.ShowsConnection → app.tabs.connection.LabelInStep)
    (hShows : after.ShowsConnection) : after.tabs.connection.LabelInStep := by
  rcases hTakes.shown_before hShows with hBefore | ⟨_, hAppearing, hCurrent, rfl⟩
  · have hKept := hLabel hBefore
    cases hTakes with
    | idle => exact hKept
    | click sender => exact absurd hShows.2 (showTab_not_appeared app sender)
    | selection path world transitions => exact absurd hShows.2 (showTab_not_appeared _ 0)
    | tap => exact hKept
    | appearance =>
        have hAppeared : app.tabs.appearance ≠ .appearing := by
          rw [hBefore.2]
          exact Appearance.noConfusion
        rw [contentDidAppear_tabs, TabScreen.contentDidAppear_of_appeared hAppeared]
        exact hKept
    | connectionDrawing => exact hKept
    | historyDrawing => exact hKept
    | historyLoading => exact hKept
    | controller => exact hKept
    | radio => exact hKept
    | delivery =>
        obtain ⟨mainQueue, hDelivered⟩ := h.free.runNotificationBlock_eq
        show app.tabs.connection.runNotificationBlock.LabelInStep
        rw [hDelivered]
        exact hKept
    | mainBlock connection hBlock => exact hKept.runMainBlock hBlock
  · rw [contentDidAppear_connection hAppearing, if_pos hCurrent]
    exact ConnectionScreen.labelInStep_setTableView _ _

/-- No step puts more discoveries on their way than it lists devices. -/
theorem Takes.backed (hTakes : app.Takes platform event after) (h : app.RowsInStep)
    {roster : Roster CBPeripheral} (hRefines : Refines app.world roster)
    (hBacked : app.tabs.connection.Backed) : after.tabs.connection.Backed := by
  cases hTakes with
  | idle => exact hBacked
  | click sender =>
      rw [showTab_connection]
      exact hBacked
  | selection path world transitions hCurrent hRow hWorld =>
      rw [showTab_connection]
      exact hBacked.of_counts (World.selectPeripheralAtIndex_counts hWorld)
  | tap now screen hCurrent hVisible hScreen =>
      exact hBacked.of_counts (LockScreen.changeLockStatus_counts hRefines hScreen)
  | appearance =>
      by_cases hAppearing : app.tabs.appearance = .appearing
      · rw [contentDidAppear_connection hAppearing]
        split
        · exact hBacked
        · exact hBacked
      · rw [contentDidAppear_tabs, TabScreen.contentDidAppear_of_appeared hAppearing]
        exact hBacked
  | connectionDrawing => exact hBacked
  | historyDrawing => exact hBacked
  | historyLoading => exact hBacked
  | controller event controllerEvent world hEvent hWorld =>
      obtain ⟨hPass, hDelivery, _⟩ := controllerEvent_takes_none hEvent
      exact hBacked.of_counts (World.step_counts hWorld hPass hDelivery)
  | radio peripheral answer =>
      exact hBacked.of_counts (World.radio_counts app.world peripheral answer)
  | delivery => exact hBacked.runNotificationBlock h.free
  | mainBlock connection hBlock => exact hBacked.runMainBlock hBlock

/-- The lists are empty exactly when nobody advertised. -/
theorem Advertised.no_devices_iff {history : History Application ApplicationEvent}
    (h : Advertised history app) :
    app.world.numberOfDevicesInSection 0 + app.world.numberOfDevicesInSection 1 = 0 ↔
      ∀ entry ∈ history, entry.1.advertised entry.2 = none := by
  have hEmpty : app.world.numberOfDevicesInSection 0 + app.world.numberOfDevicesInSection 1 = 0 ↔
      ∀ peripheral, ¬ app.world.Listed peripheral := by
    have hCount : app.world.numberOfDevicesInSection 0 + app.world.numberOfDevicesInSection 1 =
        (app.world.controller.knownDevicesArray ++
          app.world.controller.discoveredDevicesArray).length := by
      rw [List.length_append, Int.natCast_add]
      rfl
    rw [hCount, Int.natCast_eq_zero, List.length_eq_zero_iff, List.eq_nil_iff_forall_not_mem]
    simp only [World.Listed, List.mem_append]
  rw [hEmpty]
  constructor
  · intro hNobody entry hEntry
    by_contra hSome
    obtain ⟨peripheral, hAdvertised⟩ := Option.ne_none_iff_exists'.mp hSome
    exact hNobody peripheral ((h.covered peripheral).mp
      ((h.seen peripheral).mpr ⟨entry, hEntry, hAdvertised⟩))
  · intro hNone peripheral hListed
    obtain ⟨entry, hEntry, hAdvertised⟩ :=
      (h.seen peripheral).mp ((h.covered peripheral).mpr hListed)
    rw [hNone entry hEntry] at hAdvertised
    cases hAdvertised

end Steps

section Launch
variable {platform : Platform} {peripherals : CBPeripheral → PeripheralObject}
  {realm : RLMRealm} {central : CBCentralManager} {start app : Application}
  {history : History Application ApplicationEvent}

/-- In every run the label is in step with the counts. -/
theorem labelInStep_of_run (hLaunch : launch peripherals realm central = .ok start)
    (run : Run (applicationStep platform) start history app) (hShows : app.ShowsConnection) :
    app.tabs.connection.LabelInStep := by
  induction run with
  | nil =>
      rw [launch_eq] at hLaunch
      cases hLaunch
      exact absurd hShows.2 (showTab_not_appeared _ 1)
  | snoc prior last ih =>
      have hReached := Reached.of_run hLaunch prior
      have hTakes := applicationStep_takes hReached.inStep.assembled last
      exact hTakes.labelInStep (rowsInStep_of_run hLaunch prior) ih hShows

/-- In every run no more is on its way than is listed. -/
theorem backed_of_run (hLaunch : launch peripherals realm central = .ok start)
    (run : Run (applicationStep platform) start history app) :
    app.tabs.connection.Backed := by
  induction run with
  | nil =>
      rw [launch_eq] at hLaunch
      cases hLaunch
      rw [showTab_connection]
      exact le_refl _
  | snoc prior last ih =>
      have hReached := Reached.of_run hLaunch prior
      obtain ⟨roster, hRefines, _⟩ := hReached.roster
      have hTakes := applicationStep_takes hReached.inStep.assembled last
      exact hTakes.backed (rowsInStep_of_run hLaunch prior) hRefines ih

/-- As long as nobody advertised the table is empty: nothing was on its way when the screen
appeared, either. -/
theorem no_rows_of_run (hLaunch : launch peripherals realm central = .ok start)
    (run : Run (applicationStep platform) start history app) (hShows : app.ShowsConnection)
    (hNone : ∀ entry ∈ history, entry.1.advertised entry.2 = none) :
    app.tabs.connection.numberOfRows 0 = 0 ∧ app.tabs.connection.numberOfRows 1 = 0 := by
  obtain ⟨before, shown, since, hSince, hExcess⟩ := excess_of_run hLaunch run hShows
  have hZero := rowsAccountFor_iff.mpr (hExcess 0 (.inl rfl))
  have hOne := rowsAccountFor_iff.mpr (hExcess 1 (.inr rfl))
  have hDevices := (Advertised.of_run hLaunch run).no_devices_iff.mpr hNone
  obtain ⟨_, earlier, _, _⟩ := Run.split_cons (hSince.split ▸ run)
  have hBacked : shown.tabs.connection.pending 0 + shown.tabs.connection.pending 1 ≤
      shown.world.numberOfDevicesInSection 0 + shown.world.numberOfDevicesInSection 1 :=
    backed_of_run hLaunch earlier
  rw [(Advertised.of_run hLaunch earlier).no_devices_iff.mpr fun entry hEntry =>
    hNone entry (hSince.split ▸ List.mem_append_left _ hEntry)] at hBacked
  have hPendingZero := app.tabs.connection.pending_nonneg 0
  have hPendingOne := app.tabs.connection.pending_nonneg 1
  have hShownZero := shown.tabs.connection.pending_nonneg 0
  have hShownOne := shown.tabs.connection.pending_nonneg 1
  have hFree := (rowsInStep_of_run hLaunch run).free
  have hRowsZero := hFree.deviceRows_cases 0
  have hRowsOne := hFree.deviceRows_cases 1
  unfold RowsAccountFor at hZero hOne
  omega

/-- An empty table that nothing is on its way to has empty lists behind it. -/
theorem no_devices_of_run (hLaunch : launch peripherals realm central = .ok start)
    (run : Run (applicationStep platform) start history app) (hShows : app.ShowsConnection)
    (hQuiet : app.tabs.connection.Quiet)
    (hRows : app.tabs.connection.numberOfRows 0 = 0 ∧
      app.tabs.connection.numberOfRows 1 = 0) :
    app.world.numberOfDevicesInSection 0 + app.world.numberOfDevicesInSection 1 = 0 := by
  obtain ⟨before, shown, since, hSince, hExcess⟩ := excess_of_run hLaunch run hShows
  have hZero := rowsAccountFor_iff.mpr (hExcess 0 (.inl rfl))
  have hOne := rowsAccountFor_iff.mpr (hExcess 1 (.inr rfl))
  have hShownZero := shown.tabs.connection.pending_nonneg 0
  have hShownOne := shown.tabs.connection.pending_nonneg 1
  have hDevicesZero := ConnectionScreen.numberOfDevicesInSection_nonneg app.world 0
  have hDevicesOne := ConnectionScreen.numberOfDevicesInSection_nonneg app.world 1
  obtain ⟨hPendingZero, hPendingOne⟩ :=
    (ConnectionScreen.quiet_iff (rowsInStep_of_run hLaunch run).free).mp hQuiet
  rw [RowsAccountFor, hRows.1, ConnectionScreen.deviceRows, if_pos rfl] at hZero
  rw [RowsAccountFor, hRows.2, ConnectionScreen.deviceRows, if_pos rfl] at hOne
  omega

end Launch

end Application

/-- In every state that shows the connection screen the label "No devices found." shows
exactly when its table has no row. It shows as long as no device advertised with a name since
the launch; and once no discovery is on its way to the table it shows in no other case. -/
theorem no_devices_label_tells {platform : Platform}
    {peripherals : CBPeripheral → PeripheralObject} {realm : RLMRealm}
    {central : CBCentralManager} {start app : Application}
    {history : History Application ApplicationEvent}
    (hLaunch : Application.launch peripherals realm central = .ok start)
    (run : Run (applicationStep platform) start history app) (hShows : app.ShowsConnection) :
    (app.tabs.connection.noDevicesLabelHidden = false ↔
      ∀ path, app.tabs.connection.tableView.hasRow path = false) ∧
    ((∀ entry ∈ history, entry.1.advertised entry.2 = none) →
      app.tabs.connection.noDevicesLabelHidden = false) ∧
    (app.tabs.connection.Quiet → app.tabs.connection.noDevicesLabelHidden = false →
      ∀ entry ∈ history, entry.1.advertised entry.2 = none) := by
  have hRows := Application.rowsInStep_of_run hLaunch run
  have hLabel := Application.labelInStep_of_run hLaunch run hShows
  refine ⟨hLabel.shows_iff hRows.table hRows.free, ?_, ?_⟩
  · intro hNone
    exact hLabel.shows_counts_iff.mpr (Application.no_rows_of_run hLaunch run hShows hNone)
  · intro hQuiet hVisible
    have hEmpty := Application.no_devices_of_run hLaunch run hShows hQuiet
      (hLabel.shows_counts_iff.mp hVisible)
    exact (Application.Advertised.of_run hLaunch run).no_devices_iff.mp hEmpty

/-- The one device that is found has no name. -/
def discoverNameless : List ApplicationEvent :=
  [.contentDidAppear, .peripheralDidUpdateName frontDoor none,
    .didDiscoverPeripheral frontDoor ⟨100, 20⟩, .runNotificationBlock, .runMainBlock]

theorem no_devices_label_tells_of_nameless :
    ∃ start app, Application.launch freshWorld.peripherals freshWorld.realm
        freshWorld.central = .ok start ∧
      exec (applicationStep samplePlatform) start discoverNameless = .ok app ∧
      (∀ path, app.tabs.connection.tableView.hasRow path = false) ∧
      ∀ entry ∈ historyOf (applicationStep samplePlatform) start discoverNameless,
        entry.1.advertised entry.2 = none := by
  obtain ⟨start, app, hLaunch, hExec, hShows, hVisible, hQuiet⟩ :
      ∃ start app, Application.launch freshWorld.peripherals freshWorld.realm
          freshWorld.central = .ok start ∧
        exec (applicationStep samplePlatform) start discoverNameless = .ok app ∧
        app.ShowsConnection ∧ app.tabs.connection.noDevicesLabelHidden = false ∧
        app.tabs.connection.Quiet :=
    ⟨_, _, rfl, rfl, ⟨rfl, rfl⟩, rfl, fun _ => ⟨List.not_mem_nil, List.not_mem_nil⟩⟩
  obtain ⟨hTable, _, hSettled⟩ := no_devices_label_tells hLaunch (run_of_exec hExec) hShows
  exact ⟨start, app, hLaunch, hExec, hTable.mp hVisible, hSettled hQuiet hVisible⟩

end LockJaw
