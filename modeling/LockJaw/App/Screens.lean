import LockJaw.App.Refinement

/-! What each screen shows and observes against the container, in every state that the
application reaches. The lock's labels are set when it appears; while it is shown a device
may be added, but none is selected and none is removed. -/
namespace LockJaw

open Cocoa Semantics

namespace LockScreen

/-- The device a step picks. -/
def picked (screen : LockScreen) : LockScreenEvent → Option CBPeripheral
  | .controller event => screen.world.picked event
  | _ => none

/-- A step of the lock's screen is a step of the roster with the same pick. -/
theorem step_roster {screen after : LockScreen} {roster : Roster CBPeripheral}
    (hRefines : Refines screen.world roster) {event : LockScreenEvent}
    (hStep : lockScreenStep screen event = .ok after) :
    ∃ next, Roster.Step roster (screen.picked event) next ∧ Refines after.world next := by
  cases event with
  | changeLockStatus now =>
      obtain ⟨tapped, hTapped, _, hNext⟩ := changeLockStatus_taps hRefines now
      obtain rfl : after = tapped := Except.ok.inj (hStep.symm.trans hTapped)
      exact ⟨roster, .stay roster, hNext⟩
  | controller event =>
      obtain ⟨world, hWorld, hAfter⟩ := bind_eq_ok.mp hStep
      cases hAfter
      exact hRefines.step hWorld
  | radio peripheral answer =>
      cases hStep
      exact ⟨roster, .stay roster, hRefines.congr (World.radio_lists peripheral answer)⟩

end LockScreen

namespace Application

/-- The device an event picks: the one at the row that is touched. -/
def picked (app : Application) (event : ApplicationEvent) : Option CBPeripheral :=
  (app.lockEvent event).bind app.lockScreen.picked

/-- The device picked last. -/
def lastPicked (history : History Application ApplicationEvent) : Option CBPeripheral :=
  (history.filterMap fun entry => entry.1.picked entry.2).getLast?

/-- A device is the last one picked until the next. -/
theorem lastPicked_concat (history : History Application ApplicationEvent) (app : Application)
    (event : ApplicationEvent) :
    lastPicked (history ++ [(app, event)]) = (app.picked event).or (lastPicked history) := by
  simp only [lastPicked, List.filterMap_append, List.getLast?_append]
  cases hPicked : app.picked event <;> simp [hPicked]

/-- What the tabs tell of one another: an observer observes while it is shown, and the
lock's labels tell whether there was a device when it appeared. -/
structure InStep (app : Application) : Prop where
  assembled : app.Assembled
  visible : app.tabs.appearance ≠ .hidden
  connection : app.tabs.connection.appearance =
    if app.current = some .connectionViewController then app.tabs.appearance else .hidden
  lock : app.tabs.lock.observesRefresh = true ↔ app.tabs.ShowsLock
  labels : app.tabs.ShowsLock →
    app.tabs.lock.noCapsusLabelHidden = !app.tabs.lock.lockViewHidden
  nonempty : app.tabs.ShowsLock → app.tabs.lock.lockViewHidden = false →
    app.world.controller.connectedPeripherals ≠ []
  selected : app.tabs.ShowsLock → ∀ peripheral, app.world.Designates peripheral →
    app.tabs.lock.lockViewHidden = false

section Steps
variable {platform : Platform} {app after : Application} {event : ApplicationEvent}
  {roster next : Roster CBPeripheral}

/-- The roster over a step of the application. -/
theorem Assembled.step_roster (h : app.Assembled) (hRefines : Refines app.world roster)
    (hStep : applicationStep platform app event = .ok after) :
    ∃ next, Roster.Step roster (app.picked event) next ∧ Refines after.world next := by
  have hTakes := applicationStep_takes h hStep
  cases hLabel : app.lockEvent event with
  | none =>
      have hWorld := hTakes.silent_world hLabel
      rw [picked, hLabel, hWorld]
      exact ⟨roster, .stay roster, hRefines⟩
  | some seen =>
      rw [picked, hLabel]
      exact LockScreen.step_roster hRefines (hTakes.labelled hLabel)

/-- A step that leaves the lock and the shown tab alone, and picks nothing. -/
theorem InStep.frame (h : app.InStep) (hTabs : after.tabs.container = app.tabs.container)
    (hAppearance : after.tabs.appearance = app.tabs.appearance)
    (hLock : after.tabs.lock = app.tabs.lock)
    (hConnection : after.tabs.connection.appearance = app.tabs.connection.appearance)
    (hAssembled : after.Assembled) (hRefines : Refines app.world roster)
    (step : Roster.Step roster none next) (hNext : Refines after.world next) :
    after.InStep := by
  have hCurrent : after.current = app.current :=
    congrArg LKJTabViewController.currentContentViewController hTabs
  have hShows : after.tabs.ShowsLock ↔ app.tabs.ShowsLock := by
    change after.current = _ ∧ after.tabs.appearance = _ ↔
      app.current = _ ∧ app.tabs.appearance = _
    rw [hCurrent, hAppearance]
  constructor
  · exact hAssembled
  · rw [hAppearance]
    exact h.visible
  · rw [hConnection, hCurrent, hAppearance]
    exact h.connection
  · rw [hLock, hShows]
    exact h.lock
  · rw [hLock, hShows]
    exact h.labels
  · rw [hLock, hShows, hNext.connected]
    intro hShown hVisible hEmpty
    apply h.nonempty hShown hVisible
    rw [hRefines.connected]
    exact List.eq_nil_of_subset_nil (hEmpty ▸ step.chosen_subset)
  · rw [hLock, hShows]
    intro hShown peripheral hDesignates
    have hSelected := hNext.selected_of_designates hDesignates
    rw [step.selected_eq, Option.none_or] at hSelected
    have hSelection := hRefines.selection
    rw [hSelected] at hSelection
    exact h.selected hShown peripheral hSelection

/-- A tab that has just been chosen, after screens that observe only while they are
shown. -/
theorem inStep_showTab {sender : Nat} (hAssembled : (app.showTab sender).Assembled)
    (hConnection : app.current ≠ some .connectionViewController →
      app.tabs.connection.appearance = .hidden)
    (hLock : app.current ≠ some .lockViewController →
      app.tabs.lock.observesRefresh = false) : (app.showTab sender).InStep := by
  have hAppearance := showTab_appearance app sender
  have hHidden : ¬ (app.showTab sender).tabs.ShowsLock :=
    fun hShows => showTab_not_appeared app sender hShows.2
  constructor
  · exact hAssembled
  · rw [hAppearance]
    exact Appearance.noConfusion
  · rw [showTab_connection, hAppearance]
    dsimp only
    split
    · rfl
    · split
      · rfl
      · rename_i hOther
        exact hConnection hOther
  · rw [showTab_observesRefresh]
    constructor
    · intro hObserves
      split at hObserves
      · cases hObserves
      · rename_i hOther
        rw [hLock hOther] at hObserves
        cases hObserves
    · exact fun hShows => absurd hShows hHidden
  · exact fun hShows => absurd hShows hHidden
  · exact fun hShows => absurd hShows hHidden
  · exact fun hShows => absurd hShows hHidden

/-- The connection screen is hidden while another is shown. -/
theorem InStep.connection_hidden (h : app.InStep)
    (hOther : app.current ≠ some .connectionViewController) :
    app.tabs.connection.appearance = .hidden :=
  h.connection.trans (if_neg hOther)

/-- The lock's screen observes nothing while another is shown. -/
theorem InStep.lock_silent (h : app.InStep) (hOther : app.current ≠ some .lockViewController) :
    app.tabs.lock.observesRefresh = false := by
  rw [Bool.eq_false_iff]
  intro hObserves
  exact hOther (h.lock.mp hObserves).1

/-- There is a device to lock once one was chosen. -/
theorem existsBluetoothDevice_iff {world : World} :
    world.existsBluetoothDevice = true ↔ world.controller.connectedPeripherals ≠ [] := by
  rw [World.existsBluetoothDevice, decide_eq_true_eq, gt_iff_lt, List.length_pos_iff]

/-- The content appears: the lock sets its labels by what the controller has. -/
theorem InStep.contentDidAppear (h : app.InStep) (hRefines : Refines app.world roster) :
    (app.contentDidAppear platform).InStep := by
  have hAssembled : (app.contentDidAppear platform).Assembled := h.assembled.contentDidAppear
  have hWorld := contentDidAppear_world platform app
  by_cases hAppearing : app.tabs.appearance = .appearing
  · have hAppearance := @contentDidAppear_appearance platform app hAppearing
    have hCurrent := contentDidAppear_current platform app
    have hShows : (app.contentDidAppear platform).tabs.ShowsLock ↔
        app.current = some .lockViewController := by
      rw [TabScreen.ShowsLock, hAppearance, ← hCurrent]
      exact and_iff_left rfl
    constructor
    · exact hAssembled
    · rw [hAppearance]
      exact Appearance.noConfusion
    · rw [hCurrent, hAppearance, contentDidAppear_connection hAppearing]
      split
      · rfl
      · rename_i hOther
        exact h.connection_hidden hOther
    · rw [hShows, contentDidAppear_lock hAppearing]
      split
      · rename_i hShown
        rw [LKJLockViewController.viewDidAppear]
        split <;> simp [hShown]
      · rename_i hOther
        constructor
        · intro hObserves
          exact absurd (h.lock.mp hObserves).1 hOther
        · exact fun hShown => absurd hShown hOther
    · rw [hShows]
      intro hShown
      rw [contentDidAppear_lock hAppearing, if_pos hShown, LKJLockViewController.viewDidAppear]
      split <;> rfl
    · rw [hShows, hWorld]
      intro hShown hVisible
      rw [contentDidAppear_lock hAppearing, if_pos hShown,
        LKJLockViewController.viewDidAppear] at hVisible
      split at hVisible
      · rename_i hExists
        exact existsBluetoothDevice_iff.mp hExists
      · cases hVisible
    · rw [hShows, hWorld]
      intro hShown peripheral hDesignates
      have hExists : app.world.existsBluetoothDevice = true := by
        apply existsBluetoothDevice_iff.mpr
        intro hEmpty
        exact World.not_designates_of_empty hEmpty hDesignates
      rw [contentDidAppear_lock hAppearing, if_pos hShown,
        LKJLockViewController.viewDidAppear, if_pos hExists]
  · have hTabs := contentDidAppear_tabs platform app
    rw [TabScreen.contentDidAppear_of_appeared hAppearing] at hTabs
    exact h.frame (by rw [hTabs]) (by rw [hTabs]) (by rw [hTabs]) (by rw [hTabs]) hAssembled
      hRefines (.stay roster) (hWorld ▸ hRefines)

/-- Every step keeps the screens in step. -/
theorem InStep.step (h : app.InStep) (hRefines : Refines app.world roster)
    (hStep : applicationStep platform app event = .ok after) : after.InStep := by
  have hAssembled := h.assembled.step hStep
  obtain ⟨next, step, hNext⟩ := h.assembled.step_roster hRefines hStep
  cases applicationStep_takes h.assembled hStep with
  | idle => exact h
  | click sender => exact inStep_showTab hAssembled h.connection_hidden h.lock_silent
  | selection path world transitions hCurrent =>
      apply inStep_showTab hAssembled
      · exact fun hOther => absurd hCurrent hOther
      · intro hOther
        exact h.lock_silent hOther
  | tap now screen hCurrent hVisible =>
      rw [picked, lockEvent_changeLockStatus hCurrent hVisible] at step
      exact h.frame rfl rfl rfl rfl hAssembled hRefines step hNext
  | appearance => exact h.contentDidAppear hRefines
  | connectionDrawing path cell =>
      exact h.frame rfl rfl rfl rfl hAssembled hRefines (.stay roster) hRefines
  | historyDrawing path now cell =>
      exact h.frame rfl rfl rfl rfl hAssembled hRefines (.stay roster) hRefines
  | historyLoading =>
      exact h.frame rfl rfl rfl rfl hAssembled hRefines (.stay roster) hRefines
  | controller event controllerEvent world hEvent =>
      have hNone : app.picked event = none := by
        rw [picked, lockEvent_of_controllerEvent hEvent]
        cases event with
        | didDiscoverPeripheral => cases hEvent; rfl
        | centralManagerDidUpdateState => cases hEvent; rfl
        | peripheralDidUpdateName => cases hEvent; rfl
        | _ => cases hEvent
      rw [hNone] at step
      exact h.frame rfl rfl rfl rfl hAssembled hRefines step hNext
  | radio peripheral answer =>
      exact h.frame rfl rfl rfl rfl hAssembled hRefines step hNext
  | delivery =>
      exact h.frame rfl rfl rfl ConnectionScreen.appearance_runNotificationBlock hAssembled
        hRefines step hNext
  | mainBlock connection hBlock =>
      have hFrame := ConnectionScreen.runMainBlock_frame hBlock
      exact h.frame rfl rfl rfl hFrame.2.1 hAssembled hRefines step hNext

end Steps

section Launch
variable {peripherals : CBPeripheral → PeripheralObject} {realm : RLMRealm}
  {central : CBCentralManager} {app : Application}

/-- A launch selects the connection screen, since a new controller has no device. -/
theorem launch_eq (peripherals : CBPeripheral → PeripheralObject) (realm : RLMRealm)
    (central : CBCentralManager) :
    launch peripherals realm central = .ok (showTab {
      tabs := {
        container := .setUp lockJawTabs lockJawControllers
        appearance := .hidden
        connection := .viewDidLoad ⟨.init, peripherals, realm, central⟩ true
        lock := .init }
      lockView := .init
      presentedAlerts := []
      historyTable := .init
      expirationTimerScheduled := false } 1) := by
  have hSelect : (LKJTabViewController.setUp lockJawTabs lockJawControllers).selectButtonAtIndex
      kLKJConnectLockIndex = .ok (.showing lockJawTabs lockJawControllers (some 1)) := rfl
  have hTabs : TabScreen.viewDidLoad ⟨.init, peripherals, realm, central⟩ = .ok
      (TabScreen.exchange {
        container := .setUp lockJawTabs lockJawControllers
        appearance := .hidden
        connection := .viewDidLoad ⟨.init, peripherals, realm, central⟩ true
        lock := .init } (.showing lockJawTabs lockJawControllers (some 1))) := by
    change TabScreen.selectButtonAtIndex _ kLKJConnectLockIndex = _
    unfold TabScreen.selectButtonAtIndex
    dsimp only
    rw [hSelect]
    rfl
  rw [launch, hTabs]
  rfl

/-- The screens are in step at the launch. -/
theorem inStep_of_launch (hLaunch : launch peripherals realm central = .ok app) :
    app.InStep := by
  have hAssembled := assembled_of_launch hLaunch
  rw [launch_eq] at hLaunch
  cases hLaunch
  exact inStep_showTab hAssembled (fun _ => rfl) fun _ => rfl

/-- The launch starts from an empty roster. -/
theorem refines_of_launch (hLaunch : launch peripherals realm central = .ok app) :
    Refines app.world (.empty : Roster CBPeripheral) := by
  rw [launch_eq] at hLaunch
  cases hLaunch
  rw [showTab_world]
  exact .init rfl

end Launch

end Application

/-- What every reachable state of the application has: screens in step with the container,
and a roster whose selection is the device picked last. -/
structure Application.Reached (history : History Application ApplicationEvent)
    (app : Application) : Prop where
  inStep : app.InStep
  roster : ∃ roster : Roster CBPeripheral, Refines app.world roster ∧
    roster.selected = Application.lastPicked history

namespace Application.Reached

variable {platform : Platform} {history : History Application ApplicationEvent}
  {app after : Application} {event : ApplicationEvent}

/-- Each further step is one more entry of the history. -/
theorem step (h : Reached history app)
    (hStep : applicationStep platform app event = .ok after) :
    Reached (history ++ [(app, event)]) after := by
  obtain ⟨roster, hRefines, hSelected⟩ := h.roster
  obtain ⟨next, step, hNext⟩ := h.inStep.assembled.step_roster hRefines hStep
  refine ⟨h.inStep.step hRefines hStep, next, hNext, ?_⟩
  rw [step.selected_eq, hSelected, lastPicked_concat]

/-- Every run from a launch reaches its last state. -/
theorem of_run {peripherals : CBPeripheral → PeripheralObject} {realm : RLMRealm}
    {central : CBCentralManager} {start : Application}
    (hLaunch : launch peripherals realm central = .ok start)
    (run : Run (applicationStep platform) start history app) : Reached history app := by
  apply run.induction Reached
  · exact ⟨inStep_of_launch hLaunch, .empty, refines_of_launch hLaunch, rfl⟩
  · intro _ _ _ _ _ hState hStep
    exact hState.step hStep

end Application.Reached

/-- In every state that a run of the application reaches its screens are in step: one tab is
the content, the connection screen and the lock observe exactly while they are shown, and a
lock that is shown offers itself when it appeared with a device, always so once one is
selected. -/
theorem screens_in_step {platform : Platform}
    {peripherals : CBPeripheral → PeripheralObject} {realm : RLMRealm}
    {central : CBCentralManager} {start app : Application}
    {history : History Application ApplicationEvent}
    (hLaunch : Application.launch peripherals realm central = .ok start)
    (run : Run (applicationStep platform) start history app) : app.InStep :=
  (Application.Reached.of_run hLaunch run).inStep

/-- Through all three tabs, with a device touched on the way. -/
def throughTheTabs : List ApplicationEvent :=
  [.contentDidAppear, .didDiscoverPeripheral frontDoor ⟨100, 20⟩, .runNotificationBlock,
    .runMainBlock, .didSelectRow ⟨1, 1⟩, .contentDidAppear, .buttonClicked 2,
    .contentDidAppear, .buttonClicked 0, .contentDidAppear]

theorem screens_in_step_through_the_tabs :
    ∃ start app, Application.launch freshWorld.peripherals freshWorld.realm
        freshWorld.central = .ok start ∧
      exec (applicationStep samplePlatform) start throughTheTabs = .ok app ∧
      app.tabs.ShowsLock ∧ app.InStep := by
  obtain ⟨start, app, hLaunch, hExec, hShows⟩ :
      ∃ start app, Application.launch freshWorld.peripherals freshWorld.realm
          freshWorld.central = .ok start ∧
        exec (applicationStep samplePlatform) start throughTheTabs = .ok app ∧
        app.tabs.ShowsLock := ⟨_, _, rfl, rfl, rfl, rfl⟩
  exact ⟨start, app, hLaunch, hExec, hShows, screens_in_step hLaunch (run_of_exec hExec)⟩

end LockJaw
