import LockJaw.App.Commands

/-! The history screen inside the application. Records are written by taps on the lock, and
while the history is shown nobody can tap there: the table and its cells stay what a
reload would give. -/
namespace LockJaw

open Cocoa Semantics

namespace LockScreen

/-- The time of a tap. -/
def tapTime : LockScreenEvent → Option NSDate
  | .changeLockStatus now => some now
  | _ => none

/-- A step writes at most one record, and only a tap writes one, with its own time. -/
theorem step_history {screen after : LockScreen} {roster : Roster CBPeripheral}
    (hRefines : Refines screen.world roster) {event : LockScreenEvent}
    (hStep : lockScreenStep screen event = .ok after) :
    after.world.realm.history = screen.world.realm.history ∨
      ∃ now record, event = .changeLockStatus now ∧ record.activatedDate = some now ∧
        after.world.realm.history = screen.world.realm.history ++ [record] := by
  cases event with
  | changeLockStatus now =>
      change screen.changeLockStatus now = _ at hStep
      obtain hWorld | ⟨peripheral, record, _, hDate, hWorld | hWorld⟩ :=
        changeLockStatus_world hRefines hStep
      · exact .inl (by rw [hWorld])
      · exact .inr ⟨now, record, rfl, hDate, by rw [hWorld]; rfl⟩
      · exact .inr ⟨now, record, rfl, hDate, by rw [hWorld]; rfl⟩
  | controller event =>
      obtain ⟨world, hWorld, hAfter⟩ := bind_eq_ok.mp hStep
      cases hAfter
      exact .inl (World.step_history hRefines hWorld)
  | radio peripheral answer =>
      cases hStep
      exact .inl (by rw [World.radio_realm])

/-- The records a run writes carry the times of its taps, in order. -/
theorem dates_of_run {start screen : LockScreen}
    {history : History LockScreen LockScreenEvent}
    (run : Run lockScreenStep start history screen)
    (hStart : ∃ roster : Roster CBPeripheral, Refines start.world roster) :
    ∃ records, screen.world.realm.history = start.world.realm.history ++ records ∧
      (records.map LKJHistory.activatedDate).Sublist
        ((history.filterMap fun entry => tapTime entry.2).map some) := by
  induction run with
  | nil => exact ⟨[], (List.append_nil _).symm, .slnil⟩
  | @snoc history state after event prior last ih =>
      obtain ⟨records, hRecords, hDates⟩ := ih
      obtain ⟨roster, hRefines⟩ := prior.invariant
        (fun state => ∃ roster : Roster CBPeripheral, Refines state.world roster) hStart
        fun _ _ _ hState hStep => lockScreenStep_refines hState hStep
      rw [List.filterMap_append, List.map_append]
      rcases step_history hRefines last with hSame | ⟨now, record, rfl, hDate, hAdded⟩
      · refine ⟨records, hSame.trans hRecords, ?_⟩
        exact hDates.trans (List.sublist_append_left _ _)
      · refine ⟨records ++ [record], ?_, ?_⟩
        · rw [hAdded, hRecords, List.append_assoc]
        · rw [List.map_append]
          apply hDates.append
          simp [tapTime, hDate]

end LockScreen

namespace HistoryScreen

variable {platform : Platform} {realm other : RLMRealm}

/-- The results depend on the records alone. -/
theorem results_congr (h : realm.history = other.history) :
    results platform realm = results platform other := by
  rw [results, results, h]

theorem rowCounts_congr (h : realm.history = other.history) :
    rowCounts platform realm = rowCounts platform other := by
  funext inSection
  rw [rowCounts, rowCounts, numberOfRows, numberOfRows, results_congr h]

end HistoryScreen

namespace Application

/-- The history is the content and has appeared. -/
def ShowsHistory (app : Application) : Prop :=
  app.current = some .historyTableViewController ∧ app.tabs.appearance = .appeared

/-- The table of the history never counts more rows than there are records. While it is
shown it counts them all, and every cell is that of the record at its row. -/
structure HistoryInStep (platform : Platform) (app : Application) : Prop where
  rows : ∀ inSection, app.historyTable.numberOfRows inSection ≤
    HistoryScreen.rowCounts platform app.world.realm inSection
  shown : app.ShowsHistory →
    app.historyTable.numberOfRows = HistoryScreen.rowCounts platform app.world.realm
  cells : app.ShowsHistory → ∀ path cell, app.historyTable.cells path = some cell →
    ∃ record now, (HistoryScreen.results platform app.world.realm)[path.row.toNat]? =
        some record ∧ cell = .setHistoryItem platform.dateFormatter now record

namespace HistoryInStep

variable {platform : Platform} {app after : Application} {event : ApplicationEvent}
  {roster : Roster CBPeripheral}

/-- A step that leaves the table, the records and the shown tab alone. -/
theorem frame (h : app.HistoryInStep platform) (hTable : after.historyTable = app.historyTable)
    (hShows : after.ShowsHistory → app.ShowsHistory)
    (hHistory : after.world.realm.history = app.world.realm.history) :
    after.HistoryInStep platform := by
  constructor
  · rw [hTable, HistoryScreen.rowCounts_congr hHistory]
    exact h.rows
  · rw [hTable, HistoryScreen.rowCounts_congr hHistory]
    exact fun hShown => h.shown (hShows hShown)
  · rw [hTable, HistoryScreen.results_congr hHistory]
    exact fun hShown => h.cells (hShows hShown)

/-- A step that writes a record while the history is not shown. -/
theorem grow (h : app.HistoryInStep platform) (hTable : after.historyTable = app.historyTable)
    (hHidden : ¬ after.ShowsHistory) {record : LKJHistory}
    (hHistory : after.world.realm.history = app.world.realm.history ++ [record]) :
    after.HistoryInStep platform := by
  constructor
  · intro inSection
    have hRows := h.rows inSection
    rw [hTable]
    unfold HistoryScreen.rowCounts HistoryScreen.numberOfRows at hRows ⊢
    split
    · rename_i hZero
      rw [if_pos hZero, HistoryScreen.length_results] at hRows
      rw [HistoryScreen.length_results, hHistory, List.length_append]
      omega
    · rename_i hOther
      rw [if_neg hOther] at hRows
      exact hRows
  · exact fun hShown => absurd hShown hHidden
  · exact fun hShown => absurd hShown hHidden

/-- A reload reads every row again and drops every cell. -/
theorem reload (app : Application) {after : Application} (hTable : after.historyTable =
      app.historyTable.reloadData (HistoryScreen.rowCounts platform after.world.realm)) :
    after.HistoryInStep platform := by
  constructor
  · intro inSection
    rw [hTable]
    exact Int.le_refl _
  · intro _
    rw [hTable]
    rfl
  · intro _ path cell hCell
    rw [hTable] at hCell
    cases hCell

theorem drawCell (h : app.HistoryInStep platform) {path : NSIndexPath} {now : NSDate}
    {cell : LKJHistoryTableViewCell}
    (hCell : HistoryScreen.cellForRow platform app.world.realm now path = .ok cell) :
    HistoryInStep platform { app with historyTable := app.historyTable.drawCell path cell } := by
  refine ⟨h.rows, h.shown, ?_⟩
  intro hShown other drawn hDrawn
  by_cases hSame : other = path
  · subst hSame
    have hNew : drawn = cell := by
      have hSelf := UITableView.drawCell_cells_self app.historyTable other cell
      exact Option.some.inj (hDrawn.symm.trans hSelf)
    obtain ⟨record, hRecord, hMade⟩ := bind_eq_ok.mp hCell
    obtain ⟨n, hIndex, hGet⟩ := objectAtIndex_eq_ok.mp hRecord
    cases hMade
    rw [NSIndex.position.injEq] at hIndex
    refine ⟨record, now, ?_, hNew⟩
    rw [hIndex, Int.toNat_natCast]
    exact hGet
  · have hOld := UITableView.drawCell_cells_of_ne app.historyTable cell hSame
    exact h.cells hShown other drawn (hOld.symm.trans hDrawn)

theorem takes (h : app.HistoryInStep platform) (hRefines : Refines app.world roster)
    (hTakes : app.Takes platform event after) : after.HistoryInStep platform := by
  -- a step that is no tap leaves the records alone
  have hSame : ∀ seen, app.lockEvent event = some seen →
      (∀ now, seen ≠ .changeLockStatus now) →
      after.world.realm.history = app.world.realm.history := by
    intro seen hSeen hNoTap
    rcases LockScreen.step_history hRefines (hTakes.labelled hSeen) with hSame |
      ⟨now, _, hTap, _⟩
    · exact hSame
    · exact absurd hTap (hNoTap now)
  cases hTakes with
  | idle => exact h
  | click sender =>
      refine h.frame rfl ?_ ?_
      · intro hShows
        exact absurd hShows.2 (showTab_not_appeared app sender)
      · rw [showTab_world]
  | selection path world transitions hCurrent hRow =>
      refine h.frame rfl ?_ ?_
      · intro hShows
        exact absurd hShows.2 (showTab_not_appeared _ 0)
      · exact hSame _ (lockEvent_didSelectRow hCurrent hRow) (by simp)
  | tap now screen hCurrent hVisible hScreen =>
      have hStep : lockScreenStep app.lockScreen (.changeLockStatus now) = .ok screen := hScreen
      have hHidden : ¬ (app.setLockScreen screen).ShowsHistory := by
        intro hShows
        have hBoth := hCurrent.symm.trans hShows.1
        cases hBoth
      rcases LockScreen.step_history hRefines hStep with hKept | ⟨_, record, _, _, hAdded⟩
      · exact h.frame rfl (fun hShows => absurd hShows hHidden) hKept
      · exact h.grow rfl hHidden hAdded
  | appearance =>
      by_cases hReload : app.tabs.appearance = .appearing ∧
          app.current = some .historyTableViewController
      · apply reload app
        rw [contentDidAppear_world]
        unfold contentDidAppear
        dsimp only
        rw [if_pos hReload]
        have hWorld : ({ app with tabs := app.tabs.contentDidAppear } : Application).world =
            app.world := by
          rw [← contentDidAppear_world platform app, world, world, contentDidAppear_tabs]
        rw [reloadHistory, hWorld]
      · apply h.frame
        · unfold contentDidAppear
          dsimp only
          rw [if_neg hReload]
        · intro hShows
          have hCurrent : app.current = some .historyTableViewController := by
            rw [← contentDidAppear_current platform app]
            exact hShows.1
          have hAppeared : app.tabs.appearance ≠ .appearing :=
            fun hAppearing => hReload ⟨hAppearing, hCurrent⟩
          have hAppearance := hShows.2
          rw [contentDidAppear_tabs,
            TabScreen.contentDidAppear_of_appeared hAppeared] at hAppearance
          exact ⟨hCurrent, hAppearance⟩
        · rw [contentDidAppear_world]
  | connectionDrawing => exact h.frame rfl id rfl
  | historyDrawing path now cell hCurrent hRow hCell => exact h.drawCell hCell
  | historyLoading => exact reload app rfl
  | controller event controllerEvent world hEvent =>
      exact h.frame rfl id (hSame _ (lockEvent_of_controllerEvent hEvent) (by simp))
  | radio peripheral answer => exact h.frame rfl id (hSame _ rfl (by simp))
  | delivery => exact h.frame rfl id (hSame _ rfl (by simp))
  | mainBlock connection hBlock =>
      have hWorld := (ConnectionScreen.runMainBlock_frame hBlock).1
      refine h.frame rfl id ?_
      rw [setConnection_world, hWorld]
      rfl

theorem of_run {peripherals : CBPeripheral → PeripheralObject} {realm : RLMRealm}
    {central : CBCentralManager} {start : Application}
    {history : History Application ApplicationEvent}
    (hLaunch : launch peripherals realm central = .ok start)
    (run : Run (applicationStep platform) start history app) : app.HistoryInStep platform := by
  apply run.induction fun _ state => state.HistoryInStep platform
  · rw [launch_eq] at hLaunch
    cases hLaunch
    constructor
    · intro inSection
      change 0 ≤ HistoryScreen.rowCounts platform _ inSection
      unfold HistoryScreen.rowCounts HistoryScreen.numberOfRows
      split
      · exact Int.natCast_nonneg _
      · exact Int.le_refl _
    · intro hShows
      exact absurd hShows.2 (showTab_not_appeared _ 1)
    · intro _ path cell hCell
      cases hCell
  · intro _ state event after prior hState hStep
    have hReached := Reached.of_run hLaunch prior
    obtain ⟨roster, hRefines, _⟩ := hReached.roster
    exact hState.takes hRefines (applicationStep_takes hReached.inStep.assembled hStep)

end HistoryInStep

end Application

/-- Whenever the history is shown its table has a row for every record, each record has one,
and a cell that was drawn shows the record at its row. -/
theorem history_table_shows_records {platform : Platform}
    {peripherals : CBPeripheral → PeripheralObject} {realm : RLMRealm}
    {central : CBCentralManager} {start app : Application}
    {history : History Application ApplicationEvent}
    (hLaunch : Application.launch peripherals realm central = .ok start)
    (run : Run (applicationStep platform) start history app) (hShows : app.ShowsHistory) :
    app.historyTable.numberOfRows 0 = app.world.realm.history.length ∧
      (HistoryScreen.results platform app.world.realm).Perm app.world.realm.history ∧
      ∀ path cell, app.historyTable.cells path = some cell → ∃ record now,
        (HistoryScreen.results platform app.world.realm)[path.row.toNat]? = some record ∧
          cell = .setHistoryItem platform.dateFormatter now record := by
  have hInStep := Application.HistoryInStep.of_run hLaunch run
  refine ⟨?_, platform.historySort.perm _, hInStep.cells hShows⟩
  rw [hInStep.shown hShows]
  exact HistoryScreen.rowCounts_zero

/-- A device is unlocked and locked, and the history is shown. -/
def toggleAndShowHistory : List ApplicationEvent :=
  touchAndToggle ++ [.buttonClicked 2, .contentDidAppear, .drawHistoryRow ⟨0, 0⟩ ⟨400, 32⟩]

theorem history_table_shows_two_records :
    ∃ start app, Application.launch freshWorld.peripherals freshWorld.realm
        freshWorld.central = .ok start ∧
      exec (applicationStep samplePlatform) start toggleAndShowHistory = .ok app ∧
      app.historyTable.numberOfRows 0 = 2 := by
  obtain ⟨start, app, hLaunch, hExec, hShows, hLength⟩ :
      ∃ start app, Application.launch freshWorld.peripherals freshWorld.realm
          freshWorld.central = .ok start ∧
        exec (applicationStep samplePlatform) start toggleAndShowHistory = .ok app ∧
        app.ShowsHistory ∧ app.world.realm.history.length = 2 :=
    ⟨_, _, rfl, rfl, ⟨rfl, rfl⟩, rfl⟩
  obtain ⟨hRows, _⟩ := history_table_shows_records hLaunch (run_of_exec hExec) hShows
  refine ⟨start, app, hLaunch, hExec, ?_⟩
  rw [hRows, hLength]
  rfl

namespace Application

/-- When the taps that reached the lock were made, in their order. -/
def tapTimes (history : History Application ApplicationEvent) : List NSDate :=
  (lockHistory history).filterMap fun entry => LockScreen.tapTime entry.2

/-- Dates that grow are sorted against their order. -/
theorem dates_descend {times : List NSDate} {records : List LKJHistory}
    (hDates : (records.map LKJHistory.activatedDate).Sublist (times.map some))
    (hClock : times.Pairwise fun first second => first.time < second.time) :
    records.Pairwise fun first second =>
      sorter false second.activatedDate first.activatedDate = true := by
  have hTimes : (times.map some).Pairwise fun first second =>
      sorter false second first = true := by
    apply List.pairwise_map.mpr
    apply hClock.imp
    intro first second hLater
    apply sorter_descending.mpr
    refine ⟨second, rfl, ?_⟩
    intro other hOther
    cases hOther
    exact hLater
  exact List.pairwise_map.mp (hTimes.sublist hDates)

end Application

/-- If the clock advances from tap to tap, and has passed every date that was stored before,
the history shows what was done since the launch first, the newest record on top, and below
it what was stored. -/
theorem history_shows_newest_first {platform : Platform}
    {peripherals : CBPeripheral → PeripheralObject} {realm : RLMRealm}
    {central : CBCentralManager} {start app : Application}
    {history : History Application ApplicationEvent}
    (hLaunch : Application.launch peripherals realm central = .ok start)
    (run : Run (applicationStep platform) start history app)
    (hClock : (Application.tapTimes history).Pairwise fun first second =>
      first.time < second.time)
    (hStored : ∀ record ∈ realm.history, ∀ date, record.activatedDate = some date →
      ∀ now ∈ Application.tapTimes history, date.time < now.time) :
    ∃ records others,
      List.Forall₂ (fun record (sent : World × Command) => record.Describes sent.1 sent.2)
        records (tapCommands (Application.lockHistory history)) ∧
      HistoryScreen.results platform app.world.realm = records.reverse ++ others ∧
      others.Perm realm.history := by
  have hLogged := Application.logged_of_run hLaunch run
  obtain ⟨records, hRecords, hDescribes⟩ := hLogged.recorded.records
  obtain ⟨dated, hDated, hDates⟩ := LockScreen.dates_of_run
    (Application.lockRun_of_run hLaunch run) ⟨.empty, Application.refines_of_launch hLaunch⟩
  obtain rfl : dated = records := List.append_cancel_left (hDated.symm.trans hRecords)
  have hRealm : app.world.realm.history = realm.history ++ dated := by
    have hStart := congrArg (fun world => world.realm.history)
      (Application.world_of_launch hLaunch)
    exact hDated.trans (congrArg (· ++ dated) hStart)
  have hLater : ∀ first ∈ dated, ∀ second ∈ realm.history,
      sorter false first.activatedDate second.activatedDate = true := by
    intro first hFirst second hSecond
    have hMem := hDates.subset (List.mem_map_of_mem hFirst)
    obtain ⟨now, hNow, hDate⟩ := List.mem_map.mp hMem
    apply sorter_descending.mpr
    exact ⟨now, hDate.symm, fun other hOther => hStored second hSecond other hOther now hNow⟩
  obtain ⟨others, hResults, hOthers⟩ := HistoryScreen.results_newest_first hRealm
    (Application.dates_descend hDates hClock) hLater
  exact ⟨dated, others, hDescribes, hResults, hOthers⟩

theorem history_shows_lock_above_unlock :
    ∃ start app, Application.launch freshWorld.peripherals freshWorld.realm
        freshWorld.central = .ok start ∧
      exec (applicationStep samplePlatform) start toggleAndShowHistory = .ok app ∧
      ∃ records, HistoryScreen.results samplePlatform app.world.realm = records.reverse ∧
        records = [⟨some ⟨200, 30⟩, false, some "Capsus"⟩, ⟨some ⟨300, 31⟩, true, some "Capsus"⟩] ∧
        List.Forall₂ (fun record (sent : World × Command) => record.Describes sent.1 sent.2)
          records (tapCommands (Application.lockHistory
            (historyOf (applicationStep samplePlatform) start toggleAndShowHistory))) := by
  obtain ⟨start, app, hLaunch, hExec, hTimes, hShown⟩ :
      ∃ start app, Application.launch freshWorld.peripherals freshWorld.realm
          freshWorld.central = .ok start ∧
        exec (applicationStep samplePlatform) start toggleAndShowHistory = .ok app ∧
        Application.tapTimes (historyOf (applicationStep samplePlatform) start
          toggleAndShowHistory) = [⟨200, 30⟩, ⟨300, 31⟩] ∧
        HistoryScreen.results samplePlatform app.world.realm =
          [⟨some ⟨300, 31⟩, true, some "Capsus"⟩, ⟨some ⟨200, 30⟩, false, some "Capsus"⟩] :=
    ⟨_, _, rfl, rfl, rfl, rfl⟩
  have hClock : (Application.tapTimes (historyOf (applicationStep samplePlatform) start
      toggleAndShowHistory)).Pairwise fun first second => first.time < second.time := by
    rw [hTimes, List.pairwise_pair]
    decide
  obtain ⟨records, others, hDescribes, hResults, hOthers⟩ :=
    history_shows_newest_first hLaunch (run_of_exec hExec) hClock (by simp [freshWorld])
  rw [List.perm_nil.mp hOthers, List.append_nil] at hResults
  refine ⟨start, app, hLaunch, hExec, records, hResults, ?_, hDescribes⟩
  rw [← List.reverse_inj, ← hResults, hShown]
  rfl

end LockJaw
