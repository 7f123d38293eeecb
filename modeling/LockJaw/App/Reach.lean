import LockJaw.App.Foreground
import LockJaw.App.Sessions
import LockJaw.App.Touches

/-! What the user can always do. No state of the application is a dead end: whoever was
heard of has a row, its row leads to the lock, and the lock takes the tap. -/
namespace LockJaw

open Cocoa Semantics

/-- The devices, what they were sent and what was recorded are the same; the lists and the
selection may differ. -/
structure World.SameEffects (world after : World) : Prop where
  peripherals : after.peripherals = world.peripherals
  central : after.central = world.central
  history : after.realm.history = world.realm.history

namespace World

section Effects
variable {world after : World} {peripheral : CBPeripheral}

/-- A toggle depends on the device and not on the lists. -/
theorem SameEffects.toggled (h : world.SameEffects after) (peripheral : CBPeripheral)
    (now : NSDate) :
    (after.toggled peripheral now).central = (world.toggled peripheral now).central ∧
      (after.toggled peripheral now).realm.history =
        (world.toggled peripheral now).realm.history := by
  have hState : after.state peripheral = world.state peripheral := by
    rw [state, h.peripherals]
    rfl
  unfold World.toggled
  rw [hState, h.peripherals]
  cases world.state peripheral with
  | connected =>
      constructor
      · let command := Command.cancelPeripheralConnection peripheral
        exact congrArg (fun central : CBCentralManager =>
          { central with commands := central.commands ++ [command] }) h.central
      · exact congrArg (· ++ _) h.history
  | disconnected =>
      constructor
      · let command := Command.connectPeripheral peripheral
        exact congrArg (fun central : CBCentralManager =>
          { central with commands := central.commands ++ [command] }) h.central
      · exact congrArg (· ++ _) h.history
  | connecting => exact ⟨h.central, h.history⟩
  | disconnecting => exact ⟨h.central, h.history⟩

/-- A listed device stands in one of the two sections. -/
theorem Listed.position (h : world.Listed peripheral) :
    ∃ (inSection : Int) (n : Nat), (inSection = 0 ∨ inSection = 1) ∧
      (world.devices inSection)[n]? = some peripheral := by
  rcases h with hKnown | hDiscovered
  · obtain ⟨n, hGet⟩ := List.mem_iff_getElem?.mp hKnown
    exact ⟨0, n, .inl rfl, hGet⟩
  · obtain ⟨n, hGet⟩ := List.mem_iff_getElem?.mp hDiscovered
    exact ⟨1, n, .inr rfl, hGet⟩

end Effects

end World

namespace Application

section Gestures
variable {platform : Platform} {app state : Application}
  {history : History Application ApplicationEvent} {peripheral : CBPeripheral}

/-- A tab is chosen and appears. -/
def openTab (platform : Platform) (app : Application) (sender : Nat) : Application :=
  (app.showTab sender).contentDidAppear platform

/-- Opening a tab leaves the controller alone. -/
theorem openTab_world (platform : Platform) (app : Application) (sender : Nat) :
    (app.openTab platform sender).world = app.world := by
  rw [openTab, contentDidAppear_world, showTab_world]

/-- An opened tab is shown. -/
theorem openTab_current (app : Application) (sender : Nat) :
    (app.openTab platform sender).current = lockJawControllers[sender]? := by
  rw [openTab, contentDidAppear_current, showTab_current]

theorem openTab_appearance (app : Application) (sender : Nat) :
    (app.openTab platform sender).tabs.appearance = .appeared :=
  contentDidAppear_appearance (showTab_appearance app sender)

theorem Reached.contentDidAppear (h : Reached history app) (platform : Platform) :
    Reached (history ++ [(app, .contentDidAppear)]) (app.contentDidAppear platform) :=
  h.step rfl

/-- An opened tab is reached by a click and an appearance. -/
theorem Reached.openTab (h : Reached history app) (platform : Platform) {sender : Nat}
    (hSender : sender < 3) :
    Reached (history ++ [(app, .buttonClicked sender)] ++
      [(app.showTab sender, .contentDidAppear)]) (app.openTab platform sender) := by
  have hClick : applicationStep platform app (.buttonClicked sender) =
      .ok (app.showTab sender) := buttonClicked_eq h.inStep.assembled hSender
  exact (h.step hClick).contentDidAppear platform

/-- An opened tab leaves the rows in step. -/
theorem RowsInStep.openTab (h : app.RowsInStep) (platform : Platform) (sender : Nat) :
    (app.openTab platform sender).RowsInStep :=
  (RowsInStep.showTab h.free h.table).contentDidAppear

/-- The connection screen appears with its rows counted anew. -/
theorem openTab_numberOfRows (platform : Platform) (app : Application) {inSection : Int}
    (hSection : inSection = 0 ∨ inSection = 1) :
    (app.openTab platform 1).tabs.connection.numberOfRows inSection =
      ConnectionScreen.recount app.world inSection := by
  have hCurrent : (app.showTab 1).current = some .connectionViewController :=
    showTab_current app 1
  rw [openTab, contentDidAppear_connection (showTab_appearance app 1), if_pos hCurrent,
    showTab_connection]
  rcases hSection with rfl | rfl
  · rfl
  · rfl

/-- A state that the drawing of rows leads to from the opened connection screen. The rows are
as many as the devices call for. -/
structure Draws (app state : Application) : Prop where
  reached : ∃ history, Reached history state
  rows : state.RowsInStep
  shows : state.ShowsConnection
  world : state.world = app.world
  counts : ∀ inSection, inSection = 0 ∨ inSection = 1 →
    state.tabs.connection.numberOfRows inSection =
      ConnectionScreen.recount app.world inSection

/-- The connection screen opens in such a state. -/
theorem Reached.draws (h : Reached history app) (hRows : app.RowsInStep)
    (platform : Platform) : app.Draws (app.openTab platform 1) where
  reached := ⟨_, h.openTab platform (by decide)⟩
  rows := hRows.openTab platform 1
  shows := ⟨openTab_current app 1, openTab_appearance app 1⟩
  world := openTab_world platform app 1
  counts := fun _ hSection => openTab_numberOfRows platform app hSection

/-- Every row can be drawn, since it has a device. -/
theorem Draws.draw (h : app.Draws state) (platform : Platform) (path : NSIndexPath) :
    ∃ after, applicationStep platform state (.drawConnectionRow path) = .ok after ∧
      app.Draws after := by
  obtain ⟨history, hReached⟩ := h.reached
  obtain ⟨roster, hRefines, _⟩ := hReached.roster
  have hDrawn : ¬ state.Raises (.drawConnectionRow path) := by
    rintro ⟨_, hRow, hMissing⟩
    have hCount := h.counts path.inSection (h.rows.table.inSection hRow)
    have hDevices := ConnectionScreen.numberOfDevicesInSection_nonneg app.world path.inSection
    rw [h.world] at hMissing
    rw [UITableView.hasRow, h.rows.table.rows, hCount, ConnectionScreen.recount,
      decide_eq_true_eq] at hRow
    split at hRow
    · omega
    · omega
  obtain ⟨after, hAfter⟩ := drawConnectionRow_completes h.rows.table hDrawn
  have hStep : applicationStep platform state (.drawConnectionRow path) = .ok after := hAfter
  have hTakes := applicationStep_takes hReached.inStep.assembled hStep
  have hRows := h.rows.takes hRefines hTakes
  refine ⟨after, hStep, ?_⟩
  cases hTakes with
  | idle => exact h
  | connectionDrawing =>
      exact ⟨⟨_, hReached.step hStep⟩, hRows, h.shows, h.world, h.counts⟩
  | controller _ _ _ hEvent => cases hEvent

/-- So can any number of rows, one after the other. -/
theorem Draws.drawing (h : app.Draws state) (platform : Platform) (drawn : List NSIndexPath) :
    ∃ after, exec (applicationStep platform) state (drawn.map .drawConnectionRow) =
      .ok after ∧ app.Draws after := by
  apply exec_completes (fun event => ∃ path, event = .drawConnectionRow path) app.Draws
  · rintro state _ hState ⟨path, rfl⟩
    exact hState.draw platform path
  · exact h
  · intro event hEvent
    obtain ⟨path, _, rfl⟩ := List.mem_map.mp hEvent
    exact ⟨path, rfl⟩

end Gestures

section Launch
variable {platform : Platform} {peripherals : CBPeripheral → PeripheralObject}
  {realm : RLMRealm} {central : CBCentralManager} {start app : Application}
  {history : History Application ApplicationEvent} {peripheral : CBPeripheral}

end Launch

end Application

end LockJaw
