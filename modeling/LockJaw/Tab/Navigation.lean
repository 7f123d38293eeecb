import LockJaw.Connection.Rows
import LockJaw.Tab.Bar

/-! Navigation between the tabs. A selection on the connection screen asks the container
for the lock; the loss of the selected device makes the lock's controller ask for the
connection screen, through a delegate that nobody sets and of a container that knows one
class only. -/
namespace LockJaw

open Cocoa Semantics

/-- `LKJLockViewController`, as far as it takes part in the navigation. -/
structure LKJLockViewController where
  lockViewHidden : Bool
  noCapsusLabelHidden : Bool
  observesRefresh : Bool
  hasDelegate : Bool
deriving DecidableEq

namespace LKJLockViewController

def init : LKJLockViewController where
  lockViewHidden := false
  noCapsusLabelHidden := false
  observesRefresh := false
  hasDelegate := false

/-- `viewDidAppear:`, which registers for the notification. -/
def viewDidAppear (lock : LKJLockViewController) (existsBluetoothDevice : Bool) :
    LKJLockViewController :=
  if existsBluetoothDevice then
    { lock with lockViewHidden := false, noCapsusLabelHidden := true, observesRefresh := true }
  else { lock with lockViewHidden := true, noCapsusLabelHidden := false, observesRefresh := true }

def viewWillDisappear (lock : LKJLockViewController) : LKJLockViewController :=
  { lock with observesRefresh := false }

end LKJLockViewController

/-- The container with two of its contents, and how far the current one has appeared. The
third, the history, takes no part. -/
structure TabScreen where
  container : LKJTabViewController ViewControllerClass
  appearance : Appearance
  connection : ConnectionScreen
  lock : LKJLockViewController

namespace TabScreen

def current (screen : TabScreen) : Option ViewControllerClass :=
  screen.container.currentContentViewController

def contentWillDisappear (screen : TabScreen) : TabScreen :=
  match screen.current with
  | some .lockViewController => { screen with lock := screen.lock.viewWillDisappear }
  | some .connectionViewController =>
      { screen with connection := screen.connection.viewWillDisappear }
  | _ => screen

def contentWillAppear (screen : TabScreen) : TabScreen :=
  match screen.current with
  | some .connectionViewController =>
      { screen with connection := screen.connection.viewWillAppear }
  | _ => screen

/-- The content that was added has appeared. -/
def contentDidAppear (screen : TabScreen) : TabScreen :=
  if screen.appearance = .appearing then
    let screen := { screen with appearance := .appeared }
    match screen.current with
    | some .lockViewController => { screen with
        lock := screen.lock.viewDidAppear screen.connection.world.existsBluetoothDevice }
    | some .connectionViewController =>
        { screen with connection := screen.connection.viewDidAppear }
    | _ => screen
  else screen

/-- What the exchange of the content means to the contents. -/
def exchange (screen : TabScreen) (container : LKJTabViewController ViewControllerClass) :
    TabScreen :=
  let screen := screen.contentWillDisappear
  contentWillAppear { screen with container := container, appearance := .appearing }

def buttonClicked (screen : TabScreen) (sender : Nat) : Except NSException TabScreen := do
  let container ← screen.container.buttonClicked sender
  return screen.exchange container

def selectButtonAtIndex (screen : TabScreen) (index : Int) : Except NSException TabScreen := do
  let container ← screen.container.selectButtonAtIndex index
  return screen.exchange container

/-- `viewController:shouldTransitionToViewControllerOfClass:`, with its effect on the
contents. -/
def shouldTransition (screen : TabScreen) (viewController controllerClass : ViewControllerClass) :
    Except NSException TabScreen :=
  if some viewController = screen.current then
    if controllerClass = .lockViewController then
      screen.selectButtonAtIndex kLKJControlLockIndex
    else .ok screen
  else .ok screen

/-- `lostConnected:` of the lock's controller. It does not read the notification. -/
def lostConnected (screen : TabScreen) : Except NSException TabScreen :=
  if screen.lock.hasDelegate then
    screen.shouldTransition .lockViewController .connectionViewController
  else .ok screen

/-- A delivery of the refresh notification to its only observer. -/
def refreshConnected (screen : TabScreen) (_shouldReset : Bool) : Except NSException TabScreen :=
  if screen.lock.observesRefresh then screen.lostConnected else .ok screen

/-- A tap on a row of the connection screen, if that is the content. Its requests go to the
container. -/
def didSelectRow (screen : TabScreen) (path : NSIndexPath) : Except NSException TabScreen :=
  if screen.current = some .connectionViewController then do
    let connection ← screen.connection.didSelectRow path
    let requests := connection.transitions.drop screen.connection.transitions.length
    requests.foldlM (fun screen => screen.shouldTransition .connectionViewController)
      { screen with connection := connection }
  else .ok screen

/-- Run the first block of `notificationQueue`, with the handlers of what it posts. -/
def runNotificationBlock (screen : TabScreen) : Except NSException TabScreen :=
  let posted := screen.connection.world.runNotificationBlock.1
  let screen := { screen with connection := screen.connection.runNotificationBlock }
  match posted with
  | some (.shouldRefreshConnectedBluetoothDevices shouldReset) =>
      screen.refreshConnected shouldReset
  | _ => .ok screen

/-- `viewDidLoad` of the container, which sets the delegate of the connection screen. -/
def viewDidLoad (world : World) : Except NSException TabScreen :=
  let screen : TabScreen := {
    container := .setUp lockJawTabs lockJawControllers
    appearance := .hidden
    connection := .viewDidLoad world true
    lock := .init }
  if world.existsBluetoothDevice then screen.selectButtonAtIndex kLKJControlLockIndex
  else screen.selectButtonAtIndex kLKJConnectLockIndex

end TabScreen

/-- What can happen to the application's screens. -/
inductive NavigationEvent where
  | buttonClicked (sender : Nat)
  | didSelectRow (path : NSIndexPath)
  | refreshConnected (shouldReset : Bool)
  | contentDidAppear
  | controller (event : ControllerEvent)
  | runMainBlock

def navigationStep (screen : TabScreen) : NavigationEvent → Except NSException TabScreen
  | .buttonClicked sender => screen.buttonClicked sender
  | .didSelectRow path => screen.didSelectRow path
  | .refreshConnected shouldReset => screen.refreshConnected shouldReset
  | .contentDidAppear => .ok screen.contentDidAppear
  | .controller .runNotificationBlock => screen.runNotificationBlock
  | .controller event => do
      let world ← screen.connection.world.step event
      return { screen with connection.world := world }
  | .runMainBlock => do
      let connection ← screen.connection.runMainBlock
      return { screen with connection := connection }

/-- The object of the refresh notification that an event delivers. -/
def NavigationEvent.delivers (screen : TabScreen) : NavigationEvent → Option Bool
  | .refreshConnected shouldReset => some shouldReset
  | .controller .runNotificationBlock =>
      match screen.connection.world.runNotificationBlock.1 with
      | some (.shouldRefreshConnectedBluetoothDevices shouldReset) => some shouldReset
      | _ => none
  | _ => none

namespace ConnectionScreen

section Delegate
variable {screen after : ConnectionScreen}

theorem runNotificationBlock_hasDelegate :
    screen.runNotificationBlock.hasDelegate = screen.hasDelegate := by
  have hObserve : ∀ (state : ConnectionScreen) (posted : NSNotification),
      (state.observe posted).hasDelegate = state.hasDelegate := by
    intro state posted
    unfold observe
    split
    · split <;> rfl
    · split
      · rfl
      · unfold lostBluetoothDevice
        dsimp only
        split <;> rfl
    · rfl
  unfold runNotificationBlock
  dsimp only
  split
  · exact hObserve _ _
  · rfl

theorem runMainBlock_hasDelegate (hStep : screen.runMainBlock = .ok after) :
    after.hasDelegate = screen.hasDelegate := by
  unfold runMainBlock at hStep
  split at hStep
  · cases hStep
    rfl
  · obtain ⟨_, tableView, rfl⟩ := newBluetoothDevice_eq_ok hStep
    unfold setNumberOfRows
    split <;> rfl
  · obtain ⟨tableView, _, rfl⟩ := deleteRow_eq_ok hStep
    rfl

/-- A tap on a row that selects asks the delegate for the lock, once. -/
theorem didSelectRow_request {path : NSIndexPath} (hDelegate : screen.hasDelegate = true)
    (hStep : screen.didSelectRow path = .ok after) :
    after.hasDelegate = true ∧
      after.transitions.drop screen.transitions.length = [.lockViewController] := by
  obtain ⟨world, _, hAfter⟩ := bind_eq_ok.mp hStep
  dsimp only at hAfter
  rw [if_pos hDelegate] at hAfter
  cases hAfter
  exact ⟨hDelegate, List.drop_left⟩

end Delegate

end ConnectionScreen

namespace TabScreen

/-- The lock is the current content and has appeared. -/
def ShowsLock (screen : TabScreen) : Prop :=
  screen.current = some .lockViewController ∧ screen.appearance = .appeared

/-- What the navigation should do in one step. -/
structure MeetsLaw (screen : TabScreen) (event : NavigationEvent) (after : TabScreen) : Prop where
  lost : event.delivers screen = some true → screen.ShowsLock →
    after.current = some .connectionViewController
  other : ∀ shouldReset, event.delivers screen = some shouldReset →
    shouldReset = false ∨ screen.current ≠ some .lockViewController →
    after.current = screen.current
  chosen : ∀ path, event = .didSelectRow path →
    screen.current = some .connectionViewController →
    after.current = some .lockViewController

/-- One of the three tabs is shown, and the connection screen has its delegate. -/
structure Navigable (screen : TabScreen) : Prop where
  container : ∃ i, i < 3 ∧
    screen.container = .showing lockJawTabs lockJawControllers (some i)
  delegate : screen.connection.hasDelegate = true

section Navigation
variable {screen after : TabScreen}

theorem exchange_container (container : LKJTabViewController ViewControllerClass) :
    (screen.exchange container).container = container := by
  unfold exchange contentWillAppear
  dsimp only
  split <;> rfl

theorem exchange_hasDelegate (container : LKJTabViewController ViewControllerClass) :
    (screen.exchange container).connection.hasDelegate = screen.connection.hasDelegate := by
  have hLeft : screen.contentWillDisappear.connection.hasDelegate =
      screen.connection.hasDelegate := by
    unfold contentWillDisappear
    split <;> rfl
  rw [← hLeft]
  unfold exchange contentWillAppear
  dsimp only
  split <;> rfl

/-- The container has no tab to offer to the lock's controller. -/
theorem lostConnected_eq (screen : TabScreen) : screen.lostConnected = .ok screen := by
  unfold lostConnected shouldTransition
  split
  · split
    · exact if_neg (by decide)
    · rfl
  · rfl

/-- No notice of a lost connection changes the screen. -/
theorem refreshConnected_eq (screen : TabScreen) (shouldReset : Bool) :
    screen.refreshConnected shouldReset = .ok screen := by
  unfold refreshConnected
  split
  · exact lostConnected_eq screen
  · rfl

/-- A delivery changes the connection screen alone. -/
theorem runNotificationBlock_eq (screen : TabScreen) :
    screen.runNotificationBlock =
      .ok { screen with connection := screen.connection.runNotificationBlock } := by
  unfold runNotificationBlock
  dsimp only
  split
  · exact refreshConnected_eq _ _
  · rfl

/-- No delivery changes the content. -/
theorem current_of_delivers {event : NavigationEvent} {shouldReset : Bool}
    (hDelivers : event.delivers screen = some shouldReset)
    (hStep : navigationStep screen event = .ok after) : after.current = screen.current := by
  cases event with
  | refreshConnected =>
      rw [navigationStep, refreshConnected_eq] at hStep
      cases hStep
      rfl
  | controller event =>
      cases event with
      | runNotificationBlock =>
          rw [navigationStep, runNotificationBlock_eq] at hStep
          cases hStep
          rfl
      | _ => cases hDelivers
  | _ => cases hDelivers

/-- A click on one of the three tabs shows that tab and keeps the delegate. -/
theorem Navigable.exchange (h : screen.Navigable) {sender : Nat} (hSender : sender < 3) :
    (screen.exchange (.showing lockJawTabs lockJawControllers (some sender))).Navigable where
  container := ⟨sender, hSender, exchange_container _⟩
  delegate := by rw [exchange_hasDelegate, h.delegate]

/-- So does any click that does not raise. -/
theorem Navigable.buttonClicked (h : screen.Navigable) {sender : Nat}
    (hStep : screen.buttonClicked sender = .ok after) : after.Navigable := by
  obtain ⟨i, _, hContainer⟩ := h.container
  obtain ⟨container, hClick, hAfter⟩ := bind_eq_ok.mp hStep
  rw [hContainer] at hClick
  have hCount : lockJawControllers.length = lockJawTabs.length := rfl
  obtain ⟨hSender, rfl⟩ := LKJTabViewController.buttonClicked_cases hCount hClick
  cases hAfter
  exact h.exchange hSender

/-- The first tab can be selected from any other. -/
theorem Navigable.selectLock (h : screen.Navigable)
    (hStep : screen.selectButtonAtIndex kLKJControlLockIndex = .ok after) :
    after.Navigable ∧ after.current = some .lockViewController := by
  obtain ⟨i, _, hContainer⟩ := h.container
  obtain ⟨container, hSelect, hAfter⟩ := bind_eq_ok.mp hStep
  rw [hContainer] at hSelect
  have hCount : lockJawControllers.length = lockJawTabs.length := rfl
  obtain ⟨sender, hIndex, hSender, rfl⟩ :=
    LKJTabViewController.selectButtonAtIndex_cases hCount hSelect
  have hZero : sender = 0 := by
    rw [kLKJControlLockIndex] at hIndex
    omega
  subst hZero
  cases hAfter
  refine ⟨h.exchange hSender, ?_⟩
  rw [TabScreen.current, exchange_container]
  rfl

/-- A selection on the connection screen makes the lock the content. -/
theorem Navigable.didSelectRow (h : screen.Navigable) {path : NSIndexPath}
    (hStep : screen.didSelectRow path = .ok after) :
    after.Navigable ∧ (screen.current = some .connectionViewController →
      after.current = some .lockViewController) := by
  unfold TabScreen.didSelectRow at hStep
  split at hStep
  · rename_i hCurrent
    obtain ⟨connection, hSelect, hRequests⟩ := bind_eq_ok.mp hStep
    obtain ⟨hDelegate, hRequest⟩ := ConnectionScreen.didSelectRow_request h.delegate hSelect
    dsimp only at hRequests
    rw [hRequest, List.foldlM_cons] at hRequests
    obtain ⟨next, hTransition, hNext⟩ := bind_eq_ok.mp hRequests
    cases hNext
    have hNavigable : Navigable { screen with connection := connection } :=
      ⟨h.container, hDelegate⟩
    have hSame : some .connectionViewController =
        TabScreen.current { screen with connection := connection } := hCurrent.symm
    rw [shouldTransition, if_pos hSame, if_pos rfl] at hTransition
    obtain ⟨hAfter, hLock⟩ := hNavigable.selectLock hTransition
    exact ⟨hAfter, fun _ => hLock⟩
  · rename_i hOther
    cases hStep
    exact ⟨h, fun hCurrent => absurd hCurrent hOther⟩

/-- An appearance exchanges no controllers. -/
theorem Navigable.contentDidAppear (h : screen.Navigable) : screen.contentDidAppear.Navigable := by
  obtain ⟨hContainer, hDelegate⟩ := h
  unfold TabScreen.contentDidAppear
  split
  · dsimp only
    split
    · exact ⟨hContainer, hDelegate⟩
    · exact ⟨hContainer, hDelegate⟩
    · exact ⟨hContainer, hDelegate⟩
  · exact ⟨hContainer, hDelegate⟩

/-- Every step leaves one of the three tabs shown. -/
theorem Navigable.step (h : screen.Navigable) {event : NavigationEvent}
    (hStep : navigationStep screen event = .ok after) : after.Navigable := by
  cases event with
  | buttonClicked sender => exact h.buttonClicked hStep
  | didSelectRow path => exact (h.didSelectRow hStep).1
  | refreshConnected shouldReset =>
      rw [navigationStep, refreshConnected_eq] at hStep
      cases hStep
      exact h
  | contentDidAppear =>
      cases hStep
      exact h.contentDidAppear
  | runMainBlock =>
      obtain ⟨connection, hBlock, hAfter⟩ := bind_eq_ok.mp hStep
      cases hAfter
      exact ⟨h.container, (ConnectionScreen.runMainBlock_hasDelegate hBlock).trans h.delegate⟩
  | controller event =>
      by_cases hDelivery : event = .runNotificationBlock
      · subst hDelivery
        rw [navigationStep, runNotificationBlock_eq] at hStep
        cases hStep
        exact ⟨h.container, ConnectionScreen.runNotificationBlock_hasDelegate.trans h.delegate⟩
      · have hSame : after.container = screen.container ∧
            after.connection.hasDelegate = screen.connection.hasDelegate := by
          cases event <;> first
            | exact absurd rfl hDelivery
            | obtain ⟨world, _, hAfter⟩ := bind_eq_ok.mp hStep
              cases hAfter
              exact ⟨rfl, rfl⟩
        obtain ⟨hContainer, hDelegate⟩ := hSame
        exact ⟨hContainer ▸ h.container, hDelegate.trans h.delegate⟩

/-- The container shows one of its tabs from the start. -/
theorem navigable_of_viewDidLoad {world : World} (hStart : viewDidLoad world = .ok screen) :
    screen.Navigable := by
  have hCount : lockJawControllers.length = lockJawTabs.length := rfl
  have hSelect : ∀ (loaded : TabScreen) (index : Int),
      loaded.container = .setUp lockJawTabs lockJawControllers →
      loaded.connection.hasDelegate = true → loaded.selectButtonAtIndex index = .ok screen →
      screen.Navigable := by
    intro loaded index hContainer hDelegate hStep
    obtain ⟨container, hClick, hAfter⟩ := bind_eq_ok.mp hStep
    rw [hContainer, LKJTabViewController.setUp_eq_showing] at hClick
    obtain ⟨sender, _, hSender, rfl⟩ :=
      LKJTabViewController.selectButtonAtIndex_cases hCount hClick
    cases hAfter
    exact ⟨⟨sender, hSender, exchange_container _⟩, (exchange_hasDelegate _).trans hDelegate⟩
  unfold viewDidLoad at hStart
  dsimp only at hStart
  split at hStart
  · exact hSelect _ _ rfl rfl hStart
  · exact hSelect _ _ rfl rfl hStart

end Navigation

end TabScreen

/-- In every run the navigation does what it should exactly when no loss of the selected
device is delivered while the lock is shown. -/
theorem navigation_meets_law_iff {world : World} {start screen : TabScreen}
    {history : History TabScreen NavigationEvent} (hStart : TabScreen.viewDidLoad world = .ok start)
    (run : Run navigationStep start history screen) :
    (∀ entry ∈ history, ∀ after, navigationStep entry.1 entry.2 = .ok after →
      entry.1.MeetsLaw entry.2 after) ↔
    ∀ entry ∈ history, entry.2.delivers entry.1 = some true → ¬ entry.1.ShowsLock := by
  have hEntry : ∀ entry ∈ history, entry.1.Navigable ∧
      ∃ after, navigationStep entry.1 entry.2 = .ok after := by
    intro entry hMem
    obtain ⟨prior, after, hPrior, hStep⟩ := run.step_of_mem hMem
    refine ⟨?_, after, hStep⟩
    exact hPrior.invariant TabScreen.Navigable (TabScreen.navigable_of_viewDidLoad hStart)
      fun _ _ _ hState hNext => hState.step hNext
  constructor
  · intro hLaw entry hMem hDelivers hShows
    obtain ⟨_, after, hStep⟩ := hEntry entry hMem
    have hAfter := (hLaw entry hMem after hStep).lost hDelivers hShows
    rw [TabScreen.current_of_delivers hDelivers hStep, hShows.1] at hAfter
    cases hAfter
  · intro hNever entry hMem after hStep
    obtain ⟨hNavigable, _⟩ := hEntry entry hMem
    refine ⟨?_, ?_, ?_⟩
    · intro hDelivers hShows
      exact absurd hShows (hNever entry hMem hDelivers)
    · intro shouldReset hDelivers _
      exact TabScreen.current_of_delivers hDelivers hStep
    · intro path hEvent hCurrent
      rw [hEvent] at hStep
      exact (hNavigable.didSelectRow hStep).2 hCurrent

/-- A device is discovered and selected on the connection screen, and the lock appears. -/
def selectFrontDoor : List NavigationEvent :=
  [.contentDidAppear, .controller (.didDiscoverPeripheral frontDoor ⟨100, 20⟩),
    .didSelectRow ⟨1, 1⟩, .contentDidAppear]

/-- The loss is delivered while another tab is shown. -/
def loseOnHistory : List NavigationEvent :=
  selectFrontDoor ++ [.refreshConnected false, .buttonClicked 2, .refreshConnected true]

theorem navigation_meets_law_on_history :
    ∃ start screen, TabScreen.viewDidLoad freshWorld = .ok start ∧
      exec navigationStep start loseOnHistory = .ok screen ∧
      screen.current = some .historyTableViewController ∧
      ∀ entry ∈ historyOf navigationStep start loseOnHistory, ∀ after,
        navigationStep entry.1 entry.2 = .ok after → entry.1.MeetsLaw entry.2 after := by
  obtain ⟨start, hStart, screen, hExec, hCurrent, first, second, third, fourth, fifth, last,
      hHistory, hLast⟩ :
      ∃ start, TabScreen.viewDidLoad freshWorld = .ok start ∧
        ∃ screen, exec navigationStep start loseOnHistory = .ok screen ∧
          screen.current = some .historyTableViewController ∧
          ∃ first second third fourth fifth last,
            historyOf navigationStep start loseOnHistory =
              [(start, .contentDidAppear),
                (first, .controller (.didDiscoverPeripheral frontDoor ⟨100, 20⟩)),
                (second, .didSelectRow ⟨1, 1⟩), (third, .contentDidAppear),
                (fourth, .refreshConnected false), (fifth, .buttonClicked 2),
                (last, .refreshConnected true)] ∧
            last.current = some .historyTableViewController :=
    ⟨_, rfl, _, rfl, rfl, _, _, _, _, _, _, rfl, rfl⟩
  refine ⟨start, screen, hStart, hExec, hCurrent, ?_⟩
  apply (navigation_meets_law_iff hStart (run_of_exec hExec)).mpr
  intro entry hEntry hDelivers hShows
  rw [hHistory] at hEntry
  simp only [List.mem_cons, List.not_mem_nil, or_false] at hEntry
  rcases hEntry with rfl | rfl | rfl | rfl | rfl | rfl | rfl
  · cases hDelivers
  · cases hDelivers
  · cases hDelivers
  · cases hDelivers
  · cases hDelivers
  · cases hDelivers
  · rw [hShows.1] at hLast
    cases hLast

/-- The loss is delivered while the lock is shown and observes it, and the lock stays. -/
theorem lost_device_stays_on_lock :
    ∃ start screen after, TabScreen.viewDidLoad freshWorld = .ok start ∧
      exec navigationStep start selectFrontDoor = .ok screen ∧ screen.ShowsLock ∧
      screen.lock.observesRefresh = true ∧
      navigationStep screen (.refreshConnected true) = .ok after ∧
      after.current = some .lockViewController ∧
      ¬ screen.MeetsLaw (.refreshConnected true) after := by
  refine ⟨_, _, _, rfl, rfl, ⟨rfl, rfl⟩, rfl, rfl, rfl, ?_⟩
  intro hLaw
  have hLost := hLaw.lost rfl ⟨rfl, rfl⟩
  cases hLost

end LockJaw
