import LockJaw.Tab.Button
import LockJaw.Connection.Screen

/-! The tab bar, `LKJTabView`, and the container behind it, `LKJTabViewController`. A
click repaints two buttons, remembers the sender and runs the container's block, which
exchanges the content: three records of one selection. -/
namespace LockJaw

open Cocoa Semantics

structure LKJTabItem where
  image : String
  caption : String
deriving DecidableEq

namespace UIColor

def lkj_navyColor : UIColor := ⟨44 / 255, 62 / 255, 80 / 255, 1⟩

def lkj_lightNavyColor : UIColor := ⟨94 / 255, 124 / 255, 154 / 255, 1⟩

end UIColor

/-- The tab bar. A button is referred to by its place in `buttonArray`. -/
structure LKJTabView where
  buttonArray : List LKJCaptionedButton
  selectedButton : Option Nat
  hasActionBlock : Bool
deriving DecidableEq

namespace LKJTabView

/-- `commonInit`. -/
def init : LKJTabView where
  buttonArray := []
  selectedButton := none
  hasActionBlock := false

/-- The button of one item, as the loop of `setTabItems:` makes it. -/
def tabButton (i : Nat) (item : LKJTabItem) : LKJCaptionedButton :=
  let button := LKJCaptionedButton.initWithImage item.image item.caption
  let button := button.setStandardColor .lkj_navyColor
  let button := button.setSelectedColor .lkj_lightNavyColor
  { button with tag := i }

def setTabItems (tabView : LKJTabView) (tabItems : List LKJTabItem) : LKJTabView :=
  { tabView with buttonArray := tabItems.mapIdx tabButton }

/-- `button.selected = selected` for one of the buttons. -/
def setSelected (tabView : LKJTabView) (button : Nat) (selected : Bool) : LKJTabView :=
  { tabView with
    buttonArray := tabView.buttonArray.modify button fun button => button.setSelected selected }

/-- How `buttonClicked:` exchanges the selected button for the sender. -/
def exchangeSelected (tabView : LKJTabView) (sender : Nat) : LKJTabView :=
  let tabView := match tabView.selectedButton with
    | some selectedButton => tabView.setSelected selectedButton false
    | none => tabView
  { tabView.setSelected sender true with selectedButton := some sender }

end LKJTabView

/-- The container. A subview of the content view is named by the controller whose view
it is. -/
structure LKJTabViewController (Controller : Type) where
  tabView : LKJTabView
  viewControllers : List Controller
  currentContentViewController : Option Controller
  childViewControllers : List Controller
  contentSubviews : List Controller
deriving DecidableEq

def kLKJControlLockIndex : Int := 0

def kLKJConnectLockIndex : Int := 1

namespace LKJTabViewController

variable {Controller : Type} [DecidableEq Controller]

/-- What `viewDidLoad` sets once, before anything is selected. -/
def setUp (tabItems : List LKJTabItem) (viewControllers : List Controller) :
    LKJTabViewController Controller where
  tabView := { LKJTabView.init.setTabItems tabItems with hasActionBlock := true }
  viewControllers := viewControllers
  currentContentViewController := none
  childViewControllers := []
  contentSubviews := []

/-- The current content leaves the container, its view first. -/
def removeContent (container : LKJTabViewController Controller) :
    LKJTabViewController Controller :=
  match container.currentContentViewController with
  | some current => { container with
      contentSubviews := container.contentSubviews.erase current
      childViewControllers := container.childViewControllers.erase current }
  | none => container

/-- The `actionBlock` of the tab bar. Adding a child or a subview that is there already
moves it to the end. -/
def actionBlock (container : LKJTabViewController Controller) (index : Int) :
    Except NSException (LKJTabViewController Controller) := do
  let container := container.removeContent
  let current ← objectAtIndex container.viewControllers (.position index)
  return { container with
    currentContentViewController := some current
    childViewControllers := container.childViewControllers.erase current ++ [current]
    contentSubviews := container.contentSubviews.erase current ++ [current] }

/-- `buttonClicked:`, sent by a button of the bar. -/
def buttonClicked (container : LKJTabViewController Controller) (sender : Nat) :
    Except NSException (LKJTabViewController Controller) := do
  if container.tabView.hasActionBlock then
    let tabView := container.tabView.exchangeSelected sender
    let button ← objectAtIndex tabView.buttonArray (.position sender)
    actionBlock { container with tabView := tabView } button.tag
  else return container

def selectButtonAtIndex (container : LKJTabViewController Controller) (index : Int) :
    Except NSException (LKJTabViewController Controller) := do
  let _ ← objectAtIndex container.tabView.buttonArray (.position index)
  container.buttonClicked index.toNat

/-- `viewController:shouldTransitionToViewControllerOfClass:`. -/
def shouldTransition (container : LKJTabViewController Controller) (viewController : Controller)
    (controllerClass : ViewControllerClass) :
    Except NSException (LKJTabViewController Controller) :=
  if some viewController = container.currentContentViewController then
    if controllerClass = .lockViewController then
      container.selectButtonAtIndex kLKJControlLockIndex
    else .ok container
  else .ok container

end LKJTabViewController

inductive TabEvent (Controller : Type) where
  | buttonClicked (sender : Nat)
  | selectButtonAtIndex (index : Int)
  | shouldTransition (viewController : Controller) (controllerClass : ViewControllerClass)

def tabStep {Controller : Type} [DecidableEq Controller]
    (container : LKJTabViewController Controller) :
    TabEvent Controller → Except NSException (LKJTabViewController Controller)
  | .buttonClicked sender => container.buttonClicked sender
  | .selectButtonAtIndex index => container.selectButtonAtIndex index
  | .shouldTransition viewController controllerClass =>
      container.shouldTransition viewController controllerClass

/-- The event is a click or a selection. -/
def TabEvent.selects {Controller : Type} : TabEvent Controller → Bool
  | .shouldTransition _ _ => false
  | _ => true

section Painting
variable {items : List LKJTabItem}

theorem LKJCaptionedButton.setSelected_setSelected (button : LKJCaptionedButton)
    (first second : Bool) :
    (button.setSelected first).setSelected second = button.setSelected second := by
  cases first <;> cases second <;> rfl

/-- The buttons of the items, with the selected one in its own colour. -/
def paintedButtons (items : List LKJTabItem) (selected : Option Nat) :
    List LKJCaptionedButton :=
  items.mapIdx fun i item => (LKJTabView.tabButton i item).setSelected (decide (selected = some i))

/-- The selected button is painted as such, and no other. -/
theorem paintedButtons_getElem? (selected : Option Nat) (i : Nat) :
    (paintedButtons items selected)[i]? =
      items[i]?.map fun item =>
        (LKJTabView.tabButton i item).setSelected (decide (selected = some i)) := by
  rw [paintedButtons, List.getElem?_mapIdx]

/-- New buttons are painted as those of a bar without a selection. -/
theorem mapIdx_tabButton : items.mapIdx LKJTabView.tabButton = paintedButtons items none := by
  apply List.ext_getElem?
  intro i
  rw [paintedButtons_getElem?, List.getElem?_mapIdx]
  rfl

/-- To repaint one button is enough where the selection differs there alone. -/
theorem modify_paintedButtons {selected next : Option Nat} {button : Nat} {chosen : Bool}
    (hButton : chosen = decide (next = some button))
    (hOther : ∀ i, i ≠ button → (next = some i ↔ selected = some i)) :
    (paintedButtons items selected).modify button (fun button => button.setSelected chosen) =
      paintedButtons items next := by
  apply List.ext_getElem?
  intro i
  rw [List.getElem?_modify, paintedButtons_getElem?, paintedButtons_getElem?]
  by_cases hSame : button = i
  · subst hSame
    cases items[button]? <;>
      simp [LKJCaptionedButton.setSelected_setSelected, hButton]
  · have hDecide : decide (next = some i) = decide (selected = some i) :=
      decide_eq_decide.mpr (hOther i (Ne.symm hSame))
    cases items[i]? <;> simp [hSame, hDecide]

end Painting

namespace LKJTabViewController

section Selection
variable {Controller : Type} {items : List LKJTabItem} {controllers : List Controller}

/-- The container as a function of the selected tab, which is all that its three records
say. -/
def showing (items : List LKJTabItem) (controllers : List Controller) (selected : Option Nat) :
    LKJTabViewController Controller where
  tabView := {
    buttonArray := paintedButtons items selected
    selectedButton := selected
    hasActionBlock := true }
  viewControllers := controllers
  currentContentViewController := selected.bind fun i => controllers[i]?
  childViewControllers := (selected.bind fun i => controllers[i]?).toList
  contentSubviews := (selected.bind fun i => controllers[i]?).toList

/-- A new container shows no tab. -/
theorem setUp_eq_showing : setUp items controllers = showing items controllers none := by
  rw [showing, ← mapIdx_tabButton]
  rfl

variable {selected : Option Nat}

/-- The bar moves its selection to the sender, whatever was selected. -/
theorem exchangeSelected_showing (sender : Nat) :
    (showing items controllers selected).tabView.exchangeSelected sender =
      (showing items controllers (some sender)).tabView := by
  have hSelected : (paintedButtons items none).modify sender
      (fun button => button.setSelected true) = paintedButtons items (some sender) := by
    apply modify_paintedButtons (by simp)
    intro i hOther
    simp [Ne.symm hOther]
  cases selected with
  | none =>
      change LKJTabView.mk ((paintedButtons items none).modify sender _) _ _ = _
      rw [hSelected]
      rfl
  | some old =>
      have hDeselected : (paintedButtons items (some old)).modify old
          (fun button => button.setSelected false) = paintedButtons items none := by
        apply modify_paintedButtons (by simp)
        intro i hOther
        simp [Ne.symm hOther]
      change LKJTabView.mk
        (((paintedButtons items (some old)).modify old _).modify sender _) _ _ = _
      rw [hDeselected, hSelected]
      rfl

variable [DecidableEq Controller]

/-- The block exchanges whatever content there is for the controller at the index. -/
theorem actionBlock_showing (tabView : LKJTabView) {i : Nat} {controller : Controller}
    (hGet : controllers[i]? = some controller) :
    actionBlock { showing items controllers selected with tabView := tabView } i =
      .ok { showing items controllers (some i) with tabView := tabView } := by
  have hRemoved : removeContent { showing items controllers selected with tabView := tabView } =
      { showing items controllers selected with
        tabView := tabView
        childViewControllers := []
        contentSubviews := [] } := by
    rw [removeContent]
    cases hCurrent : selected.bind fun i => controllers[i]? with
    | none => simp [showing, hCurrent]
    | some current => simp [showing, hCurrent]
  have hRead : objectAtIndex controllers (.position i) = .ok controller :=
    objectAtIndex_natCast controllers i hGet
  rw [actionBlock, hRemoved]
  dsimp only
  change (do
    let current ← objectAtIndex controllers (.position i)
    _) = _
  rw [hRead, ok_bind]
  simp [showing, hGet]

/-- A click moves the selection to its sender, whichever tab was selected before. -/
theorem buttonClicked_showing {sender : Nat} (hCount : controllers.length = items.length)
    (hSender : sender < items.length) :
    (showing items controllers selected).buttonClicked sender =
      .ok (showing items controllers (some sender)) := by
  have hButton : objectAtIndex (paintedButtons items (some sender)) (.position sender) =
      .ok ((LKJTabView.tabButton sender items[sender]).setSelected true) := by
    apply objectAtIndex_natCast
    rw [paintedButtons_getElem?, List.getElem?_eq_getElem hSender]
    simp
  have hGet : controllers[sender]? = some controllers[sender] :=
    List.getElem?_eq_getElem (hCount ▸ hSender)
  have hExchanged := @exchangeSelected_showing Controller items controllers selected sender
  rw [buttonClicked, hExchanged]
  change (do
    let button ← objectAtIndex (paintedButtons items (some sender)) (.position sender)
    actionBlock _ button.tag) = _
  rw [hButton, ok_bind]
  exact actionBlock_showing _ hGet

/-- A click that returns came from a button of the bar. -/
theorem buttonClicked_cases (hCount : controllers.length = items.length) {sender : Nat}
    {after : LKJTabViewController Controller}
    (hStep : (showing items controllers selected).buttonClicked sender = .ok after) :
    sender < items.length ∧ after = showing items controllers (some sender) := by
  have hSender : sender < items.length := by
    have hExchanged := @exchangeSelected_showing Controller items controllers selected sender
    rw [buttonClicked, hExchanged] at hStep
    obtain ⟨button, hButton, _⟩ := bind_eq_ok.mp hStep
    obtain ⟨n, hIndex, hGet⟩ := objectAtIndex_eq_ok.mp hButton
    have hSame : sender = n := by
      rw [NSIndex.position.injEq] at hIndex
      exact Int.ofNat.inj hIndex
    have hBound := (List.getElem?_eq_some_iff.mp hGet).1
    rw [hSame]
    simpa [showing, paintedButtons] using hBound
  rw [buttonClicked_showing hCount hSender] at hStep
  cases hStep
  exact ⟨hSender, rfl⟩

/-- A selection that does not raise is of one of the buttons. -/
theorem selectButtonAtIndex_cases (hCount : controllers.length = items.length) {index : Int}
    {after : LKJTabViewController Controller}
    (hStep : (showing items controllers selected).selectButtonAtIndex index = .ok after) :
    ∃ sender : Nat, index = sender ∧ sender < items.length ∧
      after = showing items controllers (some sender) := by
  obtain ⟨button, hButton, hClick⟩ := bind_eq_ok.mp hStep
  obtain ⟨n, hIndex, _⟩ := objectAtIndex_eq_ok.mp hButton
  rw [NSIndex.position.injEq] at hIndex
  rw [hIndex, Int.toNat_natCast] at hClick
  obtain ⟨hSender, rfl⟩ := buttonClicked_cases hCount hClick
  exact ⟨n, hIndex, hSender, rfl⟩

/-- A request is granted to the current content alone, and only for the lock's class. -/
theorem shouldTransition_of_other {container : LKJTabViewController Controller}
    {viewController : Controller} (controllerClass : ViewControllerClass)
    (h : some viewController ≠ container.currentContentViewController) :
    container.shouldTransition viewController controllerClass = .ok container := by
  rw [shouldTransition, if_neg h]

/-- After every step the container shows one tab; a click or a selection makes it show
its own. -/
theorem step_showing (hCount : controllers.length = items.length)
    (hSelected : ∀ i, selected = some i → i < items.length) {event : TabEvent Controller}
    {after : LKJTabViewController Controller}
    (hStep : tabStep (showing items controllers selected) event = .ok after) :
    ∃ next, after = showing items controllers next ∧ (∀ i, next = some i → i < items.length) ∧
      (event.selects = true ∨ selected ≠ none → next ≠ none) := by
  have hChosen : ∀ sender : Nat, sender < items.length →
      (∀ i, some sender = some i → i < items.length) ∧
        (event.selects = true ∨ selected ≠ none → some sender ≠ none) := by
    intro sender hSender
    refine ⟨?_, fun _ => Option.some_ne_none sender⟩
    rintro _ ⟨⟩
    exact hSender
  cases event with
  | buttonClicked sender =>
      obtain ⟨hSender, rfl⟩ := buttonClicked_cases hCount hStep
      exact ⟨some sender, rfl, hChosen sender hSender⟩
  | selectButtonAtIndex index =>
      obtain ⟨sender, _, hSender, rfl⟩ := selectButtonAtIndex_cases hCount hStep
      exact ⟨some sender, rfl, hChosen sender hSender⟩
  | shouldTransition viewController controllerClass =>
      have hStays : ∀ {same : LKJTabViewController Controller},
          Except.ok (showing items controllers selected) = (Except.ok same : Except NSException _) →
          ∃ next, same = showing items controllers next ∧
            (∀ i, next = some i → i < items.length) ∧
            ((TabEvent.shouldTransition viewController controllerClass).selects = true ∨
              selected ≠ none → next ≠ none) := by
        rintro _ ⟨⟩
        refine ⟨selected, rfl, hSelected, ?_⟩
        rintro (hSelects | hSome)
        · cases hSelects
        · exact hSome
      change shouldTransition _ viewController controllerClass = _ at hStep
      unfold shouldTransition at hStep
      split at hStep
      · split at hStep
        · obtain ⟨sender, _, hSender, rfl⟩ := selectButtonAtIndex_cases hCount hStep
          exact ⟨some sender, rfl, hChosen sender hSender⟩
        · exact hStays hStep
      · exact hStays hStep

end Selection

/-- The three records agree: one button is highlighted, its controller is the current
content, and the containment holds nothing else. -/
structure InStep {Controller : Type} (container : LKJTabViewController Controller) : Prop where
  selection : ∃ (i : Nat) (button : LKJCaptionedButton) (controller : Controller),
    container.tabView.buttonArray[i]? = some button ∧
    button.Shows button.selectedColor ∧ button.tag = i ∧
    (∀ (j : Nat) (other : LKJCaptionedButton), j ≠ i →
      container.tabView.buttonArray[j]? = some other →
      other.Shows other.standardColor ∧ ¬ other.Shows other.selectedColor) ∧
    container.viewControllers[i]? = some controller ∧
    container.currentContentViewController = some controller ∧
    container.childViewControllers = [controller] ∧ container.contentSubviews = [controller]

/-- A container that shows a tab is in step with its bar. -/
theorem inStep_showing {Controller : Type} {items : List LKJTabItem}
    {controllers : List Controller} (hCount : controllers.length = items.length) {i : Nat}
    (hSelected : i < items.length) : (showing items controllers (some i)).InStep := by
  have hGet : controllers[i]? = some controllers[i] := List.getElem?_eq_getElem (hCount ▸ hSelected)
  have hColors : UIColor.lkj_navyColor ≠ UIColor.lkj_lightNavyColor := by decide +kernel
  refine ⟨i, (LKJTabView.tabButton i items[i]).setSelected true, controllers[i], ?_, ⟨rfl, rfl⟩,
    rfl, ?_, hGet, hGet, ?_, ?_⟩
  · change (paintedButtons items (some i))[i]? = _
    rw [paintedButtons_getElem?, List.getElem?_eq_getElem hSelected]
    simp
  · intro j other hOther hButton
    change (paintedButtons items (some i))[j]? = some other at hButton
    rw [paintedButtons_getElem?, Option.map_eq_some_iff] at hButton
    obtain ⟨item, _, rfl⟩ := hButton
    rw [decide_eq_false (fun hSame => hOther (Option.some.inj hSame).symm)]
    exact ⟨⟨rfl, rfl⟩, fun hShows => hColors hShows.1⟩
  · simp [showing, hGet]
  · simp [showing, hGet]

end LKJTabViewController

/-- Every state that is reached shows one tab, or none before the first click. -/
theorem reachable_showing {Controller : Type} [DecidableEq Controller] {items : List LKJTabItem}
    {controllers : List Controller} {container : LKJTabViewController Controller}
    {history : History (LKJTabViewController Controller) (TabEvent Controller)}
    (hCount : controllers.length = items.length)
    (run : Run tabStep (.setUp items controllers) history container) :
    ∃ selected, container = .showing items controllers selected ∧
      (∀ i, selected = some i → i < items.length) ∧
      ((∃ entry ∈ history, entry.2.selects = true) → selected ≠ none) := by
  rw [LKJTabViewController.setUp_eq_showing] at run
  refine run.induction (fun history container => ∃ selected,
    container = .showing items controllers selected ∧ (∀ i, selected = some i → i < items.length) ∧
      ((∃ entry ∈ history, entry.2.selects = true) → selected ≠ none)) ?_ ?_
  · exact ⟨none, rfl, nofun, by simp⟩
  · rintro history _ event after _ ⟨selected, rfl, hBound, hSome⟩ hStep
    obtain ⟨next, rfl, hNext, hKeeps⟩ := LKJTabViewController.step_showing hCount hBound hStep
    refine ⟨next, rfl, hNext, ?_⟩
    rintro ⟨entry, hEntry, hSelects⟩
    rcases List.mem_append.mp hEntry with hOld | hNew
    · exact hKeeps (.inr (hSome ⟨entry, hOld, hSelects⟩))
    · obtain rfl := List.mem_singleton.mp hNew
      exact hKeeps (.inl hSelects)

/-- For any number of tabs, from the first click or selection on the bar, the current
controller and the containment are in step, and a request of a controller that is not the
current one changes nothing. -/
theorem tab_bar_in_step {Controller : Type} [DecidableEq Controller] {items : List LKJTabItem}
    {controllers : List Controller} {container : LKJTabViewController Controller}
    {history : History (LKJTabViewController Controller) (TabEvent Controller)}
    (hCount : controllers.length = items.length)
    (run : Run tabStep (.setUp items controllers) history container)
    (hSelects : ∃ entry ∈ history, entry.2.selects = true) :
    container.InStep ∧
      ∀ viewController controllerClass,
        some viewController ≠ container.currentContentViewController →
        container.shouldTransition viewController controllerClass = .ok container := by
  obtain ⟨selected, rfl, hBound, hSome⟩ := reachable_showing hCount run
  obtain ⟨i, rfl⟩ := Option.ne_none_iff_exists'.mp (hSome hSelects)
  exact ⟨LKJTabViewController.inStep_showing hCount (hBound i rfl),
    fun _ controllerClass hOther =>
      LKJTabViewController.shouldTransition_of_other controllerClass hOther⟩

/-- The items of the application's tabs. -/
def lockJawTabs : List LKJTabItem :=
  [⟨"control", "Control"⟩, ⟨"connect", "Connect"⟩, ⟨"history", "History"⟩]

/-- The classes of the controllers behind them. -/
def lockJawControllers : List ViewControllerClass :=
  [.lockViewController, .connectionViewController, .historyTableViewController]

/-- The last tab is clicked twice, and a request comes from another controller. -/
def clickTwice : List (TabEvent ViewControllerClass) :=
  [.selectButtonAtIndex 1, .buttonClicked 2, .buttonClicked 2,
    .shouldTransition .connectionViewController .lockViewController]

theorem tab_bar_in_step_after_clicks :
    ∃ container, exec tabStep (.setUp lockJawTabs lockJawControllers) clickTwice = .ok container ∧
      container.currentContentViewController = some .historyTableViewController ∧
      container.InStep := by
  have hFinal : ∃ container,
      exec tabStep (.setUp lockJawTabs lockJawControllers) clickTwice = .ok container ∧
        container.currentContentViewController = some .historyTableViewController :=
    ⟨_, rfl, rfl⟩
  obtain ⟨container, hExec, hCurrent⟩ := hFinal
  have hSelects : ∃ entry ∈ historyOf tabStep
      (.setUp lockJawTabs lockJawControllers) clickTwice, entry.2.selects = true :=
    ⟨_, List.mem_cons_self, rfl⟩
  have hCount : lockJawControllers.length = lockJawTabs.length := rfl
  exact ⟨container, hExec, hCurrent, (tab_bar_in_step hCount (run_of_exec hExec) hSelects).1⟩

end LockJaw
