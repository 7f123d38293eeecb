import Mathlib.Data.List.Infix
import Mathlib.Data.Rat.Defs

/-! `LKJCaptionedButton`, the image and caption of one tab. Its three setters repaint;
those of the colours look at the `selected` flag of the control to decide, and the
override of the flag's own setter never stores it. -/
namespace LockJaw

/-- A colour by its components. -/
structure UIColor where
  red : ℚ
  green : ℚ
  blue : ℚ
  alpha : ℚ
deriving DecidableEq

namespace UIColor

def blackColor : UIColor := ⟨0, 0, 0, 1⟩

def whiteColor : UIColor := ⟨1, 1, 1, 1⟩

end UIColor

/-- The button with what its two views show. `selected` is the flag of `UIControl`. -/
structure LKJCaptionedButton where
  tag : Int
  image : String
  caption : String
  selected : Bool
  standardColor : UIColor
  selectedColor : UIColor
  tintColor : UIColor
  textColor : UIColor
deriving DecidableEq

namespace LKJCaptionedButton

/-- `initWithImage:caption:spacing:`. The colours are set before there are views. -/
def initWithImage (image caption : String) : LKJCaptionedButton :=
  let standardColor := UIColor.blackColor
  let selectedColor := UIColor.whiteColor
  { tag := 0
    image := image
    caption := caption
    selected := false
    standardColor := standardColor
    selectedColor := selectedColor
    tintColor := standardColor
    textColor := standardColor }

/-- The caption's text and the image's tint in one colour. -/
def paint (button : LKJCaptionedButton) (color : UIColor) : LKJCaptionedButton :=
  { button with textColor := color, tintColor := color }

def setStandardColor (button : LKJCaptionedButton) (standardColor : UIColor) :
    LKJCaptionedButton :=
  let button := { button with standardColor := standardColor }
  if !button.selected then button.paint button.standardColor else button

def setSelectedColor (button : LKJCaptionedButton) (selectedColor : UIColor) :
    LKJCaptionedButton :=
  let button := { button with selectedColor := selectedColor }
  if button.selected then button.paint button.selectedColor else button

/-- `setSelected:`, which overrides the setter of `UIControl` and does not call it. -/
def setSelected (button : LKJCaptionedButton) (selected : Bool) : LKJCaptionedButton :=
  if selected then button.paint button.selectedColor else button.paint button.standardColor

/-- Both views are painted in this colour. -/
def Shows (button : LKJCaptionedButton) (color : UIColor) : Prop :=
  button.textColor = color ∧ button.tintColor = color

/-- A painted button shows the colour it is painted in. -/
theorem shows_paint (button : LKJCaptionedButton) (color shown : UIColor) :
    (button.paint color).Shows shown ↔ color = shown := by
  constructor
  · exact And.left
  · intro hSame
    exact ⟨hSame, hSame⟩

end LKJCaptionedButton

/-- A call of one of the setters. -/
inductive ButtonCall where
  | setStandardColor (color : UIColor)
  | setSelectedColor (color : UIColor)
  | setSelected (selected : Bool)
deriving DecidableEq

namespace ButtonCall

def perform (button : LKJCaptionedButton) : ButtonCall → LKJCaptionedButton
  | setStandardColor color => button.setStandardColor color
  | setSelectedColor color => button.setSelectedColor color
  | setSelected selected => button.setSelected selected

def standardColor : ButtonCall → Option UIColor
  | setStandardColor color => some color
  | _ => none

def selectedColor : ButtonCall → Option UIColor
  | setSelectedColor color => some color
  | _ => none

def selected : ButtonCall → Option Bool
  | setSelected selected => some selected
  | _ => none

/-- The colour passed to either of the colour setters. -/
def color : ButtonCall → Option UIColor
  | setStandardColor color => some color
  | setSelectedColor color => some color
  | setSelected _ => none

end ButtonCall

/-- The latest argument of one kind, or what there was before any call. -/
def latest {α : Type} (argument : ButtonCall → Option α) (initial : α)
    (calls : List ButtonCall) : α :=
  (calls.filterMap argument).getLast?.getD initial

/-- An argument is the latest one until the next call that has one. -/
theorem latest_concat {α : Type} (argument : ButtonCall → Option α) (initial : α)
    (calls : List ButtonCall) (call : ButtonCall) :
    latest argument initial (calls ++ [call]) =
      (argument call).getD (latest argument initial calls) := by
  simp only [latest, List.filterMap_append, List.getLast?_append]
  cases hArgument : argument call <;> simp [hArgument]

def latestStandardColor : List ButtonCall → UIColor :=
  latest ButtonCall.standardColor .blackColor

def latestSelectedColor : List ButtonCall → UIColor :=
  latest ButtonCall.selectedColor .whiteColor

def latestSelected : List ButtonCall → Bool := latest ButtonCall.selected false

/-- The colour of the state that the calls put the button in. -/
def colorOfState (calls : List ButtonCall) : UIColor :=
  if latestSelected calls then latestSelectedColor calls else latestStandardColor calls

/-- A new button after some calls. -/
def buttonAfter (image caption : String) (calls : List ButtonCall) : LKJCaptionedButton :=
  calls.foldl ButtonCall.perform (.initWithImage image caption)

/-- The last call is performed on what the others left. -/
theorem buttonAfter_concat (image caption : String) (calls : List ButtonCall)
    (call : ButtonCall) :
    buttonAfter image caption (calls ++ [call]) =
      call.perform (buttonAfter image caption calls) := by
  rw [buttonAfter, List.foldl_append]
  rfl

/-- The button has stored the latest colours and never a selection. -/
structure StoresColors (calls : List ButtonCall) (button : LKJCaptionedButton) : Prop where
  selected : button.selected = false
  standardColor : button.standardColor = latestStandardColor calls
  selectedColor : button.selectedColor = latestSelectedColor calls

namespace StoresColors

variable {calls : List ButtonCall} {button : LKJCaptionedButton}

/-- The standard colour is painted at once, as no call has set the flag. -/
theorem setStandardColor_eq (h : StoresColors calls button) (color : UIColor) :
    button.setStandardColor color = { button with standardColor := color }.paint color := by
  rw [LKJCaptionedButton.setStandardColor, h.selected]
  rfl

/-- The colour for a selected button is stored, and not painted. -/
theorem setSelectedColor_eq (h : StoresColors calls button) (color : UIColor) :
    button.setSelectedColor color = { button with selectedColor := color } := by
  rw [LKJCaptionedButton.setSelectedColor, h.selected]
  rfl

/-- A call stores its colour, and no other changes. -/
theorem step (h : StoresColors calls button) (call : ButtonCall) :
    StoresColors (calls ++ [call]) (call.perform button) := by
  obtain ⟨hSelected, hStandard, hColor⟩ := h
  have hLatest := @latest_concat UIColor
  cases call with
  | setStandardColor color =>
      rw [ButtonCall.perform, setStandardColor_eq ⟨hSelected, hStandard, hColor⟩]
      refine ⟨hSelected, ?_, ?_⟩
      · rw [latestStandardColor, hLatest]
        rfl
      · rw [latestSelectedColor, hLatest]
        exact hColor
  | setSelectedColor color =>
      rw [ButtonCall.perform, setSelectedColor_eq ⟨hSelected, hStandard, hColor⟩]
      refine ⟨hSelected, ?_, ?_⟩
      · rw [latestStandardColor, hLatest]
        exact hStandard
      · rw [latestSelectedColor, hLatest]
        rfl
  | setSelected selected =>
      refine ⟨?_, ?_, ?_⟩
      · cases selected <;> exact hSelected
      · rw [latestStandardColor, hLatest]
        cases selected <;> exact hStandard
      · rw [latestSelectedColor, hLatest]
        cases selected <;> exact hColor

/-- A call made on a button that shows its state keeps it so unless it sets another colour
than the selected one while the button is selected. -/
theorem shows_step (h : StoresColors calls button) (hShows : button.Shows (colorOfState calls))
    (call : ButtonCall) :
    (call.perform button).Shows (colorOfState (calls ++ [call])) ↔
      (latestSelected calls = true → ∀ color, call.color = some color →
        color = latestSelectedColor calls) := by
  have hLatest : ∀ {α : Type} (argument : ButtonCall → Option α) (initial : α),
      latest argument initial (calls ++ [call]) =
        (argument call).getD (latest argument initial calls) :=
    fun argument initial => latest_concat argument initial calls call
  rw [colorOfState, latestSelected, latestStandardColor, latestSelectedColor, hLatest, hLatest,
    hLatest]
  change _ ↔ (latestSelected calls = true → _)
  cases call with
  | setStandardColor color =>
      rw [ButtonCall.perform, h.setStandardColor_eq, LKJCaptionedButton.shows_paint]
      change color = (if latestSelected calls = true then latestSelectedColor calls else color) ↔ _
      cases latestSelected calls <;> simp [ButtonCall.color, latestSelectedColor]
  | setSelectedColor color =>
      rw [ButtonCall.perform, h.setSelectedColor_eq]
      change button.Shows
        (if latestSelected calls = true then color else latestStandardColor calls) ↔ _
      rw [colorOfState] at hShows
      cases hSelected : latestSelected calls with
      | true =>
          rw [hSelected, if_pos rfl] at hShows
          constructor
          · rintro hAfter - _ ⟨⟩
            exact hAfter.1.symm.trans hShows.1
          · intro hSame
            rw [if_pos rfl, hSame rfl color rfl]
            exact hShows
      | false =>
          rw [hSelected, if_neg (by decide)] at hShows
          exact iff_of_true hShows nofun
  | setSelected selected =>
      refine iff_of_true ?_ nofun
      rw [ButtonCall.perform, LKJCaptionedButton.setSelected]
      cases selected with
      | true => exact (LKJCaptionedButton.shows_paint _ _ _).mpr h.selectedColor
      | false => exact (LKJCaptionedButton.shows_paint _ _ _).mpr h.standardColor

end StoresColors

section Histories
variable {image caption : String} {calls : List ButtonCall}

/-- So each colour is the last one that was set. -/
theorem buttonAfter_stores (image caption : String) (calls : List ButtonCall) :
    StoresColors calls (buttonAfter image caption calls) := by
  induction calls using List.reverseRecOn with
  | nil => exact ⟨rfl, rfl, rfl⟩
  | append_singleton calls call ih =>
      rw [buttonAfter_concat]
      exact ih.step call

/-- A colour call and a call of `setSelected:` commute exactly when the button is not to be
selected or the colour is the selected one. -/
theorem StoresColors.commute_iff {button : LKJCaptionedButton} (h : StoresColors calls button)
    {call : ButtonCall} {color : UIColor} (hColor : call.color = some color) (selected : Bool) :
    call.perform (button.setSelected selected) = (call.perform button).setSelected selected ↔
      selected = false ∨ color = button.selectedColor := by
  have hBefore : StoresColors (calls ++ [.setSelected selected]) (button.setSelected selected) :=
    h.step (.setSelected selected)
  cases call with
  | setStandardColor standard =>
      cases hColor
      rw [ButtonCall.perform, ButtonCall.perform, hBefore.setStandardColor_eq,
        h.setStandardColor_eq]
      cases selected with
      | true => simp [LKJCaptionedButton.setSelected, LKJCaptionedButton.paint]
      | false => simp [LKJCaptionedButton.setSelected, LKJCaptionedButton.paint]
  | setSelectedColor chosen =>
      cases hColor
      rw [ButtonCall.perform, ButtonCall.perform, hBefore.setSelectedColor_eq,
        h.setSelectedColor_eq]
      cases selected with
      | true => simp [LKJCaptionedButton.setSelected, LKJCaptionedButton.paint, eq_comm]
      | false => simp [LKJCaptionedButton.setSelected, LKJCaptionedButton.paint]
  | setSelected => cases hColor

/-- A button shows the colour of its state throughout some calls exactly when each colour
that they set while it is selected is the latest selected one; and in every state a call
that sets another colour does not commute with `setSelected:` of YES. -/
theorem button_shows_its_state_iff (image caption : String) (calls : List ButtonCall) :
    ((∀ prior, prior <+: calls →
        (buttonAfter image caption prior).Shows (colorOfState prior)) ↔
      ∀ prior call, prior ++ [call] <+: calls → latestSelected prior = true →
        ∀ color, call.color = some color → color = latestSelectedColor prior) ∧
    ∀ (call : ButtonCall) (color : UIColor) (selected : Bool), call.color = some color →
      (call.perform ((buttonAfter image caption calls).setSelected selected) =
          (call.perform (buttonAfter image caption calls)).setSelected selected ↔
        selected = false ∨ color = latestSelectedColor calls) := by
  have hStep := fun prior => (buttonAfter_stores image caption prior).shows_step
  simp_rw [← buttonAfter_concat] at hStep
  refine ⟨⟨?_, ?_⟩, ?_⟩
  · intro hShows prior call hPrefix
    have hPrior := hShows prior ((List.prefix_append prior [call]).trans hPrefix)
    exact (hStep prior hPrior call).mp (hShows _ hPrefix)
  · intro hHarmless prior
    induction prior using List.reverseRecOn with
    | nil =>
        intro _
        exact ⟨rfl, rfl⟩
    | append_singleton prior call ih =>
        intro hPrefix
        have hPrior := ih ((List.prefix_append prior [call]).trans hPrefix)
        exact (hStep prior hPrior call).mpr (hHarmless prior call hPrefix)
  · intro call color selected hColor
    have hStores := buttonAfter_stores image caption calls
    rw [hStores.commute_iff hColor, hStores.selectedColor]

/-- A new button that is selected and then given another selected colour still shows the
one before; given a standard colour, it shows that. -/
theorem selected_button_shows_other_color :
    ¬ (buttonAfter "control" "Control"
        [.setSelected true, .setSelectedColor .blackColor]).Shows
      (colorOfState [.setSelected true, .setSelectedColor .blackColor]) ∧
    ¬ (buttonAfter "control" "Control"
        [.setSelected true, .setStandardColor .blackColor]).Shows
      (colorOfState [.setSelected true, .setStandardColor .blackColor]) ∧
    ¬ ∀ (image caption : String) (calls : List ButtonCall),
      (buttonAfter image caption calls).Shows (colorOfState calls) := by
  have hSelected : ¬ (buttonAfter "control" "Control"
      [.setSelected true, .setSelectedColor .blackColor]).Shows
        (colorOfState [.setSelected true, .setSelectedColor .blackColor]) := by
    rintro ⟨hText, _⟩
    exact absurd hText (by decide +kernel)
  refine ⟨hSelected, ?_, fun hAll => hSelected (hAll _ _ _)⟩
  rintro ⟨hText, _⟩
  exact absurd hText (by decide +kernel)

end Histories

end LockJaw
