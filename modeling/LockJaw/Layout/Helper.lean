import LockJaw.Layout.Constraint

/-! `AutolayoutHelper` as its callers use it: views and constraints are added to one view, and
constraints that are set for a key replace those set for it before. An exception leaves what
was done until then. -/
namespace LockJaw

open XtConstraint

/-- A constraint of the helper's own format, or one that the visual format made. -/
abbrev ConstraintContent (V F W : Type) := NSLayoutConstraint V F ⊕ W

/-- What UIKit reads of the helper: its view, the views under their keys, the metrics, and
which items stand in the tree of the view. -/
structure LayoutContext (V F : Type) extends AutolayoutHelper V F where
  inTree : V → Bool

/-- UIKit's part: its own visual format, `none` where it raises; which of the constraints that
this format makes refer to a view; and what it raises for when a view is added, a priority is
set, or constraints are added to the view. `refusal` is the number of constraints that were
added before it raised. `W` stands for the constraints of the visual format. -/
structure UIKitLayout (V F W : Type) extends LayoutPlatform V F where
  visualFormat : LayoutContext V F → Text → Option (List W)
  mentions : W → V → Bool
  isLayoutGuide : V → Bool
  acceptsSubview : V → V → Bool
  acceptsPriority : F → Bool
  refusal : LayoutContext V F → List (ConstraintContent V F W) → Option Nat

/-- A constraint object. The priority is the one the helper set, if it set one. -/
structure Installed (V F W : Type) where
  identity : Nat
  content : ConstraintContent V F W
  priority : Option F

/-- A dictionary with one entry replaced, or removed. -/
def setObject {α : Type} (dictionary : Text → Option α) (key : Text) (object : Option α) :
    Text → Option α :=
  fun other => if other = key then object else dictionary other

/-- The helper, and of its view the constraints that the helper added. -/
structure HelperState (V F W : Type) extends LayoutContext V F where
  temporalConstraints : Text → Option (List (Installed V F W))
  constraints : List (Installed V F W)
  created : Nat

inductive HelperCall (V F : Type) where
  | addView (subView : V) (subViewKey : Text)
  | removeViewsWithKeys (viewKeys : List Text)
  | setMetrics (metrics : Text → Option F)
  | addConstraints (constraints : List Text) (priority : Option F)
  | setConstraints (constraints : List Text) (priority : Option F) (key : Text)

section Helper
variable {V F W : Type} (platform : UIKitLayout V F W)

/-- `initWithView:`, over what stands in the view's tree before. -/
def initWithView (view : V) (inTree : V → Bool) : HelperState V F W where
  view := view
  subViews := fun _ => none
  metrics := fun _ => none
  inTree := inTree
  temporalConstraints := fun _ => none
  constraints := []
  created := 0

def parseConstraint (context : LayoutContext V F) (constraint : Text) :
    Except (LayoutException V F) (List (ConstraintContent V F W)) :=
  if constraint.head? = some 'X' then
    match parseXtConstraint platform.toLayoutPlatform context.toAutolayoutHelper constraint with
    | .ok c => .ok [.inl c]
    | .error e => .error e
  else match platform.visualFormat context constraint with
    | some made => .ok (made.map .inr)
    | none => .error (.invalidFormat constraint)

/-- New objects, one for each content. -/
def objects (priority : Option F) : Nat → List (ConstraintContent V F W) → List (Installed V F W)
  | _, [] => []
  | created, content :: rest => ⟨created, content, priority⟩ :: objects priority (created + 1) rest

/-- Setting the priority of the constraints, which raises at the first one if UIKit does not
accept it. -/
def setPriority (priority : Option F) (contents : List (ConstraintContent V F W)) :
    Option (LayoutException V F) :=
  match priority, contents with
  | some value, _ :: _ =>
      if platform.acceptsPriority value then none else some (.invalidPriority value)
  | _, _ => none

/-- The objects that `addConstraint:priority:` gets into the view, and the exception that it
ends with, if any. UIKit may raise after it has added some of the constraints. -/
def addedObjects (context : LayoutContext V F) (priority : Option F) (created : Nat)
    (constraint : Text) : List (Installed V F W) × Option (LayoutException V F) :=
  match parseConstraint platform context constraint with
  | .error e => ([], some e)
  | .ok contents =>
      match setPriority platform priority contents with
      | some e => ([], some e)
      | none =>
          match platform.refusal context contents with
          | some position =>
              (objects priority created (contents.take position),
                some (.invalidInstallation position))
          | none => (objects priority created contents, none)

/-- `addConstraints:` of the view. -/
def HelperState.add (state : HelperState V F W) (added : List (Installed V F W)) :
    HelperState V F W :=
  { state with
    constraints := state.constraints ++ added
    created := state.created + added.length }

def addConstraint (state : HelperState V F W) (constraint : Text) (priority : Option F) :
    HelperState V F W × List (Installed V F W) × Option (LayoutException V F) :=
  let added := addedObjects platform state.toLayoutContext priority state.created constraint
  (state.add added.1, added)

/-- The loop over the constraints of a call, with the objects it added before it ended. -/
def addEach (priority : Option F) : List Text → HelperState V F W →
    HelperState V F W × List (Installed V F W) × Option (LayoutException V F)
  | [], state => (state, [], none)
  | constraint :: rest, state =>
      match addConstraint platform state constraint priority with
      | (after, added, some e) => (after, added, some e)
      | (after, added, none) =>
          let result := addEach priority rest after
          (result.1, added ++ result.2.1, result.2.2)

def removeConstraints (state : HelperState V F W) (constraints : List (Installed V F W)) :
    HelperState V F W :=
  { state with constraints := state.constraints.filter fun c =>
      constraints.all fun removed => removed.identity ≠ c.identity }

/-- The objects that are kept for a key. -/
def HelperState.stored (state : HelperState V F W) (key : Text) : List (Installed V F W) :=
  (state.temporalConstraints key).getD []

def clearConstraints (state : HelperState V F W) (key : Text) : HelperState V F W :=
  let constraintsToRemove := state.stored key
  if constraintsToRemove.length > 0 then
    { removeConstraints state constraintsToRemove with
      temporalConstraints := setObject state.temporalConstraints key none }
  else state

def setConstraints (state : HelperState V F W) (constraints : List Text) (priority : Option F)
    (key : Text) : HelperState V F W × Option (LayoutException V F) :=
  let result := addEach platform priority constraints (clearConstraints state key)
  match result.2.2 with
  | some e => (result.1, some e)
  | none =>
      ({ result.1 with
        temporalConstraints := setObject result.1.temporalConstraints key
          (some result.2.1) }, none)

section Views
variable [DecidableEq V]

def refersTo (view : V) : ConstraintContent V F W → Bool
  | .inl c => c.firstItem = view || c.secondItem = view
  | .inr made => platform.mentions made view

/-- `addView:withKey:`. The key is there before UIKit may raise, and a layout guide is not
added to the view. -/
def addView (context : LayoutContext V F) (subView : V) (subViewKey : Text) :
    LayoutContext V F × Option (LayoutException V F) :=
  let keyed := { context with
    subViews := setObject context.subViews subViewKey (some subView) }
  if platform.isLayoutGuide subView then (keyed, none)
  else if platform.acceptsSubview context.view subView then
    ({ keyed with inTree := fun other => other = subView || context.inTree other }, none)
  else (keyed, some (.invalidSubview subView))

/-- The view under a key, if it stands below the helper's view. -/
def subviewFor (context : LayoutContext V F) (viewKey : Text) : Option V :=
  (context.subViews viewKey).filter fun subView =>
    subView ≠ context.view && context.inTree subView

/-- What a `removeFromSuperview` and the removal of the key leave. -/
def withoutView (context : LayoutContext V F) (viewKey : Text) : LayoutContext V F :=
  { context with
    subViews := setObject context.subViews viewKey none
    inTree := fun other => subviewFor context viewKey ≠ some other && context.inTree other }

/-- `removeFromSuperview` takes the constraints that refer to the view with it. -/
def removeViewWithKey (state : HelperState V F W) (viewKey : Text) : HelperState V F W :=
  { state with
    toLayoutContext := withoutView state.toLayoutContext viewKey
    constraints := state.constraints.filter fun c =>
      (subviewFor state.toLayoutContext viewKey).all fun subView =>
        !refersTo platform subView c.content }

/-- What one call does, and the exception that it ends with, if any. -/
def perform (state : HelperState V F W) :
    HelperCall V F → HelperState V F W × Option (LayoutException V F)
  | .addView subView subViewKey =>
      let added := addView platform state.toLayoutContext subView subViewKey
      ({ state with toLayoutContext := added.1 }, added.2)
  | .removeViewsWithKeys viewKeys => (viewKeys.foldl (removeViewWithKey platform) state, none)
  | .setMetrics metrics => ({ state with metrics := metrics }, none)
  | .addConstraints constraints priority =>
      let result := addEach platform priority constraints state
      (result.1, result.2.2)
  | .setConstraints constraints priority key =>
      setConstraints platform state constraints priority key

end Views
end Helper
end LockJaw
