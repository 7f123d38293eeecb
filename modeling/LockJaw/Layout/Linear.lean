import LockJaw.Layout.Ledger
import LockJaw.Semantics.Run

/-! `LinearLayout`: views in a row. Each appended view is chained to the one before it, and
the alignment to the end moves on to the last view. -/
namespace LockJaw

inductive UILayoutConstraintAxis where
  | horizontal | vertical
deriving DecidableEq

structure Margins (F : Type) where
  marginEnds : F
  marginBetween : F
  marginSides : F

structure LinearLayout (V F W : Type) where
  orientation : UILayoutConstraintAxis
  layout : HelperState V F W
  numberOfViews : Nat
  margins : Margins F

inductive LayoutAction (V F : Type) where
  | setMargins (margins : Margins F)
  | appendSubview (view : V) (size : F)

section Formats

def viewKeyForIndex (i : Nat) : Text := 'v' :: Nat.toDigits 10 i

def mainType : UILayoutConstraintAxis → Text
  | .horizontal => ['H']
  | .vertical => ['V']

def otherType : UILayoutConstraintAxis → Text
  | .horizontal => ['V']
  | .vertical => ['H']

variable (axis : UILayoutConstraintAxis)

/-- `H:[v3(s)]` -/
def sizeFormat (i : Nat) : Text :=
  mainType axis ++ ":[".toList ++ viewKeyForIndex i ++ "(s)]".toList

/-- `H:|-(e)-[v1]` for the first view, `H:[v2]-(b)-[v3]` for the others. -/
def chainFormat (i : Nat) : Text :=
  if i = 1 then mainType axis ++ ":|-(e)-[".toList ++ viewKeyForIndex i ++ "]".toList
  else mainType axis ++ ":[".toList ++ viewKeyForIndex (i - 1) ++ "]-(b)-[".toList ++
    viewKeyForIndex i ++ "]".toList

/-- `H:[v3]-(e)-|` -/
def endFormat (i : Nat) : Text :=
  mainType axis ++ ":[".toList ++ viewKeyForIndex i ++ "]-(e)-|".toList

/-- `V:|-(l)-[v3]-(l)-|` -/
def sidesFormat (i : Nat) : Text :=
  otherType axis ++ ":|-(l)-[".toList ++ viewKeyForIndex i ++ "]-(l)-|".toList

def endAlign : Text := "end align".toList

/-- All formats of a row are in the visual format, none in the helper's own. -/
theorem formats_visual (i : Nat) :
    (sizeFormat axis i).head? ≠ some 'X' ∧ (chainFormat axis i).head? ≠ some 'X' ∧
      (endFormat axis i).head? ≠ some 'X' ∧ (sidesFormat axis i).head? ≠ some 'X' := by
  rw [chainFormat]
  cases axis with
  | horizontal => split <;> simp [sizeFormat, endFormat, sidesFormat, mainType, otherType]
  | vertical => split <;> simp [sizeFormat, endFormat, sidesFormat, mainType, otherType]

end Formats

section Layout
variable {V F W : Type} (platform : UIKitLayout V F W) (isDefaultSize : F → Bool)

def metricsOf (margins : Margins F) (size : F) : Text → Option F := fun name =>
  if name = ['e'] then some margins.marginEnds
  else if name = ['b'] then some margins.marginBetween
  else if name = ['l'] then some margins.marginSides
  else if name = ['s'] then some size
  else none

/-- The calls to the helper that append a view as number `i`. -/
def appendCalls (axis : UILayoutConstraintAxis) (margins : Margins F) (i : Nat) (view : V)
    (size : F) : List (HelperCall V F) :=
  [.setMetrics (metricsOf margins size), .addView view (viewKeyForIndex i)] ++
    (if isDefaultSize size then [] else [.addConstraints [sizeFormat axis i] none]) ++
    [.addConstraints [chainFormat axis i] none,
      .setConstraints [endFormat axis i] none endAlign,
      .addConstraints [sidesFormat axis i] none]

variable [DecidableEq V]

/-- Calls up to the first one that raises. -/
def performUntil (state : HelperState V F W) :
    List (HelperCall V F) → Except (LayoutException V F) (HelperState V F W)
  | [] => .ok state
  | call :: rest =>
      match perform platform state call with
      | (after, none) => performUntil after rest
      | (_, some e) => .error e

def layoutStep (linear : LinearLayout V F W) :
    LayoutAction V F → Except (LayoutException V F) (LinearLayout V F W)
  | .setMargins margins => .ok { linear with margins := margins }
  | .appendSubview view size =>
      match performUntil platform linear.layout (appendCalls isDefaultSize linear.orientation
        linear.margins (linear.numberOfViews + 1) view size) with
      | .ok layout => .ok { linear with
          layout := layout
          numberOfViews := linear.numberOfViews + 1 }
      | .error e => .error e

end Layout

/-! What the layout is for. -/

/-- An appended view, with the margins that held then. -/
structure LayoutItem (V F : Type) where
  view : V
  size : F
  margins : Margins F

section Meaning
variable {V F W : Type} (platform : UIKitLayout V F W) (isDefaultSize : F → Bool)
  (axis : UILayoutConstraintAxis)

def itemOf : LinearLayout V F W × LayoutAction V F → Option (LayoutItem V F)
  | (_, .setMargins _) => none
  | (linear, .appendSubview view size) => some ⟨view, size, linear.margins⟩

/-- A view under its key, and in the tree if it is no guide. -/
def extendContext [DecidableEq V] (context : LayoutContext V F) (metrics : Text → Option F)
    (view : V) (key : Text) : LayoutContext V F :=
  { view := context.view
    subViews := setObject context.subViews key (some view)
    metrics := metrics
    inTree := fun other =>
      (other = view && !platform.isLayoutGuide view) || context.inTree other }

/-- What UIKit knows of a row: its views, and the metrics of the latest one, which is the first
of the list. -/
def contextOf [DecidableEq V] (view : V) : List (LayoutItem V F) → LayoutContext V F
  | [] =>
      { view := view, subViews := fun _ => none, metrics := fun _ => none,
        inTree := fun other => other = view }
  | item :: earlier =>
      extendContext platform (contextOf view earlier) (metricsOf item.margins item.size)
        item.view (viewKeyForIndex (earlier.length + 1))

/-- What a format stands for. -/
def formatted (context : LayoutContext V F) (format : Text) : List (ConstraintContent V F W) :=
  ((platform.visualFormat context format).getD []).map .inr

variable [DecidableEq V] (view : V)

/-- The constraints of a row but for its end: every view has its size, if it has one, the
view before it and its sides. -/
def rowOf : List (LayoutItem V F) → List (ConstraintContent V F W)
  | [] => []
  | item :: earlier =>
      let made := formatted platform (contextOf platform view (item :: earlier))
      let i := earlier.length + 1
      rowOf earlier ++ (if isDefaultSize item.size then [] else made (sizeFormat axis i)) ++
        made (chainFormat axis i) ++ made (sidesFormat axis i)

/-- The alignment of the last view to the end. -/
def endOf : List (LayoutItem V F) → List (ConstraintContent V F W)
  | [] => []
  | item :: earlier =>
      formatted platform (contextOf platform view (item :: earlier))
        (endFormat axis (earlier.length + 1))

end Meaning

section Row
variable {V F W : Type} {platform : UIKitLayout V F W} {state after : HelperState V F W}
  {format : Text}

/-- A format that does not start with `X` is UIKit's to parse. -/
theorem parseConstraint_visual {context : LayoutContext V F}
    (hFormat : format.head? ≠ some 'X') :
    parseConstraint platform context format =
      match platform.visualFormat context format with
      | some made => .ok (made.map .inr)
      | none => .error (.invalidFormat format) := by
  cases hMade : platform.visualFormat context format with
  | none => simp [parseConstraint, hFormat, hMade]
  | some made => simp [parseConstraint, hFormat, hMade]

theorem content_objects {priority : Option F} {created : Nat}
    {contents : List (ConstraintContent V F W)} :
    (objects priority created contents).map Installed.content = contents := by
  induction contents generalizing created with
  | nil => rfl
  | cons content rest ih => simp [objects, ih]

/-- One visual format that does not raise. -/
theorem made_visual {context : LayoutContext V F} {created : Nat}
    (hFormat : format.head? ≠ some 'X')
    (hDone : (made platform context none created [format]).2 = none) :
    (made platform context none created [format]).1.map Installed.content =
      formatted platform context format := by
  have hAdded : (addedObjects platform context none created format).2 = none →
      (addedObjects platform context none created format).1.map Installed.content =
        formatted platform context format := by
    rw [addedObjects, parseConstraint_visual hFormat, formatted]
    cases platform.visualFormat context format with
    | none => simp
    | some contents =>
        cases hRefusal : platform.refusal context (contents.map .inr) with
        | none => simp [setPriority, hRefusal, content_objects]
        | some position => simp [setPriority, hRefusal]
  cases hObjects : addedObjects platform context none created format with
  | mk added raised =>
      rw [hObjects] at hAdded
      cases raised with
      | some e => simp [made, hObjects] at hDone
      | none => simpa [made, hObjects] using hAdded rfl

/-- The constraints of a row: those that stay, and among them those that the key of the end
alignment keeps. -/
structure Row (state : HelperState V F W) (fixed last : List (ConstraintContent V F W)) :
    Prop where
  accounted : ∃ ledger owner, Accounts state ledger owner
  split : ∃ front back, state.constraints = front ++ state.stored endAlign ++ back ∧
    (front ++ back).map Installed.content = fixed ∧
      (state.stored endAlign).map Installed.content = last

variable {fixed last : List (ConstraintContent V F W)}

/-- The objects of a key stand together; without them the others keep their order. -/
theorem filter_clear {front stored back : List (Installed V F W)}
    (hNodup : ((front ++ stored ++ back).map Installed.identity).Nodup) :
    ((front ++ stored ++ back).filter fun c =>
      stored.all fun removed => removed.identity ≠ c.identity) = front ++ back := by
  rw [List.map_append, List.map_append, List.nodup_append, List.nodup_append] at hNodup
  obtain ⟨⟨_, _, hFront⟩, _, hBack⟩ := hNodup
  rw [List.filter_append, List.filter_append]
  have hKeepsFront : front.filter (fun c =>
      stored.all fun removed => removed.identity ≠ c.identity) = front := by
    rw [List.filter_eq_self]
    intro c hMem
    simp only [List.all_eq_true, decide_eq_true_eq]
    intro removed hRemoved
    exact (hFront _ (List.mem_map_of_mem hMem) _ (List.mem_map_of_mem hRemoved)).symm
  have hDropsStored : stored.filter (fun c =>
      stored.all fun removed => removed.identity ≠ c.identity) = [] := by
    rw [List.filter_eq_nil_iff]
    intro c hMem hAll
    simp only [List.all_eq_true, decide_eq_true_eq] at hAll
    exact hAll c hMem rfl
  have hKeepsBack : back.filter (fun c =>
      stored.all fun removed => removed.identity ≠ c.identity) = back := by
    rw [List.filter_eq_self]
    intro c hMem
    simp only [List.all_eq_true, decide_eq_true_eq]
    intro removed hRemoved
    exact hBack _ (List.mem_append_right _ (List.mem_map_of_mem hRemoved)) _
      (List.mem_map_of_mem hMem)
  rw [hKeepsFront, hDropsStored, hKeepsBack, List.append_nil]

theorem Row.frame (h : Row state fixed last) (hConstraints : after.constraints = state.constraints)
    (hStored : after.temporalConstraints = state.temporalConstraints)
    (hAccounted : ∃ ledger owner, Accounts after ledger owner) : Row after fixed last := by
  have hSame : after.stored endAlign = state.stored endAlign := by
    rw [HelperState.stored, HelperState.stored, hStored]
  refine ⟨hAccounted, ?_⟩
  rw [hConstraints, hSame]
  exact h.split

variable [DecidableEq V]

/-- A format added without a key is there for good. -/
theorem Row.add (h : Row state fixed last) (hFormat : format.head? ≠ some 'X')
    (hCall : perform platform state (.addConstraints [format] none) = (after, none)) :
    Row after (fixed ++ formatted platform state.toLayoutContext format) last ∧
      after.toLayoutContext = state.toLayoutContext := by
  obtain ⟨_, _, hAccounts⟩ := h.accounted
  obtain ⟨⟨_, hAfter⟩, _⟩ := hAccounts.perform platform (.addConstraints [format] none)
  rw [hCall] at hAfter
  simp only [perform, addEach_eq, Prod.mk.injEq] at hCall
  obtain ⟨hAdd, hDone⟩ := hCall
  obtain ⟨front, back, hConstraints, hFixed, hLast⟩ := h.split
  have hMade := made_visual hFormat hDone
  generalize (made platform state.toLayoutContext none state.created [format]).1 = added
    at hAdd hMade
  subst hAdd
  refine ⟨⟨⟨_, _, hAfter⟩, front, back ++ added, ?_, ?_, hLast⟩, rfl⟩
  · rw [← List.append_assoc, HelperState.add, hConstraints]
    rfl
  · rw [← List.append_assoc, List.map_append, hFixed, hMade]

/-- The format under the key of the end replaces the one before it. -/
theorem Row.set (h : Row state fixed last) (hFormat : format.head? ≠ some 'X')
    (hCall : perform platform state (.setConstraints [format] none endAlign) = (after, none)) :
    Row after fixed (formatted platform state.toLayoutContext format) ∧
      after.toLayoutContext = state.toLayoutContext := by
  obtain ⟨_, _, hAccounts⟩ := h.accounted
  obtain ⟨⟨_, hAfter⟩, _⟩ := hAccounts.perform platform (.setConstraints [format] none endAlign)
  rw [hCall] at hAfter
  obtain ⟨front, back, hConstraints, hFixed, hLast⟩ := h.split
  obtain ⟨hContext, hCreated⟩ := context_clearConstraints state endAlign
  simp only [perform, setConstraints, addEach_eq, hContext] at hCall
  split at hCall
  · simp at hCall
  · rename_i hDone
    have hMade := made_visual hFormat hDone
    generalize (made platform state.toLayoutContext none
      (clearConstraints state endAlign).created [format]).1 = added at hCall hMade
    simp only [Prod.mk.injEq, and_true] at hCall
    subst hCall
    have hStored : HelperState.stored { (clearConstraints state endAlign).add added with
        temporalConstraints := setObject
          ((clearConstraints state endAlign).add added).temporalConstraints endAlign
          (some added) } endAlign = added := by
      simp [HelperState.stored, setObject]
    refine ⟨⟨⟨_, _, hAfter⟩, front ++ back, [], ?_, ?_, ?_⟩, hContext⟩
    · rw [hStored, List.append_nil, HelperState.add, constraints_clearConstraints]
      have hNodup := hAccounts.nodup
      rw [hConstraints] at hNodup
      rw [hConstraints, filter_clear hNodup]
    · rw [List.append_nil, hFixed]
    · rw [hStored, hMade]

/-- Calls that are all done are done one after the other. -/
theorem performUntil_cons {call : HelperCall V F} {rest : List (HelperCall V F)}
    (hDone : performUntil platform state (call :: rest) = .ok after) :
    ∃ middle, perform platform state call = (middle, none) ∧
      performUntil platform middle rest = .ok after := by
  rw [performUntil] at hDone
  split at hDone
  · rename_i middle hCall
    exact ⟨middle, hCall, hDone⟩
  · cases hDone

/-- A view that UIKit takes stands in the tree; a guide does not move there. -/
theorem addView_of_done {context after : LayoutContext V F} {view : V} {key : Text}
    (hDone : addView platform context view key = (after, none)) :
    after = extendContext platform context context.metrics view key := by
  unfold addView at hDone
  cases hGuide : platform.isLayoutGuide view with
  | true =>
      rw [hGuide] at hDone
      cases hDone
      simp [extendContext, hGuide]
  | false =>
      rw [hGuide] at hDone
      cases hAccepts : platform.acceptsSubview context.view view with
      | true =>
          rw [hAccepts] at hDone
          cases hDone
          simp [extendContext, hGuide]
      | false =>
          rw [hAccepts] at hDone
          cases hDone

/-- Metrics and the new view leave the row as it is. -/
theorem Row.keyed {measured keyed : HelperState V F W} {metrics : Text → Option F} {view : V}
    {key : Text} (h : Row state fixed last)
    (hMeasure : perform platform state (.setMetrics metrics) = (measured, none))
    (hView : perform platform measured (.addView view key) = (keyed, none)) :
    Row keyed fixed last ∧
      keyed.toLayoutContext = extendContext platform state.toLayoutContext metrics view key := by
  obtain ⟨_, _, hAccounts⟩ := h.accounted
  obtain ⟨⟨_, hMeasured⟩, _⟩ := hAccounts.perform platform (.setMetrics metrics)
  rw [hMeasure] at hMeasured
  obtain ⟨⟨_, hKeyed⟩, _⟩ := hMeasured.perform platform (.addView view key)
  rw [hView] at hKeyed
  cases hMeasure
  obtain ⟨hState, hDone⟩ := Prod.mk.inj hView
  subst hState
  exact ⟨h.frame rfl rfl ⟨_, _, hKeyed⟩, addView_of_done (Prod.ext rfl hDone)⟩

/-- What the calls of one append do to the row. -/
theorem Row.append {isDefaultSize : F → Bool} {axis : UILayoutConstraintAxis}
    {margins : Margins F} {i : Nat} {view : V} {size : F} (h : Row state fixed last)
    {made : Text → List (ConstraintContent V F W)} {context : LayoutContext V F}
    (hContext : context = extendContext platform state.toLayoutContext (metricsOf margins size)
      view (viewKeyForIndex i))
    (hMade : made = formatted platform context)
    (hDone : performUntil platform state
      (appendCalls isDefaultSize axis margins i view size) = .ok after) :
    Row after
      (fixed ++ (if isDefaultSize size then [] else made (sizeFormat axis i)) ++
        made (chainFormat axis i) ++ made (sidesFormat axis i)) (made (endFormat axis i)) ∧
      after.toLayoutContext = context := by
  obtain ⟨hSizeFormat, hChainFormat, hEndFormat, hSidesFormat⟩ := formats_visual axis i
  obtain ⟨measured, hMeasure, hDone⟩ := performUntil_cons hDone
  obtain ⟨keyed, hView, hDone⟩ := performUntil_cons hDone
  obtain ⟨hKeyed, hKeyedContext⟩ := h.keyed hMeasure hView
  rw [← hContext] at hKeyedContext
  have hSized : ∃ sized, performUntil platform sized
      [.addConstraints [chainFormat axis i] none,
        .setConstraints [endFormat axis i] none endAlign,
        .addConstraints [sidesFormat axis i] none] = .ok after ∧
      Row sized (fixed ++ if isDefaultSize size then [] else made (sizeFormat axis i)) last ∧
      sized.toLayoutContext = context := by
    cases hDefault : isDefaultSize size with
    | true =>
        rw [hDefault] at hDone
        exact ⟨keyed, hDone, by simpa using hKeyed, hKeyedContext⟩
    | false =>
        rw [hDefault] at hDone
        obtain ⟨sized, hSize, hDone⟩ := performUntil_cons hDone
        obtain ⟨hSized, hSame⟩ := hKeyed.add hSizeFormat hSize
        rw [hKeyedContext, ← hMade] at hSized
        exact ⟨sized, hDone, hSized, hSame.trans hKeyedContext⟩
  obtain ⟨sized, hDone, hSized, hSizedContext⟩ := hSized
  obtain ⟨chained, hChain, hDone⟩ := performUntil_cons hDone
  obtain ⟨hChained, hChainedContext⟩ := hSized.add hChainFormat hChain
  rw [hSizedContext] at hChained hChainedContext
  obtain ⟨aligned, hAlign, hDone⟩ := performUntil_cons hDone
  obtain ⟨hAligned, hAlignedContext⟩ := hChained.set hEndFormat hAlign
  rw [hChainedContext] at hAligned hAlignedContext
  obtain ⟨final, hSides, hDone⟩ := performUntil_cons hDone
  obtain ⟨hFinal, hFinalContext⟩ := hAligned.add hSidesFormat hSides
  cases hDone
  rw [hAlignedContext, ← hMade] at hFinal
  exact ⟨hFinal, hFinalContext.trans hAlignedContext⟩

end Row

section Runs
variable {V F W : Type} {platform : UIKitLayout V F W} {isDefaultSize : F → Bool}
  {axis : UILayoutConstraintAxis}

variable [DecidableEq V]

/-- The layout against the views that were appended to it. -/
structure Lays (platform : UIKitLayout V F W) (isDefaultSize : F → Bool)
    (axis : UILayoutConstraintAxis) (view : V) (linear : LinearLayout V F W)
    (items : List (LayoutItem V F)) : Prop where
  orientation : linear.orientation = axis
  numberOfViews : linear.numberOfViews = items.length
  context : linear.layout.toLayoutContext = contextOf platform view items
  row : Row linear.layout (rowOf platform isDefaultSize axis view items)
    (endOf platform axis view items)

/-- An append lays its view. -/
theorem Lays.step {view : V} {linear after : LinearLayout V F W} {items : List (LayoutItem V F)}
    {action : LayoutAction V F} (h : Lays platform isDefaultSize axis view linear items)
    (hStep : layoutStep platform isDefaultSize linear action = .ok after) :
    Lays platform isDefaultSize axis view after ((itemOf (linear, action)).toList ++ items) := by
  cases action with
  | setMargins margins =>
      cases hStep
      exact ⟨h.orientation, h.numberOfViews, h.context, h.row⟩
  | appendSubview subView size =>
      rw [layoutStep] at hStep
      split at hStep
      · rename_i layout hDone
        cases hStep
        have hContext : contextOf platform view (⟨subView, size, linear.margins⟩ :: items) =
            extendContext platform linear.layout.toLayoutContext
              (metricsOf linear.margins size) subView
              (viewKeyForIndex (linear.numberOfViews + 1)) := by
          rw [h.context, h.numberOfViews]
          rfl
        obtain ⟨hRow, hAfter⟩ := h.row.append hContext rfl hDone
        rw [h.orientation, h.numberOfViews] at hRow
        exact ⟨h.orientation, congrArg (· + 1) h.numberOfViews, hAfter, hRow⟩
      · cases hStep

end Runs

section Sample
open Semantics

end Sample
end LockJaw
