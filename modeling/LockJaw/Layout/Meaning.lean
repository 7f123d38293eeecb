import LockJaw.Layout.Constraint

/-! What an extended constraint means: the constraint that its expression denotes over the
views and metrics of a helper, the faults that it can have, and that the parser computes
the one and raises the first of the others. -/
namespace LockJaw

open Semantics XtConstraint

section Meaning
variable {V F : Type} (platform : LayoutPlatform V F) (helper : AutolayoutHelper V F)

def Finds (key : Text) (view : V) : Prop :=
  if key = superview then view = helper.view else helper.subViews key = some view

def Reads (value : Text) (number : F) : Prop :=
  if stringStartsWithAlphaOrUnderscore value then helper.metrics value = some number
  else number = platform.floatValue value

/-- The number of an operation: one of its two symbols changes the value that it has. -/
def Computes {accepts : Char → Bool} (default : F) (symbol : Char) (change : F → F) :
    Option (Operation platform.toDecimalDigits accepts) → F → Prop
  | none, number => number = default
  | some operation, number => ∃ read, Reads platform helper operation.value read ∧
      number = if operation.symbol = symbol then change read else read

structure Denotes (expr : Expression platform.toDecimalDigits) (c : NSLayoutConstraint V F) :
    Prop where
  firstItem : Finds helper expr.item1Key.1 c.firstItem
  secondItem : Finds helper expr.item2Key.1 c.secondItem
  firstAttribute : attributes.lookup expr.attr1.1 = some c.firstAttribute
  secondAttribute : attributes.lookup expr.attr2.1 = some c.secondAttribute
  relation : relations.lookup expr.relation.1 = some c.relation
  multiplier : Computes platform helper platform.one '/' platform.inverse expr.multiplier
    c.multiplier
  constant : Computes platform helper platform.zero '-' platform.negate expr.constant c.constant

def viewFaults (key : Text) : List (LayoutException V F) :=
  if key ≠ superview ∧ (helper.subViews key).isNone then [.noView key] else []

def attributeFaults (attrStr : Text) : List (LayoutException V F) :=
  if (attributes.lookup attrStr).isNone then [.invalidAttribute attrStr] else []

def relationFaults (relationStr : Text) : List (LayoutException V F) :=
  if (relations.lookup relationStr).isNone then [.invalidRelation relationStr] else []

def valueFaults (value : Text) : List (LayoutException V F) :=
  if stringStartsWithAlphaOrUnderscore value ∧ (helper.metrics value).isNone then
    [.noMetric value]
  else []

def operationFaults {accepts : Char → Bool} :
    Option (Operation platform.toDecimalDigits accepts) → List (LayoutException V F)
  | none => []
  | some operation => valueFaults helper operation.value

/-- All faults of an expression, in the order of the checks. -/
def faults (expr : Expression platform.toDecimalDigits) : List (LayoutException V F) :=
  viewFaults helper expr.item1Key.1 ++ (viewFaults helper expr.item2Key.1 ++
    (attributeFaults expr.attr1.1 ++ (attributeFaults expr.attr2.1 ++
      (relationFaults expr.relation.1 ++ (operationFaults platform helper expr.multiplier ++
        operationFaults platform helper expr.constant)))))

/-! The parser's part after the match. -/

def computeOperation {accepts : Char → Bool} (default : F) (symbol : Char) (change : F → F) :
    Option (Operation platform.toDecimalDigits accepts) → Except (LayoutException V F) F
  | none => .ok default
  | some operation => do
      let number ← getFloatFromValue platform helper operation.value
      .ok (if operation.symbol = symbol then change number else number)

def evaluate (expr : Expression platform.toDecimalDigits) :
    Except (LayoutException V F) (NSLayoutConstraint V F) := do
  let item1 ← findViewFromKey helper expr.item1Key.1
  let item2 ← findViewFromKey helper expr.item2Key.1
  let attr1 ← parseAttribute expr.attr1.1
  let attr2 ← parseAttribute expr.attr2.1
  let relation ← parseRelation expr.relation.1
  let multiplier ← computeOperation platform helper platform.one '/' platform.inverse
    expr.multiplier
  let constant ← computeOperation platform helper platform.zero '-' platform.negate expr.constant
  .ok ⟨item1, attr1, relation, item2, attr2, multiplier, constant⟩

end Meaning

section Parts
variable {V F : Type} {platform : LayoutPlatform V F} {helper : AutolayoutHelper V F}

/-- A text that spells a constraint is evaluated part by part and handed to UIKit. -/
theorem parse_of_spells {text : Text} {expr : Expression platform.toDecimalDigits}
    (hSpells : Spells text expr) :
    parseXtConstraint platform helper text =
      evaluate platform helper expr >>= constraintWithItem platform := by
  have hBind : ∀ {α β : Type} (value : α) (next : α → Except (LayoutException V F) β),
      (Except.ok value >>= next) = next value := fun _ _ => rfl
  rw [parseXtConstraint, match_eq_some_iff.mpr ⟨expr, hSpells, rfl⟩]
  cases hMultiplier : expr.multiplier <;> cases hConstant : expr.constant <;>
    simp [Expression.captures, substring, evaluate, computeOperation, hMultiplier, hConstant,
      hBind]

/-- A text that spells no constraint is refused with the text itself. -/
theorem parse_of_not_spells {text : Text}
    (hNone : ∀ expr : Expression platform.toDecimalDigits, ¬ Spells text expr) :
    parseXtConstraint platform helper text = .error (.invalidConstraint text) := by
  rw [parseXtConstraint, match_eq_none_iff.mpr hNone]

/-- A view is looked up among the views of the helper, `superview` among them. -/
theorem checked_view (key : Text) :
    Checked (findViewFromKey helper key) (viewFaults helper key) (Finds helper key) := by
  by_cases hSuperview : key = superview
  · have hRight : Finds helper key = (· = helper.view) := by
      funext view
      simp [Finds, hSuperview]
    rw [hRight, findViewFromKey, if_pos hSuperview, viewFaults,
      if_neg (fun h => h.1 hSuperview)]
    exact .pure helper.view
  · have hRight : Finds helper key = (helper.subViews key = some ·) := by
      funext view
      simp [Finds, hSuperview]
    have hFaults : viewFaults helper key =
        if (helper.subViews key).isNone then [.noView key] else [] := by
      simp [viewFaults, hSuperview]
    rw [hRight, findViewFromKey, if_neg hSuperview, hFaults]
    exact .lookup (fun hNone => by rw [hNone]) (fun view hView => by rw [hView])

/-- The table of the attributes decides which names are attributes. -/
theorem checked_attribute (attrStr : Text) :
    Checked (parseAttribute attrStr : Except (LayoutException V F) _) (attributeFaults attrStr)
      (attributes.lookup attrStr = some ·) := by
  rw [parseAttribute, attributeFaults]
  exact .lookup (fun hNone => by rw [hNone]) (fun value hValue => by rw [hValue])

/-- The table of the relations decides which words are relations. -/
theorem checked_relation (relationStr : Text) :
    Checked (parseRelation relationStr : Except (LayoutException V F) _)
      (relationFaults relationStr) (relations.lookup relationStr = some ·) := by
  rw [parseRelation, relationFaults]
  exact .lookup (fun hNone => by rw [hNone]) (fun value hValue => by rw [hValue])

/-- A value is a metric of the helper or the number that its text reads as. -/
theorem checked_value (value : Text) :
    Checked (getFloatFromValue platform helper value) (valueFaults helper value)
      (Reads platform helper value) := by
  cases hMetric : stringStartsWithAlphaOrUnderscore value with
  | false =>
      have hRight : Reads platform helper value = (· = platform.floatValue value) := by
        funext number
        simp [Reads, hMetric]
      rw [hRight, getFloatFromValue, valueFaults]
      simp only [hMetric, Bool.false_eq_true, false_and, if_false]
      exact .pure (platform.floatValue value)
  | true =>
      have hRight : Reads platform helper value = (helper.metrics value = some ·) := by
        funext number
        simp [Reads, hMetric]
      rw [hRight, getFloatFromValue, valueFaults]
      simp only [hMetric, true_and, if_true]
      exact .lookup (fun hNone => by rw [hNone]) (fun metric hFound => by rw [hFound])

/-- An operation that is left out has its default; one that is there changes its value where
its symbol says so. -/
theorem checked_operation {accepts : Char → Bool} (default : F) (symbol : Char) (change : F → F)
    (operation : Option (Operation platform.toDecimalDigits accepts)) :
    Checked (computeOperation platform helper default symbol change operation)
      (operationFaults platform helper operation)
      (Computes platform helper default symbol change operation) := by
  cases operation with
  | none => exact .pure default
  | some operation =>
      have hFaults : operationFaults platform helper (some operation) =
          valueFaults helper operation.value ++ [] := by
        rw [List.append_nil]
        rfl
      rw [hFaults]
      exact (checked_value operation.value).bind fun read _ => .pure _

/-- The parser after the match computes what the expression denotes, and raises the first of
its faults. -/
theorem checked_evaluate (expr : Expression platform.toDecimalDigits) :
    Checked (evaluate platform helper expr) (faults platform helper expr)
      (Denotes platform helper expr) := by
  refine Checked.of_iff ((checked_view _).bind fun item1 _ => (checked_view _).bind fun item2 _ =>
    (checked_attribute _).bind fun attr1 _ => (checked_attribute _).bind fun attr2 _ =>
    (checked_relation _).bind fun relation _ => (checked_operation _ _ _ _).bind fun multiplier _ =>
    (checked_operation _ _ _ _).map (NSLayoutConstraint.mk item1 attr1 relation item2 attr2
      multiplier)) fun c => ?_
  constructor
  · intro ⟨_, hItem1, _, hItem2, _, hAttr1, _, hAttr2, _, hRelation, _, hMultiplier, _, hConstant,
      hConstraint⟩
    rw [hConstraint]
    exact ⟨hItem1, hItem2, hAttr1, hAttr2, hRelation, hMultiplier, hConstant⟩
  · intro h
    exact ⟨_, h.firstItem, _, h.secondItem, _, h.firstAttribute, _, h.secondAttribute, _,
      h.relation, _, h.multiplier, _, h.constant, rfl⟩

/-- UIKit makes the constraints that it accepts. -/
theorem constraintWithItem_eq_ok_iff {made c : NSLayoutConstraint V F} :
    constraintWithItem platform made = .ok c ↔ made = c ∧ platform.accepts c = true := by
  rw [constraintWithItem]
  split
  · rename_i hAccepts
    constructor
    · intro hOk
      cases hOk
      exact ⟨rfl, hAccepts⟩
    · intro hSame
      rw [hSame.1]
  · rename_i hRejects
    constructor
    · intro hOk
      cases hOk
    · intro hSame
      exact absurd (hSame.1 ▸ hSame.2) hRejects

/-- UIKit refuses the others, and names the one it refuses. -/
theorem constraintWithItem_eq_error_iff {made : NSLayoutConstraint V F}
    {e : LayoutException V F} :
    constraintWithItem platform made = .error e ↔
      platform.accepts made = false ∧ e = .invalidArgument made := by
  rw [constraintWithItem]
  cases hAccepts : platform.accepts made with
  | true => simp
  | false => simp [eq_comm]

/-- The constraints that a text parses to are those it denotes, as far as UIKit accepts them.
-/
theorem parse_eq_ok_iff {text : Text} {c : NSLayoutConstraint V F} :
    parseXtConstraint platform helper text = .ok c ↔
      (∃ expr, Spells text expr ∧ Denotes platform helper expr c) ∧
        platform.accepts c = true := by
  constructor
  · intro hOk
    by_cases hSpelled : ∃ expr : Expression platform.toDecimalDigits, Spells text expr
    · obtain ⟨expr, hSpells⟩ := hSpelled
      rw [parse_of_spells hSpells, (checked_evaluate expr).bind_eq_ok_iff] at hOk
      obtain ⟨made, hDenotes, hMade⟩ := hOk
      obtain ⟨rfl, hAccepts⟩ := constraintWithItem_eq_ok_iff.mp hMade
      exact ⟨⟨expr, hSpells, hDenotes⟩, hAccepts⟩
    · rw [parse_of_not_spells (not_exists.mp hSpelled)] at hOk
      cases hOk
  · intro ⟨⟨expr, hSpells, hDenotes⟩, hAccepts⟩
    rw [parse_of_spells hSpells, (checked_evaluate expr).bind_eq_ok_iff]
    exact ⟨c, hDenotes, constraintWithItem_eq_ok_iff.mpr ⟨rfl, hAccepts⟩⟩

/-- A text can be read in one way at most, and it gives a constraint exactly when what it
spells denotes the constraint and UIKit can make it. -/
theorem xt_constraint_parsed_iff (text : Text) :
    (∀ first second : Expression platform.toDecimalDigits,
      Spells text first → Spells text second → first = second) ∧
    ∀ c, parseXtConstraint platform helper text = .ok c ↔
      (∃ expr, Spells text expr ∧ Denotes platform helper expr c) ∧
        platform.accepts c = true :=
  ⟨fun _ _ hFirst hSecond => spells_unique hFirst hSecond, fun _ => parse_eq_ok_iff⟩

/-- A text that spells nothing is invalid as a whole; else the first fault of its expression
is raised, in the order of the checks, and at last UIKit may refuse the constraint. -/
theorem xt_constraint_raised_iff (text : Text) (e : LayoutException V F) :
    parseXtConstraint platform helper text = .error e ↔
      (∀ expr : Expression platform.toDecimalDigits, ¬ Spells text expr) ∧
          e = .invalidConstraint text ∨
        ∃ expr, Spells text expr ∧ ((faults platform helper expr).head? = some e ∨
          ∃ c, Denotes platform helper expr c ∧ platform.accepts c = false ∧
            e = .invalidArgument c) := by
  by_cases hSpelled : ∃ expr : Expression platform.toDecimalDigits, Spells text expr
  · obtain ⟨expr, hSpells⟩ := hSpelled
    have hOnly : ∀ other : Expression platform.toDecimalDigits, Spells text other → other = expr :=
      fun other hOther => spells_unique hOther hSpells
    simp only [parse_of_spells hSpells, (checked_evaluate expr).bind_eq_error_iff,
      constraintWithItem_eq_error_iff]
    constructor
    · intro hRaised
      exact .inr ⟨expr, hSpells, hRaised⟩
    · intro h
      cases h with
      | inl hNone => exact absurd hSpells (hNone.1 expr)
      | inr hSome =>
          obtain ⟨other, hOther, hRaised⟩ := hSome
          rw [hOnly other hOther] at hRaised
          exact hRaised
  · have hNone := not_exists.mp hSpelled
    rw [parse_of_not_spells hNone, Except.error.injEq]
    constructor
    · intro hSame
      exact .inl ⟨hNone, hSame.symm⟩
    · intro h
      cases h with
      | inl hInvalid => exact hInvalid.2.symm
      | inr hSome =>
          obtain ⟨expr, hSpells, _⟩ := hSome
          exact absurd hSpells (hNone expr)

end Parts

section Sample

def plainLayout : LayoutPlatform Nat Nat where
  toDecimalDigits := asciiDigits
  one := 1
  zero := 0
  floatValue := List.length
  inverse := id
  negate := id
  accepts := fun _ => true

/-- The source says that the pattern lets only right relations through. It does not. -/
example : parseXtConstraint plainLayout ⟨0, fun _ => none, fun _ => none⟩
    "X:superview.width => superview.height".toList = .error (.invalidRelation "=>".toList) :=
  rfl

end Sample
end LockJaw
