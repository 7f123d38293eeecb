import LockJaw.Layout.Spelling
import LockJaw.Semantics.Checks

/-! `parseXtConstraint` of the layout helper: the text is matched, the views, attributes, the
relation and the numbers are looked up one after another, and the constraint is made. -/
namespace LockJaw

open Semantics XtConstraint

inductive NSLayoutAttribute where
  | left | right | top | bottom | leading | trailing | width | height | centerX | centerY | baseline
deriving DecidableEq

inductive NSLayoutRelation where
  | lessThanOrEqual | equal | greaterThanOrEqual
deriving DecidableEq

def attributes : List (Text × NSLayoutAttribute) :=
  [("left".toList, .left), ("right".toList, .right), ("top".toList, .top),
    ("bottom".toList, .bottom), ("leading".toList, .leading), ("trailing".toList, .trailing),
    ("width".toList, .width), ("height".toList, .height), ("centerX".toList, .centerX),
    ("centerY".toList, .centerY), ("baseline".toList, .baseline)]

def relations : List (Text × NSLayoutRelation) :=
  [("==".toList, .equal), (">=".toList, .greaterThanOrEqual), ("<=".toList, .lessThanOrEqual)]

structure NSLayoutConstraint (V F : Type) where
  firstItem : V
  firstAttribute : NSLayoutAttribute
  relation : NSLayoutRelation
  secondItem : V
  secondAttribute : NSLayoutAttribute
  multiplier : F
  constant : F

/-- What the parser takes from the platform: the digits, the numbers, and which constraints
UIKit lets one make (it raises at the others, such as a width against a left edge). -/
structure LayoutPlatform (V F : Type) extends DecimalDigits where
  one : F
  zero : F
  floatValue : Text → F
  inverse : F → F
  negate : F → F
  accepts : NSLayoutConstraint V F → Bool

/-- What the parser reads of the helper. A metric stands for its `floatValue`. -/
structure AutolayoutHelper (V F : Type) where
  view : V
  subViews : Text → Option V
  metrics : Text → Option F

inductive LayoutException (V F : Type) where
  | invalidConstraint (constraint : Text)
  | noView (key : Text)
  | invalidAttribute (attrStr : Text)
  | invalidRelation (relationStr : Text)
  | noMetric (value : Text)
  | invalidArgument (constraint : NSLayoutConstraint V F)
  | invalidFormat (format : Text)
  | invalidSubview (subView : V)
  | invalidPriority (priority : F)
  | invalidInstallation (position : Nat)
  | rangeException

section Exceptions
variable {V F : Type}

/-- The reasons of the helper's own exceptions; `attributeKeys` and `relationKeys` are the
keys of the two tables as the platform prints them. -/
def LayoutException.reason (attributeKeys relationKeys : Text) :
    LayoutException V F → Option Text
  | invalidConstraint constraint => some ("Invalid extended constraint: ".toList ++ constraint)
  | noView key => some ("No view was added with key `".toList ++ key ++ "`".toList)
  | invalidAttribute attrStr =>
      some ("Attribute `".toList ++ attrStr ++ "` is not valid. Use one of: ".toList ++
        attributeKeys)
  | invalidRelation relationStr =>
      some ("Relation `".toList ++ relationStr ++ "` is not valid. Use one of: ".toList ++
        relationKeys)
  | noMetric value => some ("Metric `".toList ++ value ++ "` was not provided".toList)
  | invalidArgument _ | invalidFormat _ | invalidSubview _ | invalidPriority _
  | invalidInstallation _ | rangeException => none

def LayoutException.offender : LayoutException V F → Option Text
  | invalidConstraint text | noView text | invalidAttribute text | invalidRelation text
  | noMetric text => some text
  | invalidArgument _ | invalidFormat _ | invalidSubview _ | invalidPriority _
  | invalidInstallation _ | rangeException => none

/-- Every reason quotes what it complains about. -/
theorem LayoutException.offender_infix_reason {attributeKeys relationKeys text message : Text}
    (e : LayoutException V F) (hOffender : e.offender = some text)
    (hReason : e.reason attributeKeys relationKeys = some message) : text <:+: message := by
  cases e with
  | invalidConstraint constraint =>
      cases hOffender
      cases hReason
      exact ⟨_, [], List.append_nil _⟩
  | noView key | noMetric value =>
      cases hOffender
      cases hReason
      exact ⟨_, _, rfl⟩
  | invalidAttribute attrStr | invalidRelation relationStr =>
      cases hOffender
      cases hReason
      exact ⟨_, _, (List.append_assoc _ _ _).symm⟩
  | invalidArgument | invalidFormat | invalidSubview | invalidPriority | invalidInstallation
  | rangeException => cases hOffender

end Exceptions

def superview : Text := "superview".toList

section Parser
variable {V F : Type} (platform : LayoutPlatform V F) (helper : AutolayoutHelper V F)

def findViewFromKey (key : Text) : Except (LayoutException V F) V :=
  if key = superview then .ok helper.view
  else match helper.subViews key with
    | some view => .ok view
    | none => .error (.noView key)

def parseAttribute (attrStr : Text) : Except (LayoutException V F) NSLayoutAttribute :=
  match attributes.lookup attrStr with
  | some value => .ok value
  | none => .error (.invalidAttribute attrStr)

def parseRelation (relationStr : Text) : Except (LayoutException V F) NSLayoutRelation :=
  match relations.lookup relationStr with
  | some value => .ok value
  | none => .error (.invalidRelation relationStr)

def stringStartsWithAlphaOrUnderscore : Text → Bool
  | [] => false
  | c :: _ => ('a' ≤ c && c ≤ 'z') || ('A' ≤ c && c ≤ 'Z') || c == '_'

def getFloatFromValue (value : Text) : Except (LayoutException V F) F :=
  if stringStartsWithAlphaOrUnderscore value then
    match helper.metrics value with
    | some metric => .ok metric
    | none => .error (.noMetric value)
  else .ok (platform.floatValue value)

/-- The text of a group of the match; a group without a range has no substring. -/
def substring (found : Regex.Captures Char) (index : Nat) : Except (LayoutException V F) Text :=
  match found[index - 1]? with
  | some (some text) => .ok text
  | _ => .error .rangeException

/-- `constraintWithItem:attribute:relatedBy:toItem:attribute:multiplier:constant:` -/
def constraintWithItem (constraint : NSLayoutConstraint V F) :
    Except (LayoutException V F) (NSLayoutConstraint V F) :=
  if platform.accepts constraint then .ok constraint else .error (.invalidArgument constraint)

def parseXtConstraint (constraint : Text) :
    Except (LayoutException V F) (NSLayoutConstraint V F) :=
  match Regex.firstMatch atEnd (xtConstraintRegex platform.toDecimalDigits) constraint with
  | none => .error (.invalidConstraint constraint)
  | some found =>
      if found.length + 1 ≠ 10 then .error (.invalidConstraint constraint)
      else do
        let item1Key ← substring found 1
        let attr1Str ← substring found 2
        let relationStr ← substring found 3
        let item2Key ← substring found 4
        let attr2Str ← substring found 5
        let item1 ← findViewFromKey helper item1Key
        let item2 ← findViewFromKey helper item2Key
        let attr1 ← parseAttribute attr1Str
        let attr2 ← parseAttribute attr2Str
        let relation ← parseRelation relationStr
        let multiplier ← match found[5]? with
          | some (some operation) => do
              let multiplierValue ← substring found 7
              let multiplier ← getFloatFromValue platform helper multiplierValue
              .ok (if operation = ['/'] then platform.inverse multiplier else multiplier)
          | _ => .ok platform.one
        let constant ← match found[7]? with
          | some (some operation) => do
              let constantValue ← substring found 9
              let constant ← getFloatFromValue platform helper constantValue
              .ok (if operation = ['-'] then platform.negate constant else constant)
          | _ => .ok platform.zero
        constraintWithItem platform ⟨item1, attr1, relation, item2, attr2, multiplier, constant⟩

end Parser
end LockJaw
