import LockJaw.Layout.Meaning

/-! Which constraints the helper's own format can express. Every attribute and relation has a
name; a view has one only if it is the superview or is registered under an identifier of at
most 31 characters other than `superview`. -/
namespace LockJaw

open XtConstraint

section Names
variable {V F : Type} (platform : LayoutPlatform V F) (helper : AutolayoutHelper V F)

def Named (view : V) : Prop :=
  view = helper.view ∨
    ∃ key, IsIdentifier key ∧ key ≠ superview ∧ helper.subViews key = some view

/-- A number that some value stands for: that of a metric, or one read from digits. -/
def Available (number : F) : Prop :=
  ∃ value, (IsIdentifier value ∨ IsNumber platform.toDecimalDigits value) ∧
    Reads platform helper value number

/-- An operation can be left out, use the value, or change it. -/
def Expressible (default : F) (change : F → F) (number : F) : Prop :=
  number = default ∨ ∃ read, Available platform helper read ∧
    (number = read ∨ number = change read)

theorem isIdentifier_iff {text : Text} :
    IsIdentifier text ↔ text.head?.any startsIdentifier = true ∧
      text.tail.all continuesIdentifier = true ∧ text.length ≤ 31 := by
  cases text with
  | nil =>
      constructor
      · intro ⟨c, rest, hText, _⟩
        cases hText
      · intro ⟨hHead, _⟩
        cases hHead
  | cons c rest =>
      simp only [List.head?_cons, Option.any_some, List.tail_cons, List.all_eq_true,
        List.length_cons]
      constructor
      · intro ⟨d, word, hText, hStarts, hContinues, hLength⟩
        cases hText
        exact ⟨hStarts, hContinues, by omega⟩
      · intro ⟨hStarts, hContinues, hLength⟩
        exact ⟨c, rest, rfl, hStarts, hContinues, by omega⟩

instance (text : Text) : Decidable (IsIdentifier text) := decidable_of_iff _ isIdentifier_iff.symm

variable {helper}

/-- Some key finds a view exactly when the view has a name that the pattern can spell. -/
theorem exists_finds_iff {view : V} :
    (∃ key : Identifier, Finds helper key.1 view) ↔ Named helper view := by
  constructor
  · intro ⟨key, hFinds⟩
    by_cases hSuperview : key.1 = superview
    · rw [Finds, if_pos hSuperview] at hFinds
      exact .inl hFinds
    · rw [Finds, if_neg hSuperview] at hFinds
      exact .inr ⟨key.1, key.2, hSuperview, hFinds⟩
  · intro hNamed
    cases hNamed with
    | inl hView =>
        refine ⟨⟨superview, by decide⟩, ?_⟩
        rw [Finds, if_pos rfl]
        exact hView
    | inr hKey =>
        obtain ⟨key, hIdentifier, hSuperview, hView⟩ := hKey
        refine ⟨⟨key, hIdentifier⟩, ?_⟩
        rw [Finds, if_neg hSuperview]
        exact hView

/-- The keys of the tables can all be written, and none hides another. -/
theorem attributes_lookup : ∀ entry ∈ attributes,
    IsIdentifier entry.1 ∧ attributes.lookup entry.1 = some entry.2 := by
  decide

/-- Every entry of the table of relations is spelled with `=`, `>` and `<`, and found. -/
theorem relations_lookup : ∀ entry ∈ relations,
    (entry.1 ≠ [] ∧ entry.1.all isRelation = true) ∧
      relations.lookup entry.1 = some entry.2 := by
  decide

/-- Every attribute has a name in the table. -/
theorem exists_attribute_name (value : NSLayoutAttribute) :
    ∃ name : Identifier, attributes.lookup name.1 = some value := by
  have hEntry : ∃ entry ∈ attributes, entry.2 = value := by
    cases value <;> decide
  obtain ⟨entry, hMem, rfl⟩ := hEntry
  obtain ⟨hIdentifier, hLookup⟩ := attributes_lookup entry hMem
  exact ⟨⟨entry.1, hIdentifier⟩, hLookup⟩

/-- Every relation has a word in the table. -/
theorem exists_relation_text (value : NSLayoutRelation) :
    ∃ word : RelationText, relations.lookup word.1 = some value := by
  have hEntry : ∃ entry ∈ relations, entry.2 = value := by
    cases value <;> decide
  obtain ⟨entry, hMem, rfl⟩ := hEntry
  obtain ⟨hWord, hLookup⟩ := relations_lookup entry hMem
  exact ⟨⟨entry.1, hWord.1, List.all_eq_true.mp hWord.2⟩, hLookup⟩

variable {platform}

/-- An operation computes its default, a readable number, or the changed value of one. -/
theorem exists_computes_iff {accepts : Char → Bool} {default number : F} {plain symbol : Char}
    {change : F → F} (hPlain : accepts plain = true) (hSymbol : accepts symbol = true)
    (hDistinct : plain ≠ symbol) :
    (∃ operation : Option (Operation platform.toDecimalDigits accepts),
        Computes platform helper default symbol change operation number) ↔
      Expressible platform helper default change number := by
  constructor
  · intro ⟨operation, hComputes⟩
    cases operation with
    | none => exact .inl hComputes
    | some operation =>
        obtain ⟨read, hReads, hNumber⟩ := hComputes
        refine .inr ⟨read, ⟨operation.value, operation.wellFormed, hReads⟩, ?_⟩
        rw [hNumber]
        split
        · exact .inr rfl
        · exact .inl rfl
  · intro hExpressible
    cases hExpressible with
    | inl hDefault => exact ⟨none, hDefault⟩
    | inr hRead =>
        obtain ⟨read, ⟨value, hValue, hReads⟩, hNumber⟩ := hRead
        cases hNumber with
        | inl hSame =>
            refine ⟨some ⟨plain, value, hPlain, hValue⟩, read, hReads, ?_⟩
            rw [if_neg hDistinct]
            exact hSame
        | inr hChanged =>
            refine ⟨some ⟨symbol, value, hSymbol, hValue⟩, read, hReads, ?_⟩
            rw [if_pos rfl]
            exact hChanged

/-- The numbers that a factor can compute. -/
theorem exists_multiplier_iff {number : F} :
    (∃ operation : Option (Operation platform.toDecimalDigits isMultiplication),
        Computes platform helper platform.one '/' platform.inverse operation number) ↔
      Expressible platform helper platform.one platform.inverse number :=
  exists_computes_iff (show isMultiplication '*' = true from rfl) rfl (by decide)

/-- The numbers that a term can compute. -/
theorem exists_constant_iff {number : F} :
    (∃ operation : Option (Operation platform.toDecimalDigits isAddition),
        Computes platform helper platform.zero '-' platform.negate operation number) ↔
      Expressible platform helper platform.zero platform.negate number :=
  exists_computes_iff (show isAddition '+' = true from rfl) rfl (by decide)

/-- One space around the relation, as the screens write their constraints. -/
def usualSpacing : Spacing :=
  ⟨'X', 0, 1, 1, 1, 1, 1, 1, [], rfl, rfl⟩

/-- A constraint can be written in the helper's format exactly when UIKit can make it, its
items have names and its numbers are values; its attributes and relation always have names. -/
theorem xt_constraint_expressible_iff (c : NSLayoutConstraint V F) :
    (∃ text, parseXtConstraint platform helper text = .ok c) ↔
      platform.accepts c = true ∧ Named helper c.firstItem ∧ Named helper c.secondItem ∧
        Expressible platform helper platform.one platform.inverse c.multiplier ∧
        Expressible platform helper platform.zero platform.negate c.constant := by
  rw [← exists_finds_iff, ← exists_finds_iff, ← exists_multiplier_iff, ← exists_constant_iff]
  constructor
  · intro ⟨text, hOk⟩
    obtain ⟨⟨expr, _, hDenotes⟩, hAccepts⟩ := parse_eq_ok_iff.mp hOk
    exact ⟨hAccepts, ⟨expr.item1Key, hDenotes.firstItem⟩, ⟨expr.item2Key, hDenotes.secondItem⟩,
      ⟨expr.multiplier, hDenotes.multiplier⟩, ⟨expr.constant, hDenotes.constant⟩⟩
  · intro ⟨hAccepts, ⟨item1Key, hItem1⟩, ⟨item2Key, hItem2⟩, ⟨factor, hMultiplier⟩,
      ⟨term, hConstant⟩⟩
    obtain ⟨attr1, hAttr1⟩ := exists_attribute_name c.firstAttribute
    obtain ⟨attr2, hAttr2⟩ := exists_attribute_name c.secondAttribute
    obtain ⟨word, hRelation⟩ := exists_relation_text c.relation
    let expr : Expression platform.toDecimalDigits :=
      ⟨item1Key, attr1, word, item2Key, attr2, factor, term⟩
    refine ⟨expr.spell usualSpacing, parse_eq_ok_iff.mpr ⟨⟨expr, ?_, ?_⟩, hAccepts⟩⟩
    · exact ⟨usualSpacing, rfl⟩
    · exact ⟨hItem1, hItem2, hAttr1, hAttr2, hRelation, hMultiplier, hConstant⟩

end Names
end LockJaw
