import LockJaw.Regex.Expr

/-! The regular expression of the layout helper for its own constraints, such as
`X:v1.leading == v2.centerX / 2 + 10`, and the texts that it matches: each is the spelling
of one expression, with spaces between its parts. -/
namespace LockJaw

abbrev Text := List Char

namespace XtConstraint

open Regex

def lineTerminators : Text :=
  [0x0A, 0x0B, 0x0C, 0x0D, 0x85, 0x2028, 0x2029].map Char.ofNat

/-- `\d` stands for the decimal digits of Unicode. -/
structure DecimalDigits where
  isDecimal : Char → Bool
  isDecimal_ascii : ∀ c : Char, c.toNat < 128 → isDecimal c = c.isDigit
  isDecimal_lineTerminator : ∀ c ∈ lineTerminators, isDecimal c = false

def asciiDigits : DecimalDigits where
  isDecimal := Char.isDigit
  isDecimal_ascii := fun _ _ => rfl
  isDecimal_lineTerminator := by
    have hAll : lineTerminators.all (fun c => c.isDigit == false) = true := by decide
    exact fun c hMem => beq_iff_eq.mp (List.all_eq_true.mp hAll c hMem)

/-- `$` also stands before a line terminator that ends the text. -/
def atEnd : Text → Bool
  | [] => true
  | [c] => decide (c ∈ lineTerminators)
  | [c, d] => c == Char.ofNat 0x0D && d == Char.ofNat 0x0A
  | _ => false

/-- `[_a-zA-Z]`: the option to ignore case adds the long s and the Kelvin sign. -/
def startsIdentifier (c : Char) : Bool :=
  c == '_' || c.isAlpha || c == Char.ofNat 0x017F || c == Char.ofNat 0x212A

/-- `[_a-zA-Z0-9]` -/
def continuesIdentifier (c : Char) : Bool := startsIdentifier c || c.isDigit

def isXtSymbol (c : Char) : Bool := c == 'X' || c == 'x'

def isRelation (c : Char) : Bool := c == '=' || c == '>' || c == '<'

def isMultiplication (c : Char) : Bool := c == '*' || c == '/'

def isAddition (c : Char) : Bool := c == '+' || c == '-'

/-! The parts of the pattern, under their names in `initializeXtConstraintRegex`. -/

def one (accepts : Char → Bool) : Expr Char := .run accepts 1 (some 1)

def spaces : Expr Char := .run (· == ' ') 0 none

def identifier : Expr Char := .seq (one startsIdentifier) (.run continuesIdentifier 0 (some 30))

def attr : Expr Char :=
  .seq (.group identifier) (.seq (one (· == '.')) (.group identifier))

def relation : Expr Char := .group (.run isRelation 1 none)

section Numbers
variable (digits : DecimalDigits)

def number : Expr Char :=
  .seq (.run digits.isDecimal 1 none)
    (.seq (.opt (one (· == '.'))) (.run digits.isDecimal 0 none))

def value : Expr Char := .alt identifier (number digits)

/-- The multiplier and the constant: an operation and a value. -/
def operation (accepts : Char → Bool) : Expr Char :=
  .seq (.group (one accepts)) (.seq spaces (.group (value digits)))

def multiplier : Expr Char := operation digits isMultiplication

def constant : Expr Char := operation digits isAddition

/-- What the pattern has after the second attribute. -/
def operations : Expr Char :=
  .seq spaces (.seq (.opt (multiplier digits)) (.seq spaces (.opt (constant digits))))

def xtConstraintRegex : Expr Char :=
  .seq (one isXtSymbol) (.seq (one (· == ':')) (.seq spaces (.seq attr (.seq spaces
    (.seq relation (.seq spaces (.seq attr (operations digits))))))))

end Numbers

/-! What the texts spell. -/

def IsIdentifier (text : Text) : Prop :=
  ∃ c rest, text = c :: rest ∧ startsIdentifier c = true ∧
    (∀ d ∈ rest, continuesIdentifier d = true) ∧ rest.length ≤ 30

abbrev Identifier := {text : Text // IsIdentifier text}

/-- A relation is any word of its three characters; which words are relations is left to
the table of relations. -/
abbrev RelationText := {text : Text // text ≠ [] ∧ ∀ c ∈ text, isRelation c = true}

section Expressions
variable {digits : DecimalDigits}

def IsNumber (digits : DecimalDigits) (text : Text) : Prop :=
  ∃ whole point fraction, text = whole ++ (point ++ fraction) ∧ whole ≠ [] ∧
    (∀ c ∈ whole, digits.isDecimal c = true) ∧ (point = ['.'] ∨ point = []) ∧
      ∀ c ∈ fraction, digits.isDecimal c = true

structure Operation (digits : DecimalDigits) (accepts : Char → Bool) where
  symbol : Char
  value : Text
  accepted : accepts symbol = true
  wellFormed : IsIdentifier value ∨ IsNumber digits value

structure Expression (digits : DecimalDigits) where
  item1Key : Identifier
  attr1 : Identifier
  relation : RelationText
  item2Key : Identifier
  attr2 : Identifier
  multiplier : Option (Operation digits isMultiplication)
  constant : Option (Operation digits isAddition)

/-- What the matcher's nine groups hold. -/
def Expression.captures (expr : Expression digits) : Captures Char :=
  [some expr.item1Key.1, some expr.attr1.1, some expr.relation.1, some expr.item2Key.1,
    some expr.attr2.1, expr.multiplier.map fun operation => [operation.symbol],
    expr.multiplier.map Operation.value, expr.constant.map fun operation => [operation.symbol],
    expr.constant.map Operation.value]

/-- What the spelling of an expression is free to choose. -/
structure Spacing where
  symbol : Char
  beforeItem1 : Nat
  beforeRelation : Nat
  afterRelation : Nat
  beforeMultiplier : Nat
  inMultiplier : Nat
  beforeConstant : Nat
  inConstant : Nat
  ending : Text
  isXtSymbol_symbol : isXtSymbol symbol = true
  atEnd_ending : atEnd ending = true

def blank (count : Nat) : Text := List.replicate count ' '

def Operation.spell {accepts : Char → Bool} (gap : Nat) (rest : Text) :
    Option (Operation digits accepts) → Text
  | none => rest
  | some operation => operation.symbol :: (blank gap ++ (operation.value ++ rest))

def Expression.spellConstant (expr : Expression digits) (spacing : Spacing) : Text :=
  blank spacing.beforeConstant ++ Operation.spell spacing.inConstant spacing.ending expr.constant

def Expression.spellOperations (expr : Expression digits) (spacing : Spacing) : Text :=
  blank spacing.beforeMultiplier ++
    Operation.spell spacing.inMultiplier (expr.spellConstant spacing) expr.multiplier

def Expression.spell (expr : Expression digits) (spacing : Spacing) : Text :=
  spacing.symbol :: ':' :: (blank spacing.beforeItem1 ++ (expr.item1Key.1 ++ '.' ::
    (expr.attr1.1 ++ (blank spacing.beforeRelation ++ (expr.relation.1 ++
      (blank spacing.afterRelation ++ (expr.item2Key.1 ++ '.' ::
        (expr.attr2.1 ++ expr.spellOperations spacing))))))))

def Spells (text : Text) (expr : Expression digits) : Prop :=
  ∃ spacing, text = expr.spell spacing

end Expressions

section Words
variable {digits : DecimalDigits} {word : Text} {captures : Captures Char}

/-- A gap is any number of blanks, and captures nothing. -/
theorem matches_spaces_iff :
    Matches spaces word captures ↔ ∃ count, word = blank count ∧ captures = [] := by
  rw [spaces, matches_run_iff]
  constructor
  · intro ⟨⟨hAccepts, _, _⟩, hNone⟩
    refine ⟨word.length, List.eq_replicate_iff.mpr ⟨rfl, ?_⟩, hNone⟩
    exact fun c hMem => beq_iff_eq.mp (hAccepts c hMem)
  · intro ⟨count, hWord, hNone⟩
    subst hWord
    simp [blank, hNone]

/-- `[_a-zA-Z][_a-zA-Z0-9]{0,30}` takes the names of views and attributes. -/
theorem matches_identifier_iff :
    Matches identifier word captures ↔ IsIdentifier word ∧ captures = [] := by
  rw [identifier, matches_seq_iff]
  constructor
  · intro ⟨_, _, rest, _, hFirst, hRest, hWord, hCaptures⟩
    obtain ⟨c, hStarts, rfl, rfl⟩ := matches_one_iff.mp hFirst
    obtain ⟨⟨hContinues, _, hMost⟩, rfl⟩ := matches_run_iff.mp hRest
    exact ⟨⟨c, rest, hWord, hStarts, hContinues, hMost 30 rfl⟩, hCaptures⟩
  · intro ⟨⟨c, rest, hWord, hStarts, hContinues, hLength⟩, hNone⟩
    refine ⟨[c], [], rest, [], matches_one_iff.mpr ⟨c, hStarts, rfl, rfl⟩, ?_, hWord, hNone⟩
    refine matches_run_iff.mpr ⟨⟨hContinues, Nat.zero_le _, ?_⟩, rfl⟩
    intro bound hBound
    cases hBound
    exact hLength

/-- A number has digits before its point, and may have none after it. -/
theorem matches_number_iff :
    Matches (number digits) word captures ↔ IsNumber digits word ∧ captures = [] := by
  simp only [number, matches_seq_iff, matches_opt_iff, one, matches_one_iff]
  constructor
  · intro ⟨whole, _, _, _, hWhole, hRest, hWord, hCaptures⟩
    obtain ⟨point, _, fraction, _, hPoint, hFraction, rfl, rfl⟩ := hRest
    obtain ⟨⟨hDecimal, hLeast, _⟩, rfl⟩ := matches_run_iff.mp hWhole
    obtain ⟨⟨hDecimals, _, _⟩, rfl⟩ := matches_run_iff.mp hFraction
    have hSome : whole ≠ [] := List.length_pos_iff.mp hLeast
    cases hPoint with
    | inl hPoint =>
        obtain ⟨c, hDot, rfl, rfl⟩ := hPoint
        rw [beq_iff_eq.mp hDot] at hWord
        exact ⟨⟨whole, ['.'], fraction, hWord, hSome, hDecimal, .inl rfl, hDecimals⟩, hCaptures⟩
    | inr hNone =>
        obtain ⟨rfl, rfl⟩ := hNone
        exact ⟨⟨whole, [], fraction, hWord, hSome, hDecimal, .inr rfl, hDecimals⟩, hCaptures⟩
  · intro ⟨⟨whole, point, fraction, hWord, hSome, hDecimal, hPoint, hDecimals⟩, hNone⟩
    refine ⟨whole, [], point ++ fraction, [], ?_, ⟨point, [], fraction, [], ?_, ?_, rfl, rfl⟩,
      hWord, hNone⟩
    · exact matches_run_iff.mpr ⟨⟨hDecimal, List.length_pos_iff.mpr hSome, by simp⟩, rfl⟩
    · cases hPoint with
      | inl hDot => exact .inl ⟨'.', rfl, hDot, rfl⟩
      | inr hEmpty => exact .inr ⟨hEmpty, rfl⟩
    · exact matches_run_iff.mpr ⟨⟨hDecimals, Nat.zero_le _, by simp⟩, rfl⟩

/-- A value is the name of a metric or a number. -/
theorem matches_value_iff :
    Matches (value digits) word captures ↔
      (IsIdentifier word ∨ IsNumber digits word) ∧ captures = [] := by
  have hFirst : identifier.unmatched = ([] : Captures Char) := rfl
  have hSecond : (number digits).unmatched = [] := rfl
  simp only [value, matches_alt_iff, matches_identifier_iff, matches_number_iff, hFirst, hSecond]
  constructor
  · intro h
    cases h with
    | inl h =>
        obtain ⟨_, ⟨hWord, rfl⟩, hNone⟩ := h
        exact ⟨.inl hWord, hNone⟩
    | inr h =>
        obtain ⟨_, ⟨hWord, rfl⟩, hNone⟩ := h
        exact ⟨.inr hWord, hNone⟩
  · intro ⟨hWord, hNone⟩
    cases hWord with
    | inl hWord => exact .inl ⟨[], ⟨hWord, rfl⟩, hNone⟩
    | inr hWord => exact .inr ⟨[], ⟨hWord, rfl⟩, hNone⟩

/-- An operation is spelled as its symbol, a gap and its value, and both parts are captured.
-/
theorem matches_operation_iff {accepts : Char → Bool} :
    Matches (operation digits accepts) word captures ↔
      ∃ (found : Operation digits accepts) (gap : Nat),
        word = Operation.spell gap [] (some found) ∧
          captures = [some [found.symbol], some found.value] := by
  simp only [operation, one, matches_seq_iff, matches_group_iff, matches_one_iff,
    matches_spaces_iff, matches_value_iff]
  constructor
  · intro ⟨_, _, _, _, ⟨_, ⟨c, hAccepts, rfl, rfl⟩, rfl⟩, hRest, hWord, hCaptures⟩
    obtain ⟨_, _, text, _, ⟨gap, rfl, rfl⟩, ⟨_, ⟨hValue, rfl⟩, rfl⟩, rfl, rfl⟩ := hRest
    exact ⟨⟨c, text, hAccepts, hValue⟩, gap, by simp [hWord, Operation.spell], hCaptures⟩
  · intro ⟨found, gap, hWord, hCaptures⟩
    refine ⟨[found.symbol], [some [found.symbol]], blank gap ++ found.value, [some found.value],
      ⟨[], ⟨found.symbol, found.accepted, rfl, rfl⟩, rfl⟩, ?_, ?_, hCaptures⟩
    · exact ⟨blank gap, [], found.value, [some found.value], ⟨gap, rfl, rfl⟩,
        ⟨[], ⟨found.wellFormed, rfl⟩, rfl⟩, rfl, rfl⟩
    · simp [hWord, Operation.spell]

/-- What follows an operation is no part of its spelling. -/
theorem spell_append {accepts : Char → Bool} (gap : Nat) (rest more : Text)
    (operation : Option (Operation digits accepts)) :
    Operation.spell gap (rest ++ more) operation =
      Operation.spell gap rest operation ++ more := by
  cases operation with
  | none => rfl
  | some found => simp [Operation.spell]

/-- An operation that is left out is spelled by the empty word, and leaves its groups
unmatched. -/
theorem matches_optional_iff {accepts : Char → Bool} :
    Matches (.opt (operation digits accepts)) word captures ↔
      ∃ (found : Option (Operation digits accepts)) (gap : Nat),
        word = Operation.spell gap [] found ∧
          captures = [found.map fun operation => [operation.symbol],
            found.map Operation.value] := by
  rw [matches_opt_iff, matches_operation_iff]
  constructor
  · intro h
    cases h with
    | inl hFound =>
        obtain ⟨found, gap, hWord, hCaptures⟩ := hFound
        exact ⟨some found, gap, hWord, hCaptures⟩
    | inr hNone => exact ⟨none, 0, hNone⟩
  · intro ⟨found, gap, hWord, hCaptures⟩
    cases found with
    | none => exact .inr ⟨hWord, hCaptures⟩
    | some found => exact .inl ⟨found, gap, hWord, hCaptures⟩

/-- `view.attribute` is two names with a dot between them, and both names are captured. -/
theorem matches_attr_iff :
    Matches attr word captures ↔
      ∃ first second : Identifier, word = first.1 ++ '.' :: second.1 ∧
        captures = [some first.1, some second.1] := by
  simp only [attr, one, matches_seq_iff, matches_group_iff, matches_one_iff,
    matches_identifier_iff]
  constructor
  · intro ⟨first, _, _, _, ⟨_, ⟨hFirst, rfl⟩, rfl⟩, hRest, hWord, hCaptures⟩
    obtain ⟨_, _, second, _, ⟨c, hDot, rfl, rfl⟩, ⟨_, ⟨hSecond, rfl⟩, rfl⟩, rfl, rfl⟩ := hRest
    rw [beq_iff_eq.mp hDot] at hWord
    exact ⟨⟨first, hFirst⟩, ⟨second, hSecond⟩, hWord, hCaptures⟩
  · intro ⟨first, second, hWord, hCaptures⟩
    refine ⟨first.1, [some first.1], '.' :: second.1, [some second.1],
      ⟨[], ⟨first.2, rfl⟩, rfl⟩, ?_, hWord, hCaptures⟩
    exact ⟨['.'], [], second.1, [some second.1], ⟨'.', rfl, rfl, rfl⟩,
      ⟨[], ⟨second.2, rfl⟩, rfl⟩, rfl, rfl⟩

/-- The pattern takes every word of `=`, `>` and `<`, in the table or not. -/
theorem matches_relation_iff :
    Matches relation word captures ↔
      ∃ found : RelationText, word = found.1 ∧ captures = [some found.1] := by
  simp only [relation, matches_group_iff, matches_run_iff]
  constructor
  · intro ⟨_, ⟨⟨hAccepts, hLeast, _⟩, rfl⟩, hCaptures⟩
    exact ⟨⟨word, List.length_pos_iff.mp hLeast, hAccepts⟩, rfl, hCaptures⟩
  · intro ⟨found, hWord, hCaptures⟩
    subst hWord
    exact ⟨[], ⟨⟨found.2.2, List.length_pos_iff.mpr found.2.1, by simp⟩, rfl⟩, hCaptures⟩

/-- The tail of a constraint is a factor and a term, each of which may be left out. -/
theorem matches_operations_iff :
    Matches (operations digits) word captures ↔
      ∃ (factor : Option (Operation digits isMultiplication))
        (term : Option (Operation digits isAddition)) (before inside between within : Nat),
        word = blank before ++ Operation.spell inside
          (blank between ++ Operation.spell within [] term) factor ∧
        captures = [factor.map fun operation => [operation.symbol], factor.map Operation.value,
          term.map fun operation => [operation.symbol], term.map Operation.value] := by
  simp only [operations, multiplier, constant, matches_seq_iff, matches_spaces_iff,
    matches_optional_iff]
  constructor
  · intro ⟨_, _, _, _, ⟨before, rfl, rfl⟩, hRest, hWord, hCaptures⟩
    obtain ⟨_, _, _, _, ⟨factor, inside, rfl, rfl⟩, hRest, rfl, rfl⟩ := hRest
    obtain ⟨_, _, _, _, ⟨between, rfl, rfl⟩, ⟨term, within, rfl, rfl⟩, rfl, rfl⟩ := hRest
    refine ⟨factor, term, before, inside, between, within, ?_, hCaptures⟩
    rw [hWord, ← spell_append, List.nil_append]
  · intro ⟨factor, term, before, inside, between, within, hWord, hCaptures⟩
    refine ⟨_, _, _, _, ⟨before, rfl, rfl⟩, ?_, hWord, hCaptures⟩
    refine ⟨_, _, blank between ++ Operation.spell within [] term, _,
      ⟨factor, inside, rfl, rfl⟩, ?_, ?_, rfl⟩
    · exact ⟨_, _, _, _, ⟨between, rfl, rfl⟩, ⟨term, within, rfl, rfl⟩, rfl, rfl⟩
    · rw [← spell_append, List.nil_append]

/-- The whole pattern, part by part: the two ends with their attributes, the relation between
them, and the tail. -/
theorem matches_xtConstraintRegex_iff :
    Matches (xtConstraintRegex digits) word captures ↔
      ∃ (symbol : Char) (item1Key attr1 : Identifier) (found : RelationText)
        (item2Key attr2 : Identifier) (before between after : Nat) (rest : Text)
        (others : Captures Char), isXtSymbol symbol = true ∧
        Matches (operations digits) rest others ∧
        word = [symbol] ++ ([':'] ++ (blank before ++ ((item1Key.1 ++ '.' :: attr1.1) ++
          (blank between ++ (found.1 ++ (blank after ++ ((item2Key.1 ++ '.' :: attr2.1) ++
            rest))))))) ∧
        captures = some item1Key.1 :: some attr1.1 :: some found.1 :: some item2Key.1 ::
          some attr2.1 :: others := by
  simp only [xtConstraintRegex, one, matches_seq_iff, matches_one_iff, matches_spaces_iff,
    matches_attr_iff, matches_relation_iff]
  constructor
  · intro ⟨_, _, _, _, ⟨symbol, hSymbol, rfl, rfl⟩, hRest, hWord, hCaptures⟩
    obtain ⟨_, _, _, _, ⟨colon, hColon, rfl, rfl⟩, hRest, rfl, rfl⟩ := hRest
    obtain ⟨_, _, _, _, ⟨before, rfl, rfl⟩, hRest, rfl, rfl⟩ := hRest
    obtain ⟨_, _, _, _, ⟨item1Key, attr1, rfl, rfl⟩, hRest, rfl, rfl⟩ := hRest
    obtain ⟨_, _, _, _, ⟨between, rfl, rfl⟩, hRest, rfl, rfl⟩ := hRest
    obtain ⟨_, _, _, _, ⟨found, rfl, rfl⟩, hRest, rfl, rfl⟩ := hRest
    obtain ⟨_, _, _, _, ⟨after, rfl, rfl⟩, hRest, rfl, rfl⟩ := hRest
    obtain ⟨_, _, rest, others, ⟨item2Key, attr2, rfl, rfl⟩, hRest, rfl, rfl⟩ := hRest
    refine ⟨symbol, item1Key, attr1, found, item2Key, attr2, before, between, after, rest,
      others, hSymbol, hRest, ?_, hCaptures⟩
    rw [hWord, beq_iff_eq.mp hColon]
  · intro ⟨symbol, item1Key, attr1, found, item2Key, attr2, before, between, after, rest,
      others, hSymbol, hRest, hWord, hCaptures⟩
    refine ⟨_, _, _, _, ⟨symbol, hSymbol, rfl, rfl⟩, ?_, hWord, hCaptures⟩
    refine ⟨_, _, _, _, ⟨':', rfl, rfl, rfl⟩, ?_, rfl, rfl⟩
    refine ⟨_, _, _, _, ⟨before, rfl, rfl⟩, ?_, rfl, rfl⟩
    refine ⟨_, _, _, _, ⟨item1Key, attr1, rfl, rfl⟩, ?_, rfl, rfl⟩
    refine ⟨_, _, _, _, ⟨between, rfl, rfl⟩, ?_, rfl, rfl⟩
    refine ⟨_, _, _, _, ⟨found, rfl, rfl⟩, ?_, rfl, rfl⟩
    refine ⟨_, _, _, _, ⟨after, rfl, rfl⟩, ?_, rfl, rfl⟩
    exact ⟨_, _, rest, others, ⟨item2Key, attr2, rfl, rfl⟩, hRest, rfl, rfl⟩

/-- The pattern up to its end accepts what an expression spells, and captures its parts. -/
theorem matchesUpTo_iff {text : Text} :
    MatchesUpTo atEnd (xtConstraintRegex digits) text captures ↔
      ∃ expr : Expression digits, Spells text expr ∧ captures = expr.captures := by
  simp only [MatchesUpTo, matches_xtConstraintRegex_iff, matches_operations_iff]
  constructor
  · intro ⟨_, ending, hText, hEnding, hMatches⟩
    obtain ⟨symbol, item1Key, attr1, found, item2Key, attr2, beforeItem1, beforeRelation,
      afterRelation, _, _, hSymbol, hRest, rfl, rfl⟩ := hMatches
    obtain ⟨factor, term, beforeMultiplier, inMultiplier, beforeConstant, inConstant, rfl,
      rfl⟩ := hRest
    refine ⟨⟨item1Key, attr1, found, item2Key, attr2, factor, term⟩,
      ⟨⟨symbol, beforeItem1, beforeRelation, afterRelation, beforeMultiplier, inMultiplier,
        beforeConstant, inConstant, ending, hSymbol, hEnding⟩, ?_⟩, rfl⟩
    simp [hText, Expression.spell, Expression.spellOperations, Expression.spellConstant,
      ← spell_append]
  · intro ⟨expr, ⟨spacing, hText⟩, hCaptures⟩
    refine ⟨_, spacing.ending, ?_, spacing.atEnd_ending, spacing.symbol, expr.item1Key,
      expr.attr1, expr.relation, expr.item2Key, expr.attr2, spacing.beforeItem1,
      spacing.beforeRelation, spacing.afterRelation, _, _, spacing.isXtSymbol_symbol,
      ⟨expr.multiplier, expr.constant, spacing.beforeMultiplier, spacing.inMultiplier,
        spacing.beforeConstant, spacing.inConstant, rfl, rfl⟩, rfl, hCaptures⟩
    simp [hText, Expression.spell, Expression.spellOperations, Expression.spellConstant,
      ← spell_append]

end Words
end XtConstraint
end LockJaw
