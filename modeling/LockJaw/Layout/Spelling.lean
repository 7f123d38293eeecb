import LockJaw.Layout.Pattern

/-! A text spells at most one expression: the parts of a constraint cannot be read in two
ways, and how it is spaced does not matter. -/
namespace LockJaw.XtConstraint

open Regex

/-- The characters that can follow the second attribute or a value. -/
def stops : Text := ' ' :: '*' :: '/' :: '+' :: '-' :: lineTerminators

/-- Every character of an identifier or a number. -/
def isValueCharacter (digits : DecimalDigits) (c : Char) : Bool :=
  continuesIdentifier c || digits.isDecimal c || c == '.'

section Characters
variable {digits : DecimalDigits} {c : Char}

/-- A character at which a value stops goes on no name. -/
theorem continuesIdentifier_stops (hMem : c ∈ stops) : continuesIdentifier c = false := by
  have hAll : stops.all (fun c => continuesIdentifier c == false) = true := by decide
  exact beq_iff_eq.mp (List.all_eq_true.mp hAll c hMem)

/-- A character at which a value stops is no digit. -/
theorem isDecimal_stops (hMem : c ∈ stops) : digits.isDecimal c = false := by
  have hAll : (stops.all fun c => decide (c ∈ lineTerminators ∨ c.toNat < 128 ∧ c.isDigit = false))
      = true := by
    decide
  cases of_decide_eq_true (List.all_eq_true.mp hAll c hMem) with
  | inl hTerminator => exact digits.isDecimal_lineTerminator c hTerminator
  | inr hAscii => rw [digits.isDecimal_ascii c hAscii.1, hAscii.2]

/-- A character at which a value stops is in no value. -/
theorem isValueCharacter_stops (hMem : c ∈ stops) : isValueCharacter digits c = false := by
  have hAll : stops.all (fun c => (c == '.') == false) = true := by decide
  have hDot := beq_iff_eq.mp (List.all_eq_true.mp hAll c hMem)
  rw [isValueCharacter, continuesIdentifier_stops hMem, isDecimal_stops hMem, hDot]
  rfl

/-- A relation ends the name before it. -/
theorem continuesIdentifier_of_isRelation (h : isRelation c = true) :
    continuesIdentifier c = false := by
  simp only [isRelation, Bool.or_eq_true, beq_iff_eq] at h
  obtain (rfl | rfl) | rfl := h <;> decide

theorem ne_blank_of_isRelation (h : isRelation c = true) : (c == ' ') = false := by
  cases hBlank : c == ' ' with
  | false => rfl
  | true =>
      rw [beq_iff_eq.mp hBlank] at h
      cases h

theorem ne_blank_of_startsIdentifier (h : startsIdentifier c = true) : (c == ' ') = false := by
  cases hBlank : c == ' ' with
  | false => rfl
  | true =>
      rw [beq_iff_eq.mp hBlank] at h
      exact absurd h (by decide)

/-- A name ends the relation before it. -/
theorem isRelation_of_startsIdentifier (h : startsIdentifier c = true) :
    isRelation c = false := by
  cases hRelation : isRelation c with
  | false => rfl
  | true =>
      have hContinues := continuesIdentifier_of_isRelation hRelation
      rw [continuesIdentifier, h] at hContinues
      cases hContinues

end Characters

section Heads
variable {digits : DecimalDigits} {c : Char} {rest : Text}

/-- After a gap comes a blank or what follows the gap. -/
theorem head?_blank_append {count : Nat} (hMem : c ∈ (blank count ++ rest).head?) :
    c = ' ' ∨ c ∈ rest.head? := by
  cases count with
  | zero => exact .inr hMem
  | succ count =>
      rw [blank, List.replicate_succ] at hMem
      exact .inl (Option.mem_some.mp hMem).symm

/-- The end of a text starts with a line terminator, if it is not empty. -/
theorem head?_ending {ending : Text} (hEnding : atEnd ending = true) (hMem : c ∈ ending.head?) :
    c ∈ lineTerminators := by
  match ending, hEnding with
  | [], _ => cases hMem
  | [d], hEnding =>
      cases hMem
      exact of_decide_eq_true hEnding
  | [d, e], hEnding =>
      cases hMem
      simp only [atEnd, Bool.and_eq_true, beq_iff_eq] at hEnding
      rw [hEnding.1]
      decide

/-- An operation starts with its symbol, or with what follows where it is left out. -/
theorem head?_spell {accepts : Char → Bool} {gap : Nat}
    {operation : Option (Operation digits accepts)}
    (hMem : c ∈ (Operation.spell gap rest operation).head?) :
    accepts c = true ∨ c ∈ rest.head? := by
  cases operation with
  | none => exact .inr hMem
  | some found =>
      cases hMem
      exact .inl found.accepted

/-- No name is empty. -/
theorem exists_head_identifier (text : Identifier) :
    ∃ c word, text.1 = c :: word ∧ startsIdentifier c = true := by
  obtain ⟨c, word, hText, hStarts, _⟩ := text.2
  exact ⟨c, word, hText, hStarts⟩

/-- Every character of a name can go on a name. -/
theorem continues_identifier (text : Identifier) : ∀ c ∈ text.1, continuesIdentifier c = true := by
  obtain ⟨c, word, hText, hStarts, hContinues, _⟩ := text.2
  rw [hText, List.forall_mem_cons]
  exact ⟨by rw [continuesIdentifier, hStarts]; rfl, hContinues⟩

/-- Every character of a value is one that a name or a number may have. -/
theorem isValueCharacter_value {accepts : Char → Bool} (operation : Operation digits accepts) :
    ∀ c ∈ operation.value, isValueCharacter digits c = true := by
  intro c hMem
  rw [isValueCharacter, Bool.or_eq_true, Bool.or_eq_true]
  cases operation.wellFormed with
  | inl hIdentifier =>
      exact .inl (.inl (continues_identifier ⟨operation.value, hIdentifier⟩ c hMem))
  | inr hNumber =>
      obtain ⟨whole, point, fraction, hText, _, hWhole, hPoint, hFraction⟩ := hNumber
      rw [hText, List.mem_append, List.mem_append] at hMem
      obtain hMem | hMem | hMem := hMem
      · exact .inl (.inr (hWhole c hMem))
      · cases hPoint with
        | inl hDot =>
            rw [hDot, List.mem_singleton] at hMem
            exact .inr (beq_iff_eq.mpr hMem)
        | inr hNone =>
            rw [hNone] at hMem
            cases hMem
      · exact .inl (.inr (hFraction c hMem))

/-- No value is empty. -/
theorem value_ne_nil {accepts : Char → Bool} (operation : Operation digits accepts) :
    operation.value ≠ [] := by
  intro hNone
  cases operation.wellFormed with
  | inl hIdentifier =>
      obtain ⟨c, word, hText, _⟩ := hIdentifier
      rw [hNone] at hText
      cases hText
  | inr hNumber =>
      obtain ⟨whole, _, _, hText, hSome, _⟩ := hNumber
      rw [hNone] at hText
      exact hSome (List.append_eq_nil_iff.mp hText.symm).1

/-- A value is not taken for part of the gap before it. -/
theorem ne_blank_value {accepts : Char → Bool} (operation : Operation digits accepts) :
    ∀ c ∈ (operation.value ++ rest).head?, (c == ' ') = false := by
  intro c hMem
  cases hValue : operation.value with
  | nil => exact absurd hValue (value_ne_nil operation)
  | cons d word =>
      rw [hValue] at hMem
      cases hMem
      have hCharacter := isValueCharacter_value operation c (by rw [hValue]; simp)
      cases hBlank : c == ' ' with
      | false => rfl
      | true =>
          rw [beq_iff_eq.mp hBlank, isValueCharacter_stops (by decide)] at hCharacter
          cases hCharacter

end Heads

section Unique
variable {digits : DecimalDigits} {rest other : Text}

/-- Leading spaces are not part of what follows them. -/
theorem blank_unique {count more : Nat} (hRest : ∀ c ∈ rest.head?, (c == ' ') = false)
    (hOther : ∀ c ∈ other.head?, (c == ' ') = false)
    (h : blank count ++ rest = blank more ++ other) : rest = other := by
  have hBlank : ∀ count, ∀ c ∈ blank count, (c == ' ') = true := by
    intro count c hMem
    exact beq_iff_eq.mpr (List.eq_of_mem_replicate hMem)
  exact (span_unique (hBlank count) (hBlank more) hRest hOther h).2

/-- An operation has one reading where what follows cannot go on its value. -/
theorem operation_unique {accepts : Char → Bool} {first second : Operation digits accepts}
    {gap more : Nat} (hRest : ∀ c ∈ rest.head?, c ∈ stops)
    (hOther : ∀ c ∈ other.head?, c ∈ stops)
    (h : Operation.spell gap rest (some first) = Operation.spell more other (some second)) :
    first = second ∧ rest = other := by
  rw [Operation.spell, Operation.spell, List.cons.injEq] at h
  obtain ⟨hSymbol, hTail⟩ := h
  have hValues := blank_unique (ne_blank_value first) (ne_blank_value second) hTail
  obtain ⟨hValue, hRests⟩ := span_unique (isValueCharacter_value first)
    (isValueCharacter_value second) (fun c hMem => isValueCharacter_stops (hRest c hMem))
    (fun c hMem => isValueCharacter_stops (hOther c hMem)) hValues
  refine ⟨?_, hRests⟩
  cases first
  cases second
  cases hSymbol
  cases hValue
  rfl

theorem ne_blank_symbol {accepts : Char → Bool} (operation : Operation digits accepts)
    (hBlank : accepts ' ' = false) : (operation.symbol == ' ') = false := by
  cases hSymbol : operation.symbol == ' ' with
  | false => rfl
  | true =>
      have hAccepted := operation.accepted
      rw [beq_iff_eq.mp hSymbol, hBlank] at hAccepted
      cases hAccepted

/-- An operation that may be left out, before a text that neither starts like it nor with a
space: which of the spaces around it stand before it does not matter. -/
theorem optional_unique {accepts : Char → Bool} (hBlank : accepts ' ' = false)
    {first second : Option (Operation digits accepts)} {before gap after leading more behind : Nat}
    (hRest : ∀ c ∈ rest.head?, c ∈ stops ∧ accepts c = false ∧ (c == ' ') = false)
    (hOther : ∀ c ∈ other.head?, c ∈ stops ∧ accepts c = false ∧ (c == ' ') = false)
    (h : blank before ++ Operation.spell gap (blank after ++ rest) first =
      blank leading ++ Operation.spell more (blank behind ++ other) second) :
    first = second ∧ rest = other := by
  have hMerge : ∀ m n text, blank m ++ (blank n ++ text) = blank (m + n) ++ text := by
    intro m n text
    rw [blank, blank, blank, ← List.append_assoc, List.replicate_append_replicate]
  have hRestBlank : ∀ c ∈ rest.head?, (c == ' ') = false := fun c hMem => (hRest c hMem).2.2
  have hOtherBlank : ∀ c ∈ other.head?, (c == ' ') = false := fun c hMem => (hOther c hMem).2.2
  have hSymbol : ∀ (operation : Operation digits accepts) (gap : Nat) (text : Text),
      ∀ c ∈ (Operation.spell gap text (some operation)).head?, (c == ' ') = false := by
    intro operation gap text c hMem
    cases hMem
    exact ne_blank_symbol operation hBlank
  cases first with
  | none =>
      rw [Operation.spell, hMerge] at h
      cases second with
      | none =>
          rw [Operation.spell, hMerge] at h
          exact ⟨rfl, blank_unique hRestBlank hOtherBlank h⟩
      | some second =>
          have hStripped := blank_unique hRestBlank (hSymbol second _ _) h
          have hHead : rest.head? = some second.symbol := congrArg List.head? hStripped
          have hRejects := (hRest second.symbol hHead).2.1
          rw [second.accepted] at hRejects
          cases hRejects
  | some first =>
      cases second with
      | none =>
          rw [Operation.spell, Operation.spell, hMerge] at h
          have hStripped := blank_unique (hSymbol first _ _) hOtherBlank h
          have hHead : other.head? = some first.symbol := (congrArg List.head? hStripped).symm
          have hRejects := (hOther first.symbol hHead).2.1
          rw [first.accepted] at hRejects
          cases hRejects
      | some second =>
          have hStripped := blank_unique (hSymbol first _ _) (hSymbol second _ _) h
          have hStops : ∀ count text, (∀ c ∈ text.head?, c ∈ stops) →
              ∀ c ∈ (blank count ++ text).head?, c ∈ stops := by
            intro count text hText c hMem
            cases head?_blank_append hMem with
            | inl hSpace =>
                rw [hSpace]
                exact List.mem_cons_self
            | inr hMem => exact hText c hMem
          obtain ⟨rfl, hRests⟩ := operation_unique
            (hStops after rest fun c hMem => (hRest c hMem).1)
            (hStops behind other fun c hMem => (hOther c hMem).1) hStripped
          exact ⟨rfl, blank_unique hRestBlank hOtherBlank hRests⟩

end Unique

section Expressions
variable {digits : DecimalDigits} {first second : Expression digits}
  {spacing otherSpacing : Spacing}

/-- A line terminator stops a value, and is neither an operation nor a blank. -/
theorem lineTerminators_stop {c : Char} (hMem : c ∈ lineTerminators) :
    c ∈ stops ∧ isAddition c = false ∧ isMultiplication c = false ∧ (c == ' ') = false := by
  have hAll : (lineTerminators.all fun c => decide (c ∈ stops ∧ isAddition c = false ∧
      isMultiplication c = false ∧ (c == ' ') = false)) = true := by
    decide
  exact of_decide_eq_true (List.all_eq_true.mp hAll c hMem)

/-- After a factor comes a term or the end. -/
theorem head?_constant {c : Char} (expr : Expression digits) (spacing : Spacing)
    (hMem : c ∈ (Operation.spell spacing.inConstant spacing.ending expr.constant).head?) :
    c ∈ stops ∧ isMultiplication c = false ∧ (c == ' ') = false := by
  cases head?_spell hMem with
  | inl hAddition =>
      simp only [isAddition, Bool.or_eq_true, beq_iff_eq] at hAddition
      obtain rfl | rfl := hAddition <;> decide
  | inr hEnding =>
      have hStop := lineTerminators_stop (head?_ending spacing.atEnd_ending hEnding)
      exact ⟨hStop.1, hStop.2.2⟩

/-- After the second attribute comes an operation, a gap or the end. -/
theorem head?_operations {c : Char} (expr : Expression digits) (spacing : Spacing)
    (hMem : c ∈ (expr.spellOperations spacing).head?) : c ∈ stops := by
  cases head?_blank_append hMem with
  | inl hBlank =>
      rw [hBlank]
      exact List.mem_cons_self
  | inr hMem =>
      cases head?_spell hMem with
      | inl hMultiplication =>
          simp only [isMultiplication, Bool.or_eq_true, beq_iff_eq] at hMultiplication
          obtain rfl | rfl := hMultiplication <;> decide
      | inr hMem =>
          cases head?_blank_append hMem with
          | inl hBlank =>
              rw [hBlank]
              exact List.mem_cons_self
          | inr hMem => exact (head?_constant expr spacing hMem).1

/-- The tail of a constraint has one reading. -/
theorem spellOperations_unique
    (h : first.spellOperations spacing = second.spellOperations otherSpacing) :
    first.multiplier = second.multiplier ∧ first.constant = second.constant := by
  obtain ⟨hMultiplier, hConstants⟩ := optional_unique rfl
    (fun c hMem => head?_constant first spacing hMem)
    (fun c hMem => head?_constant second otherSpacing hMem) h
  have hEnding : ∀ spacing : Spacing, ∀ c ∈ spacing.ending.head?,
      c ∈ stops ∧ isAddition c = false ∧ (c == ' ') = false := by
    intro spacing c hMem
    have hStop := lineTerminators_stop (head?_ending spacing.atEnd_ending hMem)
    exact ⟨hStop.1, hStop.2.1, hStop.2.2.2⟩
  have hUnspaced : blank 0 ++ Operation.spell spacing.inConstant (blank 0 ++ spacing.ending)
        first.constant =
      blank 0 ++ Operation.spell otherSpacing.inConstant (blank 0 ++ otherSpacing.ending)
        second.constant := hConstants
  exact ⟨hMultiplier, (optional_unique rfl (hEnding spacing) (hEnding otherSpacing) hUnspaced).1⟩

/-- An identifier before a character that cannot continue one. -/
theorem identifier_unique {text more : Identifier} {rest other : Text}
    (hRest : ∀ c ∈ rest.head?, continuesIdentifier c = false)
    (hOther : ∀ c ∈ other.head?, continuesIdentifier c = false)
    (h : text.1 ++ rest = more.1 ++ other) : text = more ∧ rest = other := by
  obtain ⟨hText, hRests⟩ :=
    span_unique (continues_identifier text) (continues_identifier more) hRest hOther h
  exact ⟨Subtype.ext hText, hRests⟩

/-- A relation has one reading where what follows is no relation. -/
theorem relation_unique {text more : RelationText} {rest other : Text}
    (hRest : ∀ c ∈ rest.head?, isRelation c = false)
    (hOther : ∀ c ∈ other.head?, isRelation c = false)
    (h : text.1 ++ rest = more.1 ++ other) : text = more ∧ rest = other := by
  obtain ⟨hText, hRests⟩ := span_unique text.2.2 more.2.2 hRest hOther h
  exact ⟨Subtype.ext hText, hRests⟩

theorem head?_identifier {c : Char} {text : Identifier} {rest : Text}
    (hMem : c ∈ (text.1 ++ rest).head?) : startsIdentifier c = true := by
  obtain ⟨d, word, hText, hStarts⟩ := exists_head_identifier text
  rw [hText] at hMem
  cases hMem
  exact hStarts

theorem head?_relation {c : Char} {text : RelationText} {rest : Text}
    (hMem : c ∈ (text.1 ++ rest).head?) : isRelation c = true := by
  cases hText : text.1 with
  | nil => exact absurd hText text.2.1
  | cons d word =>
      rw [hText] at hMem
      cases hMem
      exact text.2.2 c (by rw [hText]; exact List.mem_cons_self)

theorem head?_dot {c : Char} {rest : Text} (hMem : c ∈ ('.' :: rest).head?) :
    continuesIdentifier c = false := by
  cases hMem
  decide

/-- After the first attribute: spaces, or the relation. -/
theorem head?_beforeRelation {c : Char} {count : Nat} {text : RelationText} {rest : Text}
    (hMem : c ∈ (blank count ++ (text.1 ++ rest)).head?) : continuesIdentifier c = false := by
  cases head?_blank_append hMem with
  | inl hBlank =>
      rw [hBlank]
      decide
  | inr hMem => exact continuesIdentifier_of_isRelation (head?_relation hMem)

/-- After the relation: spaces, or the second key. -/
theorem head?_afterRelation {c : Char} {count : Nat} {text : Identifier} {rest : Text}
    (hMem : c ∈ (blank count ++ (text.1 ++ rest)).head?) : isRelation c = false := by
  cases head?_blank_append hMem with
  | inl hBlank =>
      rw [hBlank]
      rfl
  | inr hMem => exact isRelation_of_startsIdentifier (head?_identifier hMem)

/-- A text spells at most one constraint. -/
theorem spell_unique (h : first.spell spacing = second.spell otherSpacing) : first = second := by
  have hIdentifier : ∀ {c : Char} {text : Identifier} {rest : Text},
      c ∈ (text.1 ++ rest).head? → (c == ' ') = false :=
    fun hMem => ne_blank_of_startsIdentifier (head?_identifier hMem)
  have hRelation : ∀ {c : Char} {text : RelationText} {rest : Text},
      c ∈ (text.1 ++ rest).head? → (c == ' ') = false :=
    fun hMem => ne_blank_of_isRelation (head?_relation hMem)
  rw [Expression.spell, Expression.spell, List.cons.injEq, List.cons.injEq] at h
  have hItem1 := blank_unique (fun c hMem => hIdentifier hMem) (fun c hMem => hIdentifier hMem)
    h.2.2
  obtain ⟨hItem1Key, hAttr1⟩ :=
    identifier_unique (fun c hMem => head?_dot hMem) (fun c hMem => head?_dot hMem) hItem1
  obtain ⟨hAttr1, hBefore⟩ := identifier_unique (fun c hMem => head?_beforeRelation hMem)
    (fun c hMem => head?_beforeRelation hMem) (List.cons.inj hAttr1).2
  have hFound := blank_unique (fun c hMem => hRelation hMem) (fun c hMem => hRelation hMem) hBefore
  obtain ⟨hFound, hAfter⟩ := relation_unique (fun c hMem => head?_afterRelation hMem)
    (fun c hMem => head?_afterRelation hMem) hFound
  have hItem2 := blank_unique (fun c hMem => hIdentifier hMem) (fun c hMem => hIdentifier hMem)
    hAfter
  obtain ⟨hItem2Key, hAttr2⟩ :=
    identifier_unique (fun c hMem => head?_dot hMem) (fun c hMem => head?_dot hMem) hItem2
  obtain ⟨hAttr2, hOperations⟩ := identifier_unique
    (fun c hMem => continuesIdentifier_stops (head?_operations first spacing hMem))
    (fun c hMem => continuesIdentifier_stops (head?_operations second otherSpacing hMem))
    (List.cons.inj hAttr2).2
  obtain ⟨hMultiplier, hConstant⟩ := spellOperations_unique hOperations
  cases first
  cases second
  cases hItem1Key
  cases hAttr1
  cases hFound
  cases hItem2Key
  cases hAttr2
  cases hMultiplier
  cases hConstant
  rfl

/-- A text is read in one way. -/
theorem spells_unique {text : Text} (hFirst : Spells text first) (hSecond : Spells text second) :
    first = second := by
  obtain ⟨spacing, hText⟩ := hFirst
  obtain ⟨otherSpacing, hOther⟩ := hSecond
  exact spell_unique (hText.symm.trans hOther)

/-- The check of the number of ranges, the whole match and nine groups, never fails. -/
theorem numberOfRanges_match {text : Text} {captures : Captures Char}
    (h : firstMatch atEnd (xtConstraintRegex digits) text = some captures) :
    captures.length + 1 = 10 := by
  obtain ⟨_, _, _, _, hMatches⟩ := matches_of_firstMatch h
  rw [hMatches.length_captures]
  rfl

/-- The pattern finds the groups of the constraint that the text spells. -/
theorem match_eq_some_iff {text : Text} {captures : Captures Char} :
    firstMatch atEnd (xtConstraintRegex digits) text = some captures ↔
      ∃ expr : Expression digits, Spells text expr ∧ captures = expr.captures := by
  rw [firstMatch_eq_some_iff, matchesUpTo_iff]
  intro left right hLeft hRight
  obtain ⟨expr, hSpells, rfl⟩ := matchesUpTo_iff.mp hLeft
  obtain ⟨other, hOther, rfl⟩ := matchesUpTo_iff.mp hRight
  rw [spells_unique hSpells hOther]

/-- The pattern finds nothing in the texts that spell no constraint, and in no others. -/
theorem match_eq_none_iff {text : Text} :
    firstMatch atEnd (xtConstraintRegex digits) text = none ↔
      ∀ expr : Expression digits, ¬ Spells text expr := by
  rw [firstMatch_eq_none_iff]
  constructor
  · intro hNone expr hSpells
    exact hNone expr.captures (matchesUpTo_iff.mpr ⟨expr, hSpells, rfl⟩)
  · intro hNone captures hMatches
    obtain ⟨expr, hSpells, _⟩ := matchesUpTo_iff.mp hMatches
    exact hNone expr hSpells

end Expressions
end LockJaw.XtConstraint
