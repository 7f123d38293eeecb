import Mathlib.Data.List.Basic

/-! Regular expressions with groups, the way a backtracking matcher runs them: every
subexpression gives the ways in which it can match at a position, the preferred one first,
and repetition is greedy. What it gives are exactly the matches. -/
namespace Regex

universe u

/-- A run repeats one class of characters; a bound of `none` is no bound. -/
inductive Expr (α : Type u) where
  | run (accepts : α → Bool) (least : Nat) (most : Option Nat)
  | seq (first second : Expr α)
  | alt (first second : Expr α)
  | opt (body : Expr α)
  | group (body : Expr α)

/-- The text of each group, in the order of their opening brackets. -/
abbrev Captures (α : Type u) := List (Option (List α))

variable {α : Type u}

namespace Expr

def numberOfGroups : Expr α → Nat
  | run _ _ _ => 0
  | seq first second => first.numberOfGroups + second.numberOfGroups
  | alt first second => first.numberOfGroups + second.numberOfGroups
  | opt body => body.numberOfGroups
  | group body => body.numberOfGroups + 1

/-- Groups that take no part in a match. -/
def unmatched (expr : Expr α) : Captures α := List.replicate expr.numberOfGroups none

end Expr

/-- What a run can leave of the input, the longest run first. -/
def restsOfRun (accepts : α → Bool) : Nat → Option Nat → List α → List (List α)
  | least, _, [] => if least = 0 then [[]] else []
  | least, most, c :: rest =>
      (if accepts c = true ∧ most ≠ some 0 then
        restsOfRun accepts (least - 1) (most.map (· - 1)) rest
      else []) ++ if least = 0 then [c :: rest] else []

/-- The ways to match at the start of the input: what the groups captured, and the rest. -/
def Expr.results : Expr α → List α → List (Captures α × List α)
  | run accepts least most, input =>
      (restsOfRun accepts least most input).map fun rest => ([], rest)
  | seq first second, input =>
      (first.results input).flatMap fun left =>
        (second.results left.2).map fun right => (left.1 ++ right.1, right.2)
  | alt first second, input =>
      ((first.results input).map fun left => (left.1 ++ second.unmatched, left.2)) ++
        (second.results input).map fun right => (first.unmatched ++ right.1, right.2)
  | opt body, input => body.results input ++ [(body.unmatched, input)]
  | group body, input =>
      (body.results input).map fun inner =>
        (some (input.take (input.length - inner.2.length)) :: inner.1, inner.2)

/-- The words of an expression, with what the groups capture of them. -/
inductive Matches : Expr α → List α → Captures α → Prop where
  | run {accepts : α → Bool} {least : Nat} {most : Option Nat} {word : List α}
      (hAccepts : ∀ c ∈ word, accepts c = true) (hLeast : least ≤ word.length)
      (hMost : ∀ bound ∈ most, word.length ≤ bound) : Matches (.run accepts least most) word []
  | seq {first second : Expr α} {left right : List α} {captures others : Captures α}
      (hFirst : Matches first left captures) (hSecond : Matches second right others) :
      Matches (.seq first second) (left ++ right) (captures ++ others)
  | altFirst {first second : Expr α} {word : List α} {captures : Captures α}
      (hFirst : Matches first word captures) :
      Matches (.alt first second) word (captures ++ second.unmatched)
  | altSecond {first second : Expr α} {word : List α} {captures : Captures α}
      (hSecond : Matches second word captures) :
      Matches (.alt first second) word (first.unmatched ++ captures)
  | present {body : Expr α} {word : List α} {captures : Captures α}
      (hBody : Matches body word captures) : Matches (.opt body) word captures
  | absent {body : Expr α} : Matches (.opt body) [] body.unmatched
  | group {body : Expr α} {word : List α} {captures : Captures α}
      (hBody : Matches body word captures) : Matches (.group body) word (some word :: captures)

/-- A match has an entry for each group of the expression, matched or not. -/
theorem Matches.length_captures {expr : Expr α} {word : List α} {captures : Captures α}
    (h : Matches expr word captures) : captures.length = expr.numberOfGroups := by
  induction h with
  | run => rfl
  | seq _ _ ihFirst ihSecond => simp [Expr.numberOfGroups, ihFirst, ihSecond]
  | altFirst _ ih => simp [Expr.numberOfGroups, Expr.unmatched, ih]
  | altSecond _ ih => simp [Expr.numberOfGroups, Expr.unmatched, ih]
  | present _ ih => exact ih
  | absent => simp [Expr.numberOfGroups, Expr.unmatched]
  | group _ ih => simp [Expr.numberOfGroups, ih]

section Inversion
variable {word : List α} {captures : Captures α}

/-- A run takes the words of its characters within its bounds. -/
theorem matches_run_iff {accepts : α → Bool} {least : Nat} {most : Option Nat} :
    Matches (.run accepts least most) word captures ↔
      ((∀ c ∈ word, accepts c = true) ∧ least ≤ word.length ∧
        ∀ bound ∈ most, word.length ≤ bound) ∧ captures = [] := by
  constructor
  · intro h
    cases h with
    | run hAccepts hLeast hMost => exact ⟨⟨hAccepts, hLeast, hMost⟩, rfl⟩
  · intro ⟨⟨hAccepts, hLeast, hMost⟩, hNone⟩
    rw [hNone]
    exact .run hAccepts hLeast hMost

/-- A run of one is a single character. -/
theorem matches_one_iff {accepts : α → Bool} :
    Matches (.run accepts 1 (some 1)) word captures ↔
      ∃ c, accepts c = true ∧ word = [c] ∧ captures = [] := by
  rw [matches_run_iff]
  constructor
  · intro ⟨⟨hAccepts, hLeast, hMost⟩, hNone⟩
    have hLength : word.length = 1 := Nat.le_antisymm (hMost 1 rfl) hLeast
    obtain ⟨c, rfl⟩ := List.length_eq_one_iff.mp hLength
    exact ⟨c, hAccepts c List.mem_cons_self, rfl, hNone⟩
  · intro ⟨c, hAccepts, hWord, hNone⟩
    subst hWord
    simp [hAccepts, hNone]

/-- A sequence takes what its parts take one after the other. -/
theorem matches_seq_iff {first second : Expr α} :
    Matches (.seq first second) word captures ↔
      ∃ left captured right others, Matches first left captured ∧
        Matches second right others ∧ word = left ++ right ∧ captures = captured ++ others := by
  constructor
  · intro h
    cases h with
    | seq hFirst hSecond => exact ⟨_, _, _, _, hFirst, hSecond, rfl, rfl⟩
  · intro ⟨_, _, _, _, hFirst, hSecond, hWord, hCaptures⟩
    rw [hWord, hCaptures]
    exact .seq hFirst hSecond

/-- An alternative leaves the groups of the branch not taken unmatched. -/
theorem matches_alt_iff {first second : Expr α} :
    Matches (.alt first second) word captures ↔
      (∃ captured, Matches first word captured ∧ captures = captured ++ second.unmatched) ∨
        ∃ captured, Matches second word captured ∧ captures = first.unmatched ++ captured := by
  constructor
  · intro h
    cases h with
    | altFirst hFirst => exact .inl ⟨_, hFirst, rfl⟩
    | altSecond hSecond => exact .inr ⟨_, hSecond, rfl⟩
  · intro h
    cases h with
    | inl hFirst =>
        obtain ⟨_, hMatches, rfl⟩ := hFirst
        exact .altFirst hMatches
    | inr hSecond =>
        obtain ⟨_, hMatches, rfl⟩ := hSecond
        exact .altSecond hMatches

/-- An option takes what its body takes, or nothing. -/
theorem matches_opt_iff {body : Expr α} :
    Matches (.opt body) word captures ↔
      Matches body word captures ∨ word = [] ∧ captures = body.unmatched := by
  constructor
  · intro h
    cases h with
    | present hBody => exact .inl hBody
    | absent => exact .inr ⟨rfl, rfl⟩
  · intro h
    cases h with
    | inl hBody => exact .present hBody
    | inr hNone =>
        rw [hNone.1, hNone.2]
        exact .absent

/-- A group captures the word it takes, before the groups inside it. -/
theorem matches_group_iff {body : Expr α} :
    Matches (.group body) word captures ↔
      ∃ captured, Matches body word captured ∧ captures = some word :: captured := by
  constructor
  · intro h
    cases h with
    | group hBody => exact ⟨_, hBody, rfl⟩
  · intro ⟨_, hBody, hCaptures⟩
    rw [hCaptures]
    exact .group hBody

end Inversion

section Results
variable {expr : Expr α} {input rest : List α} {captures : Captures α}

/-- The matcher goes back over all prefixes that a run may take. -/
theorem mem_restsOfRun {accepts : α → Bool} {least : Nat} {most : Option Nat} :
    rest ∈ restsOfRun accepts least most input ↔ ∃ word, input = word ++ rest ∧
      (∀ c ∈ word, accepts c = true) ∧ least ≤ word.length ∧
        ∀ bound ∈ most, word.length ≤ bound := by
  induction input generalizing least most with
  | nil =>
      simp only [restsOfRun]
      constructor
      · intro hMem
        split at hMem
        · rename_i hLeast
          rw [List.mem_singleton] at hMem
          exact ⟨[], by simp [hMem], by simp, by simp [hLeast], by simp⟩
        · simp at hMem
      · intro ⟨word, hWord, _, hLeast, _⟩
        obtain ⟨rfl, rfl⟩ := List.append_eq_nil_iff.mp hWord.symm
        simp [Nat.le_zero.mp hLeast]
  | cons c input ih =>
      simp only [restsOfRun, List.mem_append]
      constructor
      · intro hMem
        cases hMem with
        | inl hLonger =>
            split at hLonger
            · rename_i hTakes
              obtain ⟨word, rfl, hAccepts, hLeast, hMost⟩ := ih.mp hLonger
              refine ⟨c :: word, rfl, ?_, ?_, ?_⟩
              · intro e hMem
                cases hMem with
                | head => exact hTakes.1
                | tail _ hTail => exact hAccepts e hTail
              · simp only [List.length_cons]
                omega
              · intro bound hBound
                have hPositive : bound ≠ 0 := by
                  intro hZero
                  exact hTakes.2 (by rw [Option.mem_def.mp hBound, hZero])
                have hRest := hMost (bound - 1) (by rw [Option.mem_def.mp hBound]; rfl)
                simp only [List.length_cons]
                omega
            · simp at hLonger
        | inr hHere =>
            split at hHere
            · rename_i hLeast
              rw [List.mem_singleton] at hHere
              exact ⟨[], by simp [hHere], by simp, by simp [hLeast], by simp⟩
            · simp at hHere
      · intro ⟨word, hWord, hAccepts, hLeast, hMost⟩
        cases word with
        | nil =>
            right
            rw [List.nil_append] at hWord
            simp [Nat.le_zero.mp hLeast, ← hWord]
        | cons d word =>
            left
            rw [List.cons_append, List.cons.injEq] at hWord
            obtain ⟨rfl, rfl⟩ := hWord
            simp only [List.length_cons] at hLeast hMost
            have hBound : most ≠ some 0 := by
              intro hNone
              exact absurd (hMost 0 (by rw [hNone]; rfl)) (by omega)
            rw [if_pos ⟨hAccepts c List.mem_cons_self, hBound⟩]
            apply ih.mpr
            refine ⟨word, rfl, ?_, by omega, ?_⟩
            · exact fun e hMem => hAccepts e (List.mem_cons_of_mem c hMem)
            · intro bound hMem
              obtain ⟨larger, hLarger, rfl⟩ := Option.map_eq_some_iff.mp hMem
              have hFits := hMost larger hLarger
              omega

/-- The matcher finds all matches and nothing else. -/
theorem mem_results_iff :
    (captures, rest) ∈ expr.results input ↔
      ∃ word, input = word ++ rest ∧ Matches expr word captures := by
  induction expr generalizing input rest captures with
  | run accepts least most =>
      simp only [Expr.results, List.mem_map, Prod.mk.injEq]
      constructor
      · intro ⟨other, hMem, hCaptures, hRest⟩
        subst hCaptures hRest
        obtain ⟨word, hWord, hAccepts, hLeast, hMost⟩ := mem_restsOfRun.mp hMem
        exact ⟨word, hWord, .run hAccepts hLeast hMost⟩
      · intro ⟨word, hWord, hMatches⟩
        cases hMatches with
        | run hAccepts hLeast hMost =>
            exact ⟨rest, mem_restsOfRun.mpr ⟨word, hWord, hAccepts, hLeast, hMost⟩, rfl, rfl⟩
  | seq first second ihFirst ihSecond =>
      simp only [Expr.results, List.mem_flatMap, List.mem_map, Prod.exists, Prod.mk.injEq]
      constructor
      · intro ⟨captured, middle, hFirst, others, other, hSecond, hCaptures, hRest⟩
        subst hCaptures hRest
        obtain ⟨left, rfl, hLeft⟩ := ihFirst.mp hFirst
        obtain ⟨right, rfl, hRight⟩ := ihSecond.mp hSecond
        exact ⟨left ++ right, (List.append_assoc _ _ _).symm, .seq hLeft hRight⟩
      · intro ⟨word, hWord, hMatches⟩
        cases hMatches with
        | @seq _ _ left right captured others hLeft hRight =>
            rw [List.append_assoc] at hWord
            exact ⟨captured, right ++ rest, ihFirst.mpr ⟨left, hWord, hLeft⟩, others, rest,
              ihSecond.mpr ⟨right, rfl, hRight⟩, rfl, rfl⟩
  | alt first second ihFirst ihSecond =>
      simp only [Expr.results, List.mem_append, List.mem_map, Prod.exists, Prod.mk.injEq]
      constructor
      · intro hMem
        cases hMem with
        | inl hFirst =>
            obtain ⟨captured, other, hMem, rfl, rfl⟩ := hFirst
            obtain ⟨word, hWord, hMatches⟩ := ihFirst.mp hMem
            exact ⟨word, hWord, .altFirst hMatches⟩
        | inr hSecond =>
            obtain ⟨captured, other, hMem, rfl, rfl⟩ := hSecond
            obtain ⟨word, hWord, hMatches⟩ := ihSecond.mp hMem
            exact ⟨word, hWord, .altSecond hMatches⟩
      · intro ⟨word, hWord, hMatches⟩
        cases hMatches with
        | altFirst hFirst =>
            exact .inl ⟨_, rest, ihFirst.mpr ⟨word, hWord, hFirst⟩, rfl, rfl⟩
        | altSecond hSecond =>
            exact .inr ⟨_, rest, ihSecond.mpr ⟨word, hWord, hSecond⟩, rfl, rfl⟩
  | opt body ih =>
      simp only [Expr.results, List.mem_append, List.mem_singleton, Prod.mk.injEq]
      constructor
      · intro hMem
        cases hMem with
        | inl hBody =>
            obtain ⟨word, hWord, hMatches⟩ := ih.mp hBody
            exact ⟨word, hWord, .present hMatches⟩
        | inr hNone =>
            obtain ⟨rfl, rfl⟩ := hNone
            exact ⟨[], rfl, .absent⟩
      · intro ⟨word, hWord, hMatches⟩
        cases hMatches with
        | present hBody => exact .inl (ih.mpr ⟨word, hWord, hBody⟩)
        | absent => exact .inr ⟨rfl, hWord.symm⟩
  | group body ih =>
      simp only [Expr.results, List.mem_map, Prod.exists, Prod.mk.injEq]
      constructor
      · intro ⟨inner, other, hMem, hCaptures, hRest⟩
        subst hRest hCaptures
        obtain ⟨word, rfl, hMatches⟩ := ih.mp hMem
        refine ⟨word, rfl, ?_⟩
        have hTaken : (word ++ other).take ((word ++ other).length - other.length) = word := by
          simp
        rw [hTaken]
        exact .group hMatches
      · intro ⟨word, hWord, hMatches⟩
        cases hMatches with
        | @group _ _ inner hBody =>
            refine ⟨inner, rest, ih.mpr ⟨word, hWord, hBody⟩, ?_, rfl⟩
            simp [hWord]

end Results

/-- The preferred match at the start of the input whose rest the anchor accepts. -/
def firstMatch (anchor : List α → Bool) (expr : Expr α) (input : List α) :
    Option (Captures α) :=
  ((expr.results input).find? fun result => anchor result.2).map Prod.fst

section Search
variable {anchor : List α → Bool} {expr : Expr α} {input : List α} {captures : Captures α}

/-- A match of the whole input up to what the anchor accepts. -/
def MatchesUpTo (anchor : List α → Bool) (expr : Expr α) (input : List α)
    (captures : Captures α) : Prop :=
  ∃ word rest, input = word ++ rest ∧ anchor rest = true ∧ Matches expr word captures

/-- What the matcher finds is a match. -/
theorem matches_of_firstMatch (h : firstMatch anchor expr input = some captures) :
    MatchesUpTo anchor expr input captures := by
  obtain ⟨⟨captured, rest⟩, hFind, rfl⟩ := Option.map_eq_some_iff.mp h
  obtain ⟨word, hWord, hMatches⟩ := mem_results_iff.mp (List.mem_of_find?_eq_some hFind)
  have hAnchor := List.find?_some hFind
  exact ⟨word, rest, hWord, hAnchor, hMatches⟩

/-- The matcher finds nothing only where there is nothing: backtracking is complete. -/
theorem firstMatch_eq_none_iff :
    firstMatch anchor expr input = none ↔
      ∀ captures, ¬ MatchesUpTo anchor expr input captures := by
  rw [firstMatch, Option.map_eq_none_iff, List.find?_eq_none]
  constructor
  · intro hNone captures ⟨word, rest, hWord, hAnchor, hMatches⟩
    exact hNone (captures, rest) (mem_results_iff.mpr ⟨word, hWord, hMatches⟩) hAnchor
  · intro hNone result hMem hAnchor
    obtain ⟨word, hWord, hMatches⟩ := mem_results_iff.mp hMem
    exact hNone result.1 ⟨word, result.2, hWord, hAnchor, hMatches⟩

/-- Where all matches capture the same, the preference among them does not matter. -/
theorem firstMatch_eq_some_iff
    (hUnique : ∀ first second, MatchesUpTo anchor expr input first →
      MatchesUpTo anchor expr input second → first = second) :
    firstMatch anchor expr input = some captures ↔
      MatchesUpTo anchor expr input captures := by
  constructor
  · exact matches_of_firstMatch
  · intro hMatches
    cases hFirst : firstMatch anchor expr input with
    | none => exact absurd hMatches (firstMatch_eq_none_iff.mp hFirst captures)
    | some found =>
        rw [hUnique found captures (matches_of_firstMatch hFirst) hMatches]

end Search

/-- A word of one class that a character outside the class ends, or nothing, is the only
one that the text starts with. -/
theorem span_unique {accepts : α → Bool} {first second rest other : List α}
    (hFirst : ∀ c ∈ first, accepts c = true) (hSecond : ∀ c ∈ second, accepts c = true)
    (hRest : ∀ c ∈ rest.head?, accepts c = false)
    (hOther : ∀ c ∈ other.head?, accepts c = false)
    (h : first ++ rest = second ++ other) : first = second ∧ rest = other := by
  induction first generalizing second with
  | nil =>
      cases second with
      | nil => exact ⟨rfl, h⟩
      | cons c second =>
          have hHead : rest.head? = some c := by
            rw [List.nil_append] at h
            rw [h]
            rfl
          have hTrue := hSecond c List.mem_cons_self
          rw [hRest c hHead] at hTrue
          cases hTrue
  | cons c first ih =>
      cases second with
      | nil =>
          have hHead : other.head? = some c := by
            rw [List.nil_append] at h
            rw [← h]
            rfl
          have hTrue := hFirst c List.mem_cons_self
          rw [hOther c hHead] at hTrue
          cases hTrue
      | cons d second =>
          rw [List.cons_append, List.cons_append, List.cons.injEq] at h
          obtain ⟨rfl, hTails⟩ := h
          obtain ⟨rfl, rfl⟩ := ih (fun e hMem => hFirst e (List.mem_cons_of_mem c hMem))
            (fun e hMem => hSecond e (List.mem_cons_of_mem c hMem)) hTails
          exact ⟨rfl, rfl⟩

end Regex
