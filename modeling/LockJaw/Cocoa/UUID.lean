import Mathlib.Data.BitVec
import Mathlib.Data.List.OfFn
import Mathlib.Data.Fin.Basic

/-! Foundation's universally unique identifiers and the text under which they are
stored. The text determines the identifier, so a query by text finds exactly the
records of one identifier. -/
namespace Cocoa

structure NSUUID where
  bits : BitVec 128
deriving DecidableEq

namespace NSUUID

/-- The `i`th hexadecimal digit, most significant first. -/
def digit (identifier : NSUUID) (i : Fin 32) : Fin 16 :=
  (identifier.bits.extractLsb' (4 * (31 - i)) 4).toFin

def hexDigit (d : Fin 16) : Char :=
  "0123456789ABCDEF".toList.getD d '0'

/-- The digits in groups of 8, 4, 4, 4 and 12. -/
def grouped (digits : List Char) : List Char :=
  digits.take 8 ++ '-' :: ((digits.drop 8).take 4 ++ '-' :: ((digits.drop 12).take 4 ++
    '-' :: ((digits.drop 16).take 4 ++ '-' :: digits.drop 20)))

def digits (identifier : NSUUID) : List Char :=
  List.ofFn fun i => hexDigit (identifier.digit i)

/-- `UUIDString`, such as `"E621E1F8-C36C-495A-93FC-0C247A3E6E5F"`. -/
def UUIDString (identifier : NSUUID) : String :=
  String.ofList (grouped identifier.digits)

theorem hexDigit_injective : Function.Injective hexDigit := by decide

theorem hexDigit_ne_dash (d : Fin 16) : hexDigit d ≠ '-' := by
  revert d
  decide

/-- Dropping the dashes recovers the digits. -/
theorem filter_grouped {digits : List Char} (h : ∀ c ∈ digits, c ≠ '-') :
    (grouped digits).filter (· ≠ '-') = digits := by
  have hKeep : ∀ part : List Char, part ⊆ digits → part.filter (· ≠ '-') = part := by
    intro part hPart
    exact List.filter_eq_self.mpr fun c hc => by simpa using h c (hPart hc)
  have hTake : ∀ m n, (digits.drop m).take n ⊆ digits := fun m n =>
    List.Subset.trans (List.take_subset _ _) (List.drop_subset _ _)
  have hJoin : ∀ m n, (digits.drop m).take n ++ digits.drop (m + n) = digits.drop m := by
    intro m n
    rw [← List.drop_drop]
    exact List.take_append_drop _ _
  simp only [grouped, List.filter_append, List.filter_cons, ne_eq, not_true_eq_false,
    decide_false, Bool.false_eq_true, ↓reduceIte]
  simp only [← ne_eq, hKeep _ (hTake _ _), hKeep _ (List.take_subset _ _),
    hKeep _ (List.drop_subset _ _)]
  rw [hJoin 16 4, hJoin 12 4, hJoin 8 4, List.take_append_drop]

theorem digits_ne_dash (identifier : NSUUID) : ∀ c ∈ identifier.digits, c ≠ '-' := by
  intro c hc
  obtain ⟨i, rfl⟩ := (List.mem_ofFn' _ _).mp hc
  exact hexDigit_ne_dash _

/-- Bit `j` is bit `j % 4` of digit `31 - j / 4`. -/
theorem eq_of_digits {first second : NSUUID} (h : ∀ i, first.digit i = second.digit i) :
    first = second := by
  cases first with | mk a =>
  cases second with | mk b =>
  congr 1
  apply BitVec.eq_of_getLsbD_eq
  intro j hj
  have hDigit := h ⟨31 - j / 4, by omega⟩
  have hNibble : a.extractLsb' (4 * (j / 4)) 4 = b.extractLsb' (4 * (j / 4)) 4 := by
    have hIndex : 31 - (31 - j / 4) = j / 4 := by omega
    apply BitVec.toFin_inj.mp
    simpa only [digit, hIndex] using hDigit
  have hBit := congrArg (fun nibble => nibble.getLsbD (j % 4)) hNibble
  have hPosition : 4 * (j / 4) + j % 4 = j := Nat.div_add_mod j 4
  have hSmall : j % 4 < 4 := Nat.mod_lt _ (by decide)
  simpa [BitVec.getLsbD_extractLsb', hPosition, hSmall] using hBit

/-- Distinct identifiers have distinct texts. -/
theorem UUIDString_injective : Function.Injective UUIDString := by
  intro first second h
  have hGrouped : grouped first.digits = grouped second.digits := by
    simpa [UUIDString] using congrArg String.toList h
  have hDigits : first.digits = second.digits := by
    rw [← filter_grouped (digits_ne_dash first), hGrouped,
      filter_grouped (digits_ne_dash second)]
  apply eq_of_digits
  intro i
  exact hexDigit_injective (congrFun (List.ofFn_injective hDigits) i)

end NSUUID
end Cocoa
