import LogSearch.Proofs.AsciiText
import LogSearch.Proofs.Bounds
import LogSearch.Proofs.StoredValues

/-!
# Integers as values and as ranges

An integer can be asked for in two ways: as a value, which is compared with the decimal text of what
is stored, and as a range from the integer to itself, which is compared with the stored number. Both
ask for the same.

Results:
1. `decimalInt_injective`, `lowercase_decimalInt`: integers with the same decimal text are the same,
   and lowercase does not change the text.
2. `parse_typedInt`, `holds_typedInt_iff`: an integer as a value.
3. `holds_degenerate_iff`: an integer as a range.
4. `parse_int_agree`: both.
-/

namespace LogSearch

namespace Text

/-! ## 1. Decimal texts -/

theorem decimal_injective {n m : Nat} (same : decimal n = decimal m) : n = m := by
  rw [← digitsValue_decimal n, same, digitsValue_decimal]

/-- The sign tells a negative integer from every other. -/
theorem minus_not_mem_decimal (n : Nat) : '-' ∉ decimal n :=
  fun member => absurd (isDigit_of_mem_decimal member) (by decide)

theorem decimalInt_injective {n m : Int} (same : decimalInt n = decimalInt m) : n = m := by
  match n, m with
  | .ofNat n, .ofNat m => exact congrArg Int.ofNat (decimal_injective same)
  | .ofNat n, .negSucc m =>
    have signed : decimal n = '-' :: decimal (m + 1) := same
    exact absurd (signed ▸ List.mem_cons_self) (minus_not_mem_decimal n)
  | .negSucc n, .ofNat m =>
    have signed : decimal m = '-' :: decimal (n + 1) := same.symm
    exact absurd (signed ▸ List.mem_cons_self) (minus_not_mem_decimal m)
  | .negSucc n, .negSucc m =>
    have digits : decimal (n + 1) = decimal (m + 1) := (List.cons.inj same).2
    exact congrArg Int.negSucc (Nat.succ.inj (decimal_injective digits))

theorem toLower_of_isDigit {c : Char} (digit : c.isDigit = true) : c.toLower = c := by
  have last : c.toNat ≤ 57 := (Char.isDigit_iff_toNat.mp digit).2
  refine dif_neg ?_
  rintro ⟨first, -⟩
  have : 65 ≤ c.toNat := first
  omega

theorem lowercase_decimalInt (n : Int) : lowercase (decimalInt n) = decimalInt n := by
  have plain : ∀ c ∈ decimalInt n, c.toNat < 128 ∧ c.toLower = c := by
    intro c member
    rcases isDigit_of_mem_decimalInt member with digit | rfl
    · have last : c.toNat ≤ 57 := (Char.isDigit_iff_toNat.mp digit).2
      exact ⟨by omega, toLower_of_isDigit digit⟩
    · decide
  rw [lowercase_of_ascii fun c member => (plain c member).1]
  exact (List.map_congr_left fun c member => (plain c member).2).trans (List.map_id' _)

end Text

namespace Clause

open Text

/-! ## 2. Integers as values -/

/-- The text of a field with an integer in decimal. -/
def typedInt (field : String) (n : Int) : String :=
  field ++ ":" ++ .ofList (decimalInt n)

/-- The text of a field with the range from an integer to itself, in decimal. -/
def typedDegenerate (field : String) (n : Int) : String :=
  typedRange field (.ofList (decimalInt n)) (.ofList (decimalInt n))

variable {field : String} {record : Record} {m : Int64}

/-- No part of an integer is a quotation mark or a star. -/
theorem parse_typedInt (compiler : Pattern.Compiler) (named : Run isNameChar field.toList)
    (n : Int) :
    Clause.parse compiler (typedInt field n) = .ok (.equals field (.ofList (decimalInt n))) := by
  have typable := typable_decimalInt compiler named n
  have noStar : '*' ∉ decimalInt n := by
    intro star
    rcases isDigit_of_mem_decimalInt star with digit | minus
    · exact absurd digit (by decide)
    · exact absurd minus (by decide)
  rw [typedInt, typable.parse_clause,
    ofValue_of_unquotes compiler (unquotes_iff.mpr (strip_eq_self typable.unquoted).symm),
    String.toList_ofList, if_neg noStar, String.ofList_toList]

theorem holds_typedInt_iff (stored : record.get? field = some (.int m)) (n : Int) :
    (Clause.equals field (.ofList (decimalInt n))).holds record = true ↔ m.toInt = n := by
  have text : record.text? field = some (.ofList (decimalInt m.toInt)) := by
    rw [Record.text?, stored]
    rfl
  rw [holds, text, Option.any_some, beq_iff_eq, String.toList_ofList, String.toList_ofList,
    lowercase_decimalInt, lowercase_decimalInt]
  exact ⟨decimalInt_injective, congrArg decimalInt⟩

/-! ## 3. Integers as ranges -/

theorem holds_degenerate_iff (stored : record.get? field = some (.int m)) {n : Nat}
    (high : n ≤ Int64.maxValue.toInt) :
    (Clause.range field (bound (decimal n)) (bound (decimal n))).holds record = true ↔
      m.toInt = n := by
  rw [holds_bounds_iff, digitsValue_decimal]
  constructor
  · rintro (⟨_, found, above, under⟩ | ⟨-, beyond, -⟩)
    · cases stored.symm.trans found
      exact Int.le_antisymm under above
    · exact absurd high (Int.not_le.mpr beyond)
  · rintro same
    exact .inl ⟨m, stored, Int.le_of_eq same.symm, Int.le_of_eq same⟩

/-! ## 4. Both -/

/-- Where a field holds an integer, the clause that is typed with an integer as its value asks for
that integer, of whatever sign and size. So does the clause that is typed with the range from the
integer to itself, if the integer is one that can be a bound and be stored. -/
theorem parse_int_agree (compiler : Pattern.Compiler) (named : Run isNameChar field.toList)
    (stored : record.get? field = some (.int m)) (n : Int) :
    ∃ value, Clause.parse compiler (typedInt field n) = .ok value ∧
      (value.holds record = true ↔ m.toInt = n) ∧
      (0 ≤ n → n ≤ Int64.maxValue.toInt →
        ∃ range, Clause.parse compiler (typedDegenerate field n) = .ok range ∧
          (range.holds record = true ↔ value.holds record = true)) := by
  refine ⟨_, parse_typedInt compiler named n, holds_typedInt_iff stored n, fun nonneg high => ?_⟩
  rw [holds_typedInt_iff stored n]
  obtain ⟨n, rfl⟩ := Int.eq_ofNat_of_zero_le nonneg
  have digits : (String.ofList (decimalInt n)).toList = decimal n := String.toList_ofList
  have run : Run Char.isDigit (String.ofList (decimalInt n)).toList := by
    rw [digits]
    exact ⟨decimal_ne_nil n, fun c => isDigit_of_mem_decimal⟩
  refine ⟨_, parse_typedRange compiler named run run, ?_⟩
  rw [digits]
  exact holds_degenerate_iff stored high

/-- The largest integer is found as a value and as a range. The smallest one is found as a value,
and its neighbour is not. -/
theorem parse_int_agree_ends :
    let record : Record := .ofList [("high", .int Int64.maxValue), ("low", .int Int64.minValue)]
    let largest := Int64.maxValue.toInt
    let smallest := Int64.minValue.toInt
    (Run isNameChar "high".toList ∧ record.get? "high" = some (.int Int64.maxValue) ∧
      0 ≤ largest ∧ largest ≤ Int64.maxValue.toInt) ∧
    (∃ value range, Clause.parse .lenient (typedInt "high" largest) = .ok value ∧
      Clause.parse .lenient (typedDegenerate "high" largest) = .ok range ∧
      value.holds record = true ∧ range.holds record = true) ∧
    (Run isNameChar "low".toList ∧ record.get? "low" = some (.int Int64.minValue)) ∧
    (∃ value, Clause.parse .lenient (typedInt "low" smallest) = .ok value ∧
      value.holds record = true) ∧
    ∃ value, Clause.parse .lenient (typedInt "low" (smallest + 1)) = .ok value ∧
      value.holds record = false := by
  intro record largest smallest
  have high : record.get? "high" = some (.int Int64.maxValue) := by decide
  have low : record.get? "low" = some (.int Int64.minValue) := by decide
  have highNamed : Run isNameChar "high".toList := by decide
  have lowNamed : Run isNameChar "low".toList := by decide
  have nonneg : 0 ≤ largest := by decide
  obtain ⟨value, read, finds, agrees⟩ := parse_int_agree .lenient highNamed high largest
  obtain ⟨range, readRange, both⟩ := agrees nonneg (Int.le_refl _)
  obtain ⟨lowest, readLowest, findsLowest, -⟩ := parse_int_agree .lenient lowNamed low smallest
  obtain ⟨next, readNext, findsNext, -⟩ := parse_int_agree .lenient lowNamed low (smallest + 1)
  refine ⟨⟨highNamed, high, nonneg, Int.le_refl _⟩,
    ⟨value, range, read, readRange, finds.mpr rfl, both.mpr (finds.mpr rfl)⟩, ⟨lowNamed, low⟩,
    ⟨lowest, readLowest, findsLowest.mpr rfl⟩, next, readNext, ?_⟩
  exact Bool.eq_false_iff.mpr fun holds => absurd (findsNext.mp holds) (by decide)

end Clause

end LogSearch
