import LogSearch.Proofs.Grammar
import LogSearch.Record
import Mathlib.Order.MinMax

/-!
# Ranges of integers

A range is typed with bounds of any length, and stored integers have 64 bits. `Within` is the
meaning of the bounds as unbounded numbers. A bound beyond the largest integer is held there. As an
upper bound this changes nothing, since no integer lies beyond. As a lower bound it lets in the
largest integer itself (`AtLimit`).

Results:
1. `holds_range_iff`: a range condition asks for an integer between its bounds.
2. `holds_bounds_iff`: with the bounds that digits stand for, it asks for `Within` or `AtLimit`.
3. `parse_typedRange`: the typed text is the range of its bounds.
4. `parse_range_within`: a typed range means `Within`, but for the records that are `AtLimit`.
-/

namespace LogSearch.Clause

open Text

/-! ## 1. Meaning -/

/-- The field of the record is an integer from `low` to `high`. -/
def Within (record : Record) (field : String) (low high : Nat) : Prop :=
  ∃ n : Int64, record.get? field = some (.int n) ∧ low ≤ n.toInt ∧ n.toInt ≤ high

/-- The field of the record is the largest integer, which is below `low` and not above `high`. -/
def AtLimit (record : Record) (field : String) (low high : Nat) : Prop :=
  record.get? field = some (.int Int64.maxValue) ∧
    Int64.maxValue.toInt < low ∧ Int64.maxValue.toInt ≤ high

variable {record : Record} {low high : Nat}

theorem holds_range_iff {field : String} {low high : Int64} :
    (Clause.range field low high).holds record = true ↔
      ∃ n : Int64, record.get? field = some (.int n) ∧
        low.toInt ≤ n.toInt ∧ n.toInt ≤ high.toInt := by
  simp only [holds, Option.any_eq_true, Bool.and_eq_true, decide_eq_true_eq,
    Int64.le_iff_toInt_le]
  constructor
  · rintro ⟨n, stored, inside⟩
    obtain ⟨value, found, int⟩ := Option.bind_eq_some_iff.mp stored
    cases value with
    | int m =>
      obtain rfl := Option.some.inj int
      exact ⟨m, found, inside⟩
    | text s => cases int
  · rintro ⟨n, found, inside⟩
    refine ⟨n, ?_, inside⟩
    rw [found]
    rfl

/-- Nothing is both: `Within` puts `low` at or below a stored integer. -/
theorem Within.not_atLimit {field : String} (within : Within record field low high) :
    ¬ AtLimit record field low high := by
  rintro ⟨largest, beyond, -⟩
  obtain ⟨n, found, above, -⟩ := within
  obtain rfl : n = Int64.maxValue := by simpa [found] using largest
  exact absurd above (Int.not_le.mpr beyond)

/-! ## 2. Bounds that are held at the largest integer -/

theorem toInt_le_maxValue (n : Int64) : n.toInt ≤ Int64.maxValue.toInt :=
  Int64.le_iff_toInt_le.mp (Int64.le_maxValue n)

/-- An upper bound means the same number, held or not. -/
theorem le_bound_iff (n : Int64) (digits : List Char) :
    n.toInt ≤ (bound digits).toInt ↔ n.toInt ≤ digitsValue digits := by
  rw [toInt_bound, le_min_iff]
  exact and_iff_right (toInt_le_maxValue n)

/-- A lower bound means the same number, but for the largest integer. -/
theorem bound_le_iff (n : Int64) (digits : List Char) :
    (bound digits).toInt ≤ n.toInt ↔
      digitsValue digits ≤ n.toInt ∨ n = Int64.maxValue ∧ n.toInt < digitsValue digits := by
  rw [toInt_bound, min_le_iff]
  constructor
  · rintro (largest | above)
    · have same : n = Int64.maxValue :=
        Int64.toInt_inj.mp (Int.le_antisymm (toInt_le_maxValue n) largest)
      rcases lt_or_ge n.toInt (digitsValue digits) with below | above
      · exact .inr ⟨same, below⟩
      · exact .inl above
    · exact .inl above
  · rintro (above | ⟨rfl, -⟩)
    · exact .inr above
    · exact .inl (Int.le_refl _)

theorem holds_bounds_iff {field : String} {low high : List Char} :
    (Clause.range field (bound low) (bound high)).holds record = true ↔
      Within record field (digitsValue low) (digitsValue high) ∨
        AtLimit record field (digitsValue low) (digitsValue high) := by
  simp only [holds_range_iff, bound_le_iff, le_bound_iff]
  constructor
  · rintro ⟨n, found, above | ⟨rfl, below⟩, under⟩
    · exact .inl ⟨n, found, above, under⟩
    · exact .inr ⟨found, below, under⟩
  · rintro (⟨n, found, above, under⟩ | ⟨found, below, under⟩)
    · exact ⟨n, found, .inl above, under⟩
    · exact ⟨_, found, .inr ⟨rfl, below⟩, under⟩

/-! ## 3. Typed ranges -/

/-- The text of a range. -/
def typedRange (field low high : String) : String :=
  field ++ ":[" ++ low ++ " TO " ++ high ++ "]"

/-- The parts of a typed range. -/
def RangeForm.typed {field low high : String} (named : Run isNameChar field.toList)
    (lowDigits : Run Char.isDigit low.toList) (highDigits : Run Char.isDigit high.toList) :
    RangeForm (typedRange field low high).toList where
  field := field.toList
  low := low.toList
  before := [' ']
  after := [' ']
  high := high.toList
  rest := []
  whole := by simp [typedRange]
  field_run := named
  low_run := lowDigits
  before_run := by decide
  after_run := by decide
  high_run := highDigits

theorem parse_typedRange (compiler : Pattern.Compiler) {field low high : String}
    (named : Run isNameChar field.toList) (lowDigits : Run Char.isDigit low.toList)
    (highDigits : Run Char.isDigit high.toList) :
    Clause.parse compiler (typedRange field low high) =
      .ok (.range field (bound low.toList) (bound high.toList)) := by
  rw [(RangeForm.typed named lowDigits highDigits).parse compiler]
  simp only [RangeForm.typed, String.ofList_toList]

/-! ## 4. Typed ranges of unbounded numbers -/

/-- A range typed with any digits is read. A record meets it if its field is an integer between the
two numbers, or if it is the largest integer and the lower number is beyond it. So the range means
what its numbers say exactly where the latter does not happen. -/
theorem parse_range_within (compiler : Pattern.Compiler) {field low high : String}
    (named : Run isNameChar field.toList) (lowDigits : Run Char.isDigit low.toList)
    (highDigits : Run Char.isDigit high.toList) :
    ∃ clause, Clause.parse compiler (typedRange field low high) = .ok clause ∧ ∀ record : Record,
      (clause.holds record = true ↔
        Within record field (digitsValue low.toList) (digitsValue high.toList) ∨
          AtLimit record field (digitsValue low.toList) (digitsValue high.toList)) ∧
      ((clause.holds record = true ↔
        Within record field (digitsValue low.toList) (digitsValue high.toList)) ↔
          ¬ AtLimit record field (digitsValue low.toList) (digitsValue high.toList)) := by
  refine ⟨_, parse_typedRange compiler named lowDigits highDigits,
    fun record => ⟨holds_bounds_iff, ?_⟩⟩
  rw [holds_bounds_iff]
  constructor
  · intro means limit
    exact (means.mp (.inr limit)).not_atLimit limit
  · intro inside
    exact or_iff_left inside

/-- The hour seven is within `[0 TO 99999999999999999999]`. The text `7` is not. -/
theorem parse_range_within_hour :
    Run isNameChar "hour".toList ∧ Run Char.isDigit "0".toList ∧
    Run Char.isDigit "99999999999999999999".toList ∧
    ∃ clause, Clause.parse .lenient "hour:[0 TO 99999999999999999999]" = .ok clause ∧
      clause.holds (.ofList [("hour", .int 7)]) = true ∧
      clause.holds (.ofList [("hour", .text "7")]) = false := by
  have named : Run isNameChar "hour".toList := by decide
  have lowDigits : Run Char.isDigit "0".toList := by decide
  have highDigits : Run Char.isDigit "99999999999999999999".toList := by decide
  obtain ⟨clause, read, means⟩ := parse_range_within .lenient named lowDigits highDigits
  refine ⟨named, lowDigits, highDigits, clause, read, ?_, ?_⟩
  · exact (means _).1.mpr (.inl ⟨7, rfl, by decide, by decide⟩)
  · refine Bool.eq_false_iff.mpr fun holds => ?_
    rcases (means _).1.mp holds with ⟨n, found, -⟩ | ⟨found, -⟩
    · cases found
    · cases found

/-- The largest integer meets a range whose lower bound is beyond it, and which is empty besides. -/
theorem parse_range_atLimit :
    ∃ clause, Clause.parse .lenient "n:[9223372036854775809 TO 9223372036854775808]" = .ok clause ∧
      clause.holds (.ofList [("n", .int 9223372036854775807)]) = true ∧
      ¬ Within (.ofList [("n", .int 9223372036854775807)]) "n"
        9223372036854775809 9223372036854775808 := by
  refine ⟨.range "n" Int64.maxValue Int64.maxValue, by decide +kernel, by decide +kernel, ?_⟩
  rintro ⟨n, -, above, under⟩
  omega

end LogSearch.Clause
