import LogSearch.Proofs.Bounds

/-!
# Canonical texts of clauses

A clause can be typed in many ways. Its canonical text is one of them: a range with its bounds in
plain decimal, a value or a pattern between quotation marks, and free text as it is. What was read
once is not changed by being read again, so a value in brackets stays a value, and a bound that was
held at the largest integer is held there again.

* `Typed compiler clause` says what the grammar grants of the clauses that it gives. Their patterns
  are those that compile.

Results:
1. `FieldForm.quotable`, `typed_of_parse`: every clause that is read is `Typed`.
2. `Quotable.parse`, `bound_decimalInt`: values between quotation marks, and bounds in decimal.
3. `Typed.parse`, `exists_parse_iff`: every `Typed` clause is read from its canonical text,
   and so `Typed` clauses are exactly those that can be typed.
4. `parse_canonical`: reading a canonical text again.
-/

namespace LogSearch.Clause

open Text

/-! ## 1. Clauses that are read -/

/-- A value that can stand between quotation marks: it is part of one line, and no quotation mark
stands at its own ends. -/
structure Quotable (value : String) : Prop where
  oneLine : '\n' ∉ value.toList
  bare : Bare isQuote value.toList

/-- What the grammar grants of a clause. -/
inductive Typed (compiler : Pattern.Compiler) : Clause → Prop
  | equals {field value : String} :
      Run isNameChar field.toList → Quotable value → '*' ∉ value.toList →
      Typed compiler (.equals field value)
  | wildcard {field pattern : String} :
      Run isNameChar field.toList → Quotable pattern → '*' ∈ pattern.toList →
      compiler.Accepts pattern → Typed compiler (.wildcard field pattern)
  | range {field : String} {min max : Int64} :
      Run isNameChar field.toList → 0 ≤ min.toInt → 0 ≤ max.toInt →
      Typed compiler (.range field min max)
  | freeText {text : String} :
      IsEmpty (RangeForm text.toList) → IsEmpty (FieldForm text.toList) →
      Typed compiler (.freeText text)

variable {compiler : Pattern.Compiler}

theorem FieldForm.quotable {text : List Char} (form : FieldForm text) {value : String}
    (stripped : value.toList = strip isQuote form.value) : Quotable value := by
  constructor
  case oneLine =>
    rw [stripped]
    intro member
    have inLine := form.value_run.2 _ ((strip_sublist isQuote form.value).subset member)
    exact absurd inLine (by decide)
  case bare =>
    rw [stripped]
    exact bare_strip isQuote form.value

theorem toInt_bound_nonneg (digits : List Char) : 0 ≤ (bound digits).toInt := by
  rw [toInt_bound]
  exact le_min (by decide) (Int.natCast_nonneg _)

theorem typed_of_parse {text : String} {clause : Clause}
    (read : Clause.parse compiler text = .ok clause) : Typed compiler clause := by
  rcases isEmpty_or_nonempty (RangeForm text.toList) with noRange | ⟨⟨form⟩⟩
  · rcases isEmpty_or_nonempty (FieldForm text.toList) with noField | ⟨⟨form⟩⟩
    · rw [parse_of_isEmpty compiler noRange noField] at read
      cases read
      exact .freeText noRange noField
    · have named : Run isNameChar (String.ofList form.field).toList := by
        rw [String.toList_ofList]
        exact form.field_run
      obtain ⟨value, stripped⟩ : ∃ value : String, value.toList = strip isQuote form.value :=
        ⟨_, String.toList_ofList⟩
      have quotable := form.quotable stripped
      rw [form.parse compiler noRange, ofValue_of_unquotes compiler (unquotes_iff.mpr stripped),
        String.ofList_toList] at read
      split at read
      · rename_i star
        obtain ⟨compiles, rfl⟩ := ofPattern_eq_ok_iff.mp read
        exact .wildcard named quotable star compiles
      · rename_i noStar
        cases read
        exact .equals named quotable noStar
  · have named : Run isNameChar (String.ofList form.field).toList := by
      rw [String.toList_ofList]
      exact form.field_run
    rw [form.parse compiler] at read
    cases read
    exact .range named (toInt_bound_nonneg _) (toInt_bound_nonneg _)

/-! ## 2. Quotation marks and bounds -/

/-- The text of a field with a value or a pattern between quotation marks. -/
def quotedText (field pattern : String) : String :=
  field ++ ":\"" ++ pattern ++ "\""

theorem Quotable.parse (compiler : Pattern.Compiler) {field value : String}
    (quotable : Quotable value) (named : Run isNameChar field.toList) :
    Clause.parse compiler (quotedText field value) =
      if '*' ∈ value.toList then ofPattern compiler field value
      else .ok (.equals field value) := by
  have whole : quotedText field value =
      .ofList (field.toList ++ ':' :: ('"' :: (value.toList ++ ['"']))) := by
    rw [← String.toList_inj, String.toList_ofList]
    simp [quotedText]
  have unquotes : Unquotes ('"' :: (value.toList ++ ['"'])) value.toList :=
    ⟨['"'], ['"'], rfl, by simp [isQuote], quotable.bare⟩
  rw [whole, parse_field_framed compiler named (by decide) (by decide) quotable.oneLine,
    ofValue_of_unquotes compiler unquotes]
  simp only [String.ofList_toList]

theorem run_decimalInt {n : Int64} (nonneg : 0 ≤ n.toInt) :
    Run Char.isDigit (decimalInt n.toInt) := by
  obtain ⟨m, value⟩ := Int.eq_ofNat_of_zero_le nonneg
  rw [value]
  exact ⟨decimal_ne_nil m, fun c => isDigit_of_mem_decimal⟩

/-- What was held at the largest integer is not beyond it. -/
theorem bound_decimalInt {n : Int64} (nonneg : 0 ≤ n.toInt) : bound (decimalInt n.toInt) = n := by
  have within := toInt_le_maxValue n
  rw [← Int64.toInt_inj, toInt_bound]
  obtain ⟨m, value⟩ := Int.eq_ofNat_of_zero_le nonneg
  have digits : decimalInt m = decimal m := rfl
  rw [value] at within ⊢
  rw [digits, digitsValue_decimal]
  exact min_eq_right within

/-! ## 3. Canonical texts -/

/-- The canonical text of a clause. -/
def canonical : Clause → String
  | .equals field value => quotedText field value
  | .wildcard field pattern => quotedText field pattern
  | .range field min max => typedRange field (Value.int min).toText (Value.int max).toText
  | .freeText text => text

theorem Typed.parse {clause : Clause} (typed : Typed compiler clause) :
    Clause.parse compiler clause.canonical = .ok clause := by
  cases typed with
  | equals named quotable noStar => rw [canonical, quotable.parse compiler named, if_neg noStar]
  | wildcard named quotable star compiles =>
    rw [canonical, quotable.parse compiler named, if_pos star]
    exact ofPattern_eq_ok_iff.mpr ⟨compiles, rfl⟩
  | @range field min max named low high =>
    have digits {n : Int64} : (Value.int n).toText.toList = decimalInt n.toInt :=
      String.toList_ofList
    have lowDigits : Run Char.isDigit (Value.int min).toText.toList := by
      rw [digits]
      exact run_decimalInt low
    have highDigits : Run Char.isDigit (Value.int max).toText.toList := by
      rw [digits]
      exact run_decimalInt high
    rw [canonical, parse_typedRange compiler named lowDigits highDigits, digits, digits,
      bound_decimalInt low, bound_decimalInt high]
  | freeText noRange noField => exact parse_of_isEmpty compiler noRange noField

theorem exists_parse_iff {clause : Clause} :
    (∃ text, Clause.parse compiler text = .ok clause) ↔ Typed compiler clause :=
  ⟨fun ⟨_, read⟩ => typed_of_parse read, fun typed => ⟨_, typed.parse⟩⟩

/-! ## 4. Reading again -/

/-- The canonical text of a clause that was read is read as the same clause, of the same kind and
with the same field, bounds, value, pattern or text. So two texts mean the same clause exactly if
their canonical texts are the same. -/
theorem parse_canonical {text : String} {clause : Clause}
    (read : Clause.parse compiler text = .ok clause) :
    Clause.parse compiler clause.canonical = .ok clause ∧
    ∀ other otherClause, Clause.parse compiler other = .ok otherClause →
      (otherClause.canonical = clause.canonical ↔ otherClause = clause) := by
  have again := (typed_of_parse read).parse
  refine ⟨again, fun other otherClause otherRead => ⟨fun same => ?_, congrArg canonical⟩⟩
  have otherAgain := (typed_of_parse otherRead).parse
  rw [same, again] at otherAgain
  exact (Except.ok.inj otherAgain).symm

/-- A range in quotation marks stays a value and marks within a value stay, a value without
characters stays one, a bound beyond all integers comes back as the largest one, and a pattern stays
a pattern. -/
theorem parse_canonical_brackets :
    (Clause.parse .lenient "hour:'[1 TO 5]'" = .ok (.equals "hour" "[1 TO 5]") ∧
      Clause.parse .lenient "hour:\"[1 TO 5]\"" = .ok (.equals "hour" "[1 TO 5]")) ∧
    (Clause.parse .lenient "user:'\"'\ngone" = .ok (.equals "user" "") ∧
      Clause.parse .lenient "user:\"\"" = .ok (.equals "user" "")) ∧
    (Clause.parse .lenient "hour:[007 TO 99999999999999999999] gone" =
        .ok (.range "hour" 7 9223372036854775807) ∧
      Clause.parse .lenient "hour:[7 TO 9223372036854775807]" =
        .ok (.range "hour" 7 9223372036854775807)) ∧
    (Clause.parse .lenient "path:'*\"it's\"*" = .ok (.wildcard "path" "*\"it's\"*") ∧
      Clause.parse .lenient "path:\"*\"it's\"*\"" = .ok (.wildcard "path" "*\"it's\"*")) := by
  have value : Clause.parse .lenient "hour:'[1 TO 5]'" = .ok (.equals "hour" "[1 TO 5]") := by
    decide +kernel
  have nothing : Clause.parse .lenient "user:'\"'\ngone" = .ok (.equals "user" "") := by
    decide +kernel
  have range : Clause.parse .lenient "hour:[007 TO 99999999999999999999] gone" =
      .ok (.range "hour" 7 9223372036854775807) := by decide +kernel
  have pattern : Clause.parse .lenient "path:'*\"it's\"*" =
      .ok (.wildcard "path" "*\"it's\"*") := by decide +kernel
  have decimals : (Clause.range "hour" 7 9223372036854775807).canonical =
      "hour:[7 TO 9223372036854775807]" := by decide +kernel
  have again := (parse_canonical range).1
  rw [decimals] at again
  exact ⟨⟨value, (parse_canonical value).1⟩, ⟨nothing, (parse_canonical nothing).1⟩,
    ⟨range, again⟩, ⟨pattern, (parse_canonical pattern).1⟩⟩

end LogSearch.Clause
