/-!
# Decimal numbers

Writing integers in decimal, and reading runs of decimal digits.

* `decimal` and `decimalInt` write the fewest digits, with `-` before a negative number.
* `digitsValue` reads a run of digits of any length; `cappedValue` reads it with a ceiling, so that
  a longer run costs no larger number.
* `readInt64` reads a 64-bit integer, and says why a text is none.
-/

namespace LogSearch.Text

/-- The decimal digits of a natural number. -/
def decimal (n : Nat) : List Char :=
  Nat.toDigits 10 n

/-- The decimal form of an integer. -/
def decimalInt : Int → List Char
  | .ofNat n => decimal n
  | .negSucc n => '-' :: decimal (n + 1)

/-- The decimal form of a natural number, as a string. -/
def decimalText (n : Nat) : String :=
  .ofList (decimal n)

/-- The number that a run of decimal digits stands for. -/
def digitsValue (digits : List Char) : Nat :=
  Nat.ofDigitChars 10 digits 0

/-- The number that a run of decimal digits stands for, or `ceiling` if that is less. -/
def cappedValue (ceiling : Nat) (digits : List Char) : Nat :=
  digits.foldl (fun n digit => min ceiling (10 * n + (digit.toNat - '0'.toNat))) 0

/-! ## 64-bit integers -/

/-- Why a text is not a 64-bit integer. -/
inductive IntegerFault where
  | empty
  | invalidDigit
  /-- The number is beyond the largest integer. -/
  | tooLarge
  /-- The number is beyond the smallest integer. -/
  | tooSmall
deriving DecidableEq, Repr

/-- The wording of a fault. -/
def IntegerFault.message : IntegerFault → String
  | .empty => "cannot parse integer from empty string"
  | .invalidDigit => "invalid digit found in string"
  | .tooLarge => "number too large to fit in target type"
  | .tooSmall => "number too small to fit in target type"

/-- Reads on after the digits of `n`. The first digit that takes the number beyond the limit is a
fault, whatever follows it. -/
def readWithin (limit : Nat) (beyond : IntegerFault) (n : Nat) :
    List Char → Except IntegerFault Nat
  | [] => .ok n
  | c :: rest =>
    if c.isDigit then
      let n := 10 * n + (c.toNat - '0'.toNat)
      if n ≤ limit then readWithin limit beyond n rest else .error beyond
    else .error .invalidDigit

/-- Reads a 64-bit integer: digits, with a sign before them or without. -/
def readInt64 : List Char → Except IntegerFault Int64
  | [] => .error .empty
  | ['+'] | ['-'] => .error .invalidDigit
  | '-' :: digits =>
    (fun n => .ofInt (-n)) <$> readWithin Int64.minValue.toInt.natAbs .tooSmall 0 digits
  | '+' :: digits => .ofNat <$> readWithin Int64.maxValue.toInt.toNat .tooLarge 0 digits
  | digits => .ofNat <$> readWithin Int64.maxValue.toInt.toNat .tooLarge 0 digits

/-! ## Laws -/

theorem decimal_ne_nil (n : Nat) : decimal n ≠ [] :=
  Nat.toDigits_ne_nil

theorem isDigit_of_mem_decimal {n : Nat} {c : Char} (member : c ∈ decimal n) : c.isDigit = true :=
  Nat.isDigit_of_mem_toDigits (by decide) (by decide) member

theorem exists_decimal_eq_cons (n : Nat) :
    ∃ digit digits, decimal n = digit :: digits ∧ digit.isDigit = true := by
  obtain ⟨digit, digits, whole⟩ := List.exists_cons_of_ne_nil (decimal_ne_nil n)
  exact ⟨digit, digits, whole, isDigit_of_mem_decimal (whole ▸ List.mem_cons_self)⟩

/-- No zero stands in front. -/
theorem head?_decimal {n : Nat} (pos : 0 < n) : (decimal n).head? ≠ some '0' := by
  induction n using Nat.strongRecOn with
  | ind n ih =>
    by_cases short : n < 10
    · have all : ∀ n : Fin 10, 0 < n.val → (decimal n).head? ≠ some '0' := by decide
      exact all ⟨n, short⟩ pos
    · have parts : decimal n = decimal (n / 10) ++ [(n % 10).digitChar] :=
        Nat.toDigits_of_base_le (by decide) (by omega)
      have front := ih (n / 10) (by omega) (by omega)
      obtain ⟨digit, digits, here, -⟩ := exists_decimal_eq_cons (n / 10)
      rw [here] at front
      rwa [parts, here]

theorem decimalInt_ne_nil (n : Int) : decimalInt n ≠ [] := by
  cases n with
  | ofNat n => exact decimal_ne_nil n
  | negSucc n => exact List.cons_ne_nil _ _

theorem isDigit_of_mem_decimalInt {n : Int} {c : Char} (member : c ∈ decimalInt n) :
    c.isDigit = true ∨ c = '-' := by
  cases n with
  | ofNat n => exact .inl (isDigit_of_mem_decimal member)
  | negSucc n =>
    cases List.mem_cons.mp member with
    | inl sign => exact .inr sign
    | inr digit => exact .inl (isDigit_of_mem_decimal digit)

theorem le_ofDigitChars (digits : List Char) (n : Nat) : n ≤ Nat.ofDigitChars 10 digits n := by
  induction digits generalizing n with
  | nil => exact Nat.le_refl n
  | cons c digits ih =>
    rw [Nat.ofDigitChars_cons]
    have := ih (10 * n + (c.toNat - '0'.toNat))
    omega

/-- What was written is read back. -/
theorem digitsValue_decimal (n : Nat) : digitsValue (decimal n) = n :=
  Nat.ofDigitChars_toDigits (by decide) (by decide)

/-- A ceiling that is met on the way is met at the end. -/
theorem cappedValue_eq_min (ceiling : Nat) (digits : List Char) :
    cappedValue ceiling digits = min ceiling (digitsValue digits) := by
  suffices ∀ n m, n = min ceiling m →
      digits.foldl (fun n digit => min ceiling (10 * n + (digit.toNat - '0'.toNat))) n
        = min ceiling (Nat.ofDigitChars 10 digits m) from this 0 0 (by simp)
  induction digits with
  | nil => intro n m same; simpa [Nat.ofDigitChars] using same
  | cons digit digits ih =>
    intro n m same
    simp only [List.foldl_cons, Nat.ofDigitChars_cons]
    exact ih _ _ (by omega)

end LogSearch.Text
