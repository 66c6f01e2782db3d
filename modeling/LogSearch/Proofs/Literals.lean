import LogSearch.Json.Printer
import LogSearch.Proofs.Layout

/-!
# Strings and integers as they are printed

Printed strings and integers keep to the grammar, and mean what was printed.

Results:
1. `quoted_flatMap_escape`, `decode?_partsOf`: a string is printed as parts that mean its text,
   every character by itself.
2. `Numeral.spelled_ofInt`, `Numeral.int64?_ofInt`: an integer is printed as a numeral that denotes
   it.
3. `Numeral.isFinite_ofInt`: an integer that fits in 64 bits is not too large.
-/

namespace LogSearch.Json

open Text

/-! ## 1. Strings -/

/-- The characters with an escape of one letter. -/
def lettered : List Char :=
  ['"', '\\', '\x08', '\x0C', '\n', '\r', '\t']

/-- What is read where a character was printed. -/
def part (c : Char) : StringPart :=
  if c.toNat < 0x20 ∧ c ∉ lettered then .unit c.toNat else .char c

/-- What is read where a string was printed. -/
def partsOf (s : String) : List StringPart :=
  s.toList.map part

variable {c : Char} {text : List Char}

theorem hexUnit?_hexDigit {n : Nat} (small : n < 0x20) :
    hexUnit? '0' '0' (hexDigit (n / 16)) (hexDigit (n % 16)) = some n := by
  have all : ∀ n : Fin 0x20,
      hexUnit? '0' '0' (hexDigit (n / 16)) (hexDigit (n % 16)) = some n.val := by decide
  exact all ⟨n, small⟩

/-- The letter of an escape of one letter. -/
theorem escaped?_of_mem (special : c ∈ lettered) :
    ∃ letter, escape c = ['\\', letter] ∧ escaped? letter = some c := by
  simp only [lettered, List.mem_cons, List.not_mem_nil, or_false] at special
  rcases special with rfl | rfl | rfl | rfl | rfl | rfl | rfl
  all_goals exact ⟨_, rfl, rfl⟩

theorem escape_of_not_mem (plain : c ∉ lettered) :
    escape c = if c.toNat < 0x20 then
      ['\\', 'u', '0', '0', hexDigit (c.toNat / 16), hexDigit (c.toNat % 16)] else [c] := by
  simp only [lettered, List.mem_cons, List.not_mem_nil, or_false, not_or] at plain
  obtain ⟨quote, slash, back, feed, line, return_, tab⟩ := plain
  rw [escape, if_neg quote, if_neg slash, if_neg back, if_neg feed, if_neg line, if_neg return_,
    if_neg tab]

/-- A character is printed as one part. -/
theorem Quoted.escape {parts : List StringPart} (quoted : Quoted parts text) (c : Char) :
    Quoted (part c :: parts) (escape c ++ text) := by
  by_cases special : c ∈ lettered
  · obtain ⟨letter, printed, escape⟩ := escaped?_of_mem special
    rw [printed, part, if_neg fun control => control.2 special]
    exact .letter escape quoted
  · rw [escape_of_not_mem special, part]
    by_cases control : c.toNat < 0x20
    · rw [if_pos control, if_pos ⟨control, special⟩]
      exact .unit (hexUnit?_hexDigit control) quoted
    · rw [if_neg control, if_neg fun both => control both.1]
      refine .plain (Nat.le_of_not_lt control) ?_ ?_ quoted
      · rintro rfl
        exact absurd special (by decide)
      · rintro rfl
        exact absurd special (by decide)

theorem quoted_flatMap_escape (text : List Char) :
    Quoted (text.map part) (text.flatMap Json.escape) := by
  induction text with
  | nil => exact .nil
  | cons c text ih => exact ih.escape c

/-- The unit of a control character is no half of a character. -/
theorem decode?_part (c : Char) (parts : List StringPart) :
    decode? (part c :: parts) = (c :: ·) <$> decode? parts := by
  rw [part]
  split
  · rename_i control
    have noHigh : isHighHalf c.toNat = false := by
      rw [isHighHalf, Bool.and_eq_false_iff, decide_eq_false_iff_not]
      exact .inl (by omega)
    have noLow : isLowHalf c.toNat = false := by
      rw [isLowHalf, Bool.and_eq_false_iff, decide_eq_false_iff_not]
      exact .inl (by omega)
    rcases parts with _ | ⟨_ | _, parts⟩
    all_goals simp only [decode?, noHigh, noLow, Char.ofNat_toNat, Bool.or_self, if_false,
      Bool.false_eq_true]
  · rfl

theorem decode?_partsOf (s : String) : decode? (partsOf s) = some s.toList := by
  rw [partsOf]
  induction s.toList with
  | nil => rfl
  | cons c text ih =>
    rw [List.map_cons, decode?_part, ih]
    rfl

/-! ## 2. Integers -/

namespace Numeral

theorem write_ofInt (n : Int) :
    (ofInt n).write = if n < 0 then '-' :: decimal n.natAbs else decimal n.natAbs := by
  simp only [ofInt, write, List.append_nil, decide_eq_true_eq]
  split
  · rfl
  · rfl

theorem wholeText_decimal (n : Nat) : WholeText (decimal n) := by
  by_cases zero : n = 0
  · subst zero
    exact .zero
  · exact .digits ⟨decimal_ne_nil n, fun _ => isDigit_of_mem_decimal⟩
      (head?_decimal (Nat.pos_of_ne_zero zero))

theorem spelled_ofInt (n : Int) : (ofInt n).Spelled (ofInt n).write := by
  have spelled := Spelled.intro (decide (n < 0)) (wholeText_decimal n.natAbs) .none .none
  rw [List.append_nil, List.append_nil] at spelled
  rw [write_ofInt]
  by_cases negative : n < 0
  · rw [if_pos negative]
    rwa [if_pos (decide_eq_true negative), List.singleton_append] at spelled
  · rw [if_neg negative]
    rwa [if_neg (by simp [negative]), List.nil_append] at spelled

theorem integer?_ofInt (n : Int) : (ofInt n).integer? = some n := by
  rw [ofInt]
  by_cases negative : n < 0
  · rw [decide_eq_true negative, integer?, digitsValue_decimal, if_neg (by omega)]
    congr 1
    omega
  · rw [decide_eq_false negative, integer?, digitsValue_decimal]
    congr 1
    omega

theorem int64?_ofInt {n : Int} (low : Int64.minValue.toInt ≤ n) (high : n ≤ Int64.maxValue.toInt) :
    (ofInt n).int64?.map Int64.toInt = some n := by
  have lowest : Int64.minValue.toInt = -2 ^ 63 := by decide
  have largest : Int64.maxValue.toInt = 2 ^ 63 - 1 := by decide
  have kept : (Int64.ofInt n).toInt = n := Int64.toInt_ofInt_of_le (by omega) (by omega)
  rw [int64?, integer?_ofInt, Option.bind_eq_bind, Option.bind_some, if_pos ⟨low, high⟩,
    Option.map_some, kept]

/-! ## 3. The range of integers -/

theorem significand_of_lt {digits : List Char} {n : Nat}
    (small : Nat.ofDigitChars 10 digits n < UInt64.size) :
    significand n digits = (Nat.ofDigitChars 10 digits n, 0) := by
  induction digits generalizing n with
  | nil => rfl
  | cons c digits ih =>
    rw [Nat.ofDigitChars_cons] at small ⊢
    have within := le_ofDigitChars digits (10 * n + (c.toNat - '0'.toNat))
    simp only [significand]
    rw [if_pos (Nat.lt_of_le_of_lt within small), ih small]

/-- Rounding at most doubles a number: it adds less than the unit, which is no larger. -/
theorem roundBits_le (n : Nat) : roundBits n ≤ 2 * n := by
  by_cases zero : n = 0
  · subst zero
    decide
  · have unit : Nat.pow 2 (n.log2 + 1 - 53) ≤ n := calc
      2 ^ (n.log2 + 1 - 53) ≤ 2 ^ n.log2 := Nat.pow_le_pow_right (by decide) (by omega)
      _ ≤ n := Nat.log2_self_le zero
    simp only [roundBits]
    have below := Nat.div_mul_le_self n (Nat.pow 2 (n.log2 + 1 - 53))
    split
    · rw [Nat.add_mul, Nat.one_mul]
      omega
    · omega

theorem isFinite_ofInt {n : Int} (small : n.natAbs < UInt64.size) :
    (ofInt n).isFinite = true := by
  have whole : Nat.ofDigitChars 10 (decimal n.natAbs) 0 = n.natAbs := digitsValue_decimal _
  have digits : significand 0 (decimal n.natAbs ++ []) = (n.natAbs, 0) := by
    rw [List.append_nil, significand_of_lt (by rw [whole]; exact small), whole]
  have scale : ((0 : Int) + (0 : Nat) - ([] : List Char).length) = 0 := rfl
  have once := roundBits_le n.natAbs
  have one : roundBits (Nat.pow 10 (Int.toNat 0)) = 1 := by decide
  have fits (k : Nat) (room : 66 ≤ k) :
      roundBits (roundBits n.natAbs * roundBits (Nat.pow 10 (Int.toNat 0))) < Nat.pow 2 k := by
    rw [one, Nat.mul_one]
    calc roundBits (roundBits n.natAbs)
        ≤ 2 * roundBits n.natAbs := roundBits_le _
      _ < 4 * UInt64.size := by omega
      _ ≤ Nat.pow 2 k := Nat.pow_le_pow_right (by decide : 2 > 0) room
  rw [isFinite]
  simp only [ofInt, Option.getD_none, digits, scale]
  -- The power would be computed if its exponent were in sight.
  generalize exponent : 1024 = k
  rw [decide_eq_true (fits k (by omega)), Bool.and_true,
    (by decide : decide ((0 : Int) ≤ 308) = true), Bool.or_true]

end Numeral

end LogSearch.Json
