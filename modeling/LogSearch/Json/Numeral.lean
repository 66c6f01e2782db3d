import LogSearch.Text.Decimal
import LogSearch.Text.Scan

/-!
# JSON numbers

A number as it is written: a sign, a whole part without leading zeros, and perhaps a fraction and an
exponent.

* `Numeral.integer?` is the value of a number written without fraction and exponent.
* `Numeral.isFinite` says that the number is not too large for binary floating point.
-/

namespace LogSearch.Json

open Text

/-- A number as written. `fraction` holds the digits after the point. -/
structure Numeral where
  negative : Bool
  whole : List Char
  fraction : Option (List Char)
  exponent : Option Int
deriving DecidableEq, Repr

namespace Numeral

/-! ## Reading -/

/-- Reads a sign, if there is one. -/
def readSign : List Char → Bool × List Char
  | '-' :: text => (true, text)
  | text => (false, text)

/-- Reads a whole part: a zero, or a run of digits that starts with another digit. -/
def readWhole? : List Char → Option (List Char × List Char)
  | '0' :: text => some (['0'], text)
  | text => run? Char.isDigit text

/-- Reads a fraction, if there is a point. A digit must follow the point. -/
def readFraction? : List Char → Option (Option (List Char) × List Char)
  | '.' :: text => (run? Char.isDigit text).map fun (digits, text) => (some digits, text)
  | text => some (none, text)

/-- Reads an exponent after its letter: a sign, which may be left out, and digits. -/
def readScale? : List Char → Option (Int × List Char)
  | '-' :: text =>
    (run? Char.isDigit text).map fun (digits, text) => (-(digitsValue digits : Int), text)
  | '+' :: text =>
    (run? Char.isDigit text).map fun (digits, text) => ((digitsValue digits : Int), text)
  | text => (run? Char.isDigit text).map fun (digits, text) => ((digitsValue digits : Int), text)

/-- Reads an exponent, if there is one. -/
def readExponent? : List Char → Option (Option Int × List Char)
  | 'e' :: text | 'E' :: text => (readScale? text).map fun (scale, text) => (some scale, text)
  | text => some (none, text)

/-- Reads a number at the front of the text. -/
def read? (text : List Char) : Option (Numeral × List Char) := do
  let (negative, text) := readSign text
  let (whole, text) ← readWhole? text
  let (fraction, text) ← readFraction? text
  let (exponent, text) ← readExponent? text
  return (⟨negative, whole, fraction, exponent⟩, text)

/-! ## Lengths -/

variable {text rest : List Char}

theorem length_readSign_le (text : List Char) : (readSign text).2.length ≤ text.length := by
  fun_cases readSign text with
  | case1 text => exact Nat.le_succ _
  | case2 => exact Nat.le_refl _

theorem length_lt_of_readWhole? {whole : List Char}
    (read : readWhole? text = some (whole, rest)) : rest.length < text.length := by
  fun_cases readWhole? text with
  | case1 text =>
    cases read
    exact Nat.lt_succ_self _
  | case2 text other =>
    rw [readWhole?] at read
    · exact length_lt_of_run? read
    · exact other

theorem length_le_of_readFraction? {fraction : Option (List Char)}
    (read : readFraction? text = some (fraction, rest)) : rest.length ≤ text.length := by
  fun_cases readFraction? text with
  | case1 text =>
    obtain ⟨digits, run, -⟩ := exists_of_map_eq_some (fun _ _ => rfl) read
    exact Nat.le_succ_of_le (Nat.le_of_lt (length_lt_of_run? run))
  | case2 text other =>
    rw [readFraction?] at read
    · cases read
      exact Nat.le_refl _
    · exact other

theorem length_lt_of_readScale? {scale : Int} (read : readScale? text = some (scale, rest)) :
    rest.length < text.length := by
  fun_cases readScale? text with
  | case1 text | case2 text =>
    obtain ⟨digits, run, -⟩ := exists_of_map_eq_some (fun _ _ => rfl) read
    exact Nat.lt_succ_of_lt (length_lt_of_run? run)
  | case3 text noMinus noPlus =>
    rw [readScale?] at read
    · obtain ⟨digits, run, -⟩ := exists_of_map_eq_some (fun _ _ => rfl) read
      exact length_lt_of_run? run
    · exact noMinus
    · exact noPlus

theorem length_le_of_readExponent? {exponent : Option Int}
    (read : readExponent? text = some (exponent, rest)) : rest.length ≤ text.length := by
  fun_cases readExponent? text with
  | case1 text | case2 text =>
    obtain ⟨scale, scaled, -⟩ := exists_of_map_eq_some (fun _ _ => rfl) read
    exact Nat.le_succ_of_le (Nat.le_of_lt (length_lt_of_readScale? scaled))
  | case3 text noSmall noBig =>
    rw [readExponent?] at read
    · cases read
      exact Nat.le_refl _
    · exact noSmall
    · exact noBig

/-- A number takes at least one character, which is that of its whole part. -/
theorem length_lt_of_read? {numeral : Numeral} (read : read? text = some (numeral, rest)) :
    rest.length < text.length := by
  simp only [read?, Option.bind_eq_bind, Option.bind_eq_some_iff, Prod.exists, Option.pure_def,
    Option.some.injEq, Prod.mk.injEq] at read
  obtain ⟨whole, afterWhole, readWhole, fraction, afterFraction, readFraction, exponent, rest,
    readExponent, -, rfl⟩ := read
  calc rest.length
      ≤ afterFraction.length := length_le_of_readExponent? readExponent
    _ ≤ afterWhole.length := length_le_of_readFraction? readFraction
    _ < (readSign text).2.length := length_lt_of_readWhole? readWhole
    _ ≤ text.length := length_readSign_le text

/-! ## Writing -/

/-- The numeral of an integer. -/
def ofInt (n : Int) : Numeral :=
  ⟨n < 0, decimal n.natAbs, none, none⟩

/-- The text of a number. -/
def write (numeral : Numeral) : List Char :=
  (if numeral.negative then ['-'] else [])
    ++ numeral.whole
    ++ (match numeral.fraction with
      | none => []
      | some digits => '.' :: digits)
    ++ (match numeral.exponent with
      | none => []
      | some scale => 'e' :: decimalInt scale)

/-! ## Value -/

/-- The integer that the numeral denotes. A fraction or an exponent, even an idle one, makes it no
integer, and neither is a negative zero. -/
def integer? (numeral : Numeral) : Option Int :=
  match numeral with
  | ⟨false, whole, none, none⟩ => some (digitsValue whole)
  | ⟨true, whole, none, none⟩ =>
    if digitsValue whole = 0 then none else some (-(digitsValue whole : Int))
  | _ => none

/-- The integer that the numeral denotes, if it is a signed 64-bit one. -/
def int64? (numeral : Numeral) : Option Int64 := do
  let n ← numeral.integer?
  if Int64.minValue.toInt ≤ n ∧ n ≤ Int64.maxValue.toInt then some (.ofInt n) else none

/-- The count that the numeral denotes: an integer without sign that fits in 64 bits. -/
def count? (numeral : Numeral) : Option Nat := do
  let n ← numeral.integer?
  if 0 ≤ n ∧ n < UInt64.size then some n.toNat else none

/-! ## Range of floating point -/

/-- The nearest number with at most 53 significant bits; of two nearest, the even one. -/
def roundBits (n : Nat) : Nat :=
  let unit := Nat.pow 2 (n.log2 + 1 - 53)
  let quotient := n / unit
  let excess := 2 * (n % unit)
  if excess > unit ∨ (excess = unit ∧ quotient % 2 = 1) then (quotient + 1) * unit
  else quotient * unit

/-- Reads digits as long as the number fits in 64 bits. Gives the number and the count of the digits
that were left out. -/
def significand (n : Nat) : List Char → Nat × Nat
  | [] => (n, 0)
  | digit :: digits =>
    let next := 10 * n + (digit.toNat - '0'.toNat)
    if next < UInt64.size then significand next digits else (n, digits.length + 1)

/-- Whether the number fits in binary floating point. Its leading digits, as many as fit in 64 bits,
and the power of ten that scales them are each rounded to 53 bits before they are multiplied, and
the product is rounded in turn. -/
def isFinite (numeral : Numeral) : Bool :=
  let fraction := numeral.fraction.getD []
  let (digits, omitted) := significand 0 (numeral.whole ++ fraction)
  let scale := numeral.exponent.getD 0 + omitted - fraction.length
  digits = 0 || scale < 0 ||
    (scale ≤ 308 &&
      roundBits (roundBits digits * roundBits (Nat.pow 10 scale.toNat)) < Nat.pow 2 1024)

end Numeral

end LogSearch.Json
