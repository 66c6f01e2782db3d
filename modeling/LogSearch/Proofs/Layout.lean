import LogSearch.Json.Basic
import LogSearch.Proofs.Documents
import LogSearch.Proofs.Shapes
import Mathlib.Data.List.Chain

/-!
# The grammar of JSON texts

A text is made of tokens, with white space around them. The grammar is stated without a reader, and
the reader is shown to accept exactly the texts of the grammar.

* `Word` says how a token is written. A string or a number can be written in more than one way.
* `Layout` says of which tokens a text is made. Where two numbers touch, this is not decided: `12`
  is one number, or two. In a document they never do.

Results:
1. `readString?_eq_some_iff`: a string goes up to the first quotation mark without a backslash.
2. `Numeral.exists_spelled_of_read?`, `Numeral.read?_of_spelled`: a number goes up to the first
   character that cannot go on with it.
3. `layout_of_tokens?`, `tokens?_of_layout`: tokens are read from the texts that are made of them.
4. `Document.parse?_eq_some_iff`, `parse?_eq_some_iff`: so are documents and values.
-/

namespace LogSearch.Json

open Text Document
open Clause (Run)

variable {c : Char} {text rest word : List Char}

/-! ## 1. Strings -/

/-- The text between the quotation marks of a string. -/
inductive Quoted : List StringPart → List Char → Prop
  | nil : Quoted [] []
  | plain {c : Char} {parts : List StringPart} {text : List Char} :
      0x20 ≤ c.toNat → c ≠ '"' → c ≠ '\\' → Quoted parts text →
      Quoted (.char c :: parts) (c :: text)
  | letter {letter c : Char} {parts : List StringPart} {text : List Char} :
      escaped? letter = some c → Quoted parts text →
      Quoted (.char c :: parts) ('\\' :: letter :: text)
  | unit {a b c d : Char} {n : Nat} {parts : List StringPart} {text : List Char} :
      hexUnit? a b c d = some n → Quoted parts text →
      Quoted (.unit n :: parts) ('\\' :: 'u' :: a :: b :: c :: d :: text)

theorem readString?_letter {letter : Char} (escape : escaped? letter = some c) (text : List Char) :
    readString? ('\\' :: letter :: text) = do
      let (parts, rest) ← readString? text
      return (.char c :: parts, rest) := by
  rw [readString?, escape]
  · rfl
  · rintro _ _ _ _ _ rfl
    cases escape

theorem readString?_plain (printable : 0x20 ≤ c.toNat) (noQuote : c ≠ '"') (noSlash : c ≠ '\\')
    (text : List Char) :
    readString? (c :: text) = do
      let (parts, rest) ← readString? text
      return (.char c :: parts, rest) := by
  rw [readString?, if_neg (Nat.not_lt.mpr printable)]
  · exact noQuote
  · exact fun _ _ _ _ _ slash => absurd slash noSlash
  · exact fun _ _ slash => absurd slash noSlash

theorem readString?_of_quoted {parts : List StringPart} (quoted : Quoted parts text)
    (rest : List Char) : readString? (text ++ '"' :: rest) = some (parts, rest) := by
  induction quoted with
  | nil => rfl
  | plain printable noQuote noSlash _ ih =>
    rw [List.cons_append, readString?_plain printable noQuote noSlash, ih]
    rfl
  | letter escape _ ih =>
    rw [List.cons_append, List.cons_append, readString?_letter escape, ih]
    rfl
  | unit digits _ ih =>
    simp only [List.cons_append, readString?, digits, ih]
    rfl

theorem exists_quoted_of_readString? {parts : List StringPart}
    (read : readString? text = some (parts, rest)) :
    ∃ inner, text = inner ++ '"' :: rest ∧ Quoted parts inner := by
  fun_induction readString? text generalizing parts with
  | case1 => cases read
  | case2 text =>
    cases read
    exact ⟨[], rfl, .nil⟩
  | case3 a b c d text ih =>
    simp only [Option.bind_eq_bind, Option.bind_eq_some_iff, Prod.exists, Option.pure_def,
      Option.some.injEq, Prod.mk.injEq] at read
    obtain ⟨n, digits, parts, _, inner, rfl, rfl⟩ := read
    obtain ⟨inner, rfl, quoted⟩ := ih inner
    exact ⟨_, rfl, .unit digits quoted⟩
  | case4 letter text _ ih =>
    simp only [Option.bind_eq_bind, Option.bind_eq_some_iff, Prod.exists, Option.pure_def,
      Option.some.injEq, Prod.mk.injEq] at read
    obtain ⟨c, escape, parts, _, inner, rfl, rfl⟩ := read
    obtain ⟨inner, rfl, quoted⟩ := ih inner
    exact ⟨_, rfl, .letter escape quoted⟩
  | case5 => cases read
  | case6 c text noQuote noUnit noLetter printable ih =>
    simp only [Option.bind_eq_bind, Option.bind_eq_some_iff, Prod.exists, Option.pure_def,
      Option.some.injEq, Prod.mk.injEq] at read
    obtain ⟨parts, _, inner, rfl, rfl⟩ := read
    have noSlash : c ≠ '\\' := by
      -- A backslash that nothing follows leaves no string to be read.
      rintro rfl
      cases text with
      | nil => cases inner
      | cons letter text => exact noLetter letter text rfl rfl
    obtain ⟨inner, rfl, quoted⟩ := ih inner
    exact ⟨_, rfl, .plain (Nat.le_of_not_lt printable) noQuote noSlash quoted⟩

theorem readString?_eq_some_iff {parts : List StringPart} :
    readString? text = some (parts, rest) ↔
      ∃ inner, text = inner ++ '"' :: rest ∧ Quoted parts inner := by
  constructor
  · exact exists_quoted_of_readString?
  · rintro ⟨inner, rfl, quoted⟩
    exact readString?_of_quoted quoted rest

/-! ## 2. Numbers -/

/-- No number goes on into the text. -/
def Stops (text : List Char) : Prop :=
  ∀ c ∈ text.head?, c.isDigit = false ∧ c ∉ ['.', 'e', 'E']

theorem stops_cons (stops : c.isDigit = false ∧ c ∉ ['.', 'e', 'E']) (text : List Char) :
    Stops (c :: text) := by
  rintro _ ⟨⟩
  exact stops

namespace Numeral

/-- A whole part: a zero, or digits that start with another digit. -/
inductive WholeText : List Char → Prop
  | zero : WholeText ['0']
  | digits {digits : List Char} : Run Char.isDigit digits → digits.head? ≠ some '0' →
      WholeText digits

/-- A point and digits, or nothing. -/
inductive FractionText : Option (List Char) → List Char → Prop
  | none : FractionText none []
  | point {digits : List Char} : Run Char.isDigit digits →
      FractionText (some digits) ('.' :: digits)

/-- Digits with a sign of either kind, or without one. -/
inductive ScaleText : Int → List Char → Prop
  | unsigned {digits : List Char} : Run Char.isDigit digits →
      ScaleText (digitsValue digits) digits
  | plus {digits : List Char} : Run Char.isDigit digits →
      ScaleText (digitsValue digits) ('+' :: digits)
  | minus {digits : List Char} : Run Char.isDigit digits →
      ScaleText (-(digitsValue digits)) ('-' :: digits)

/-- An exponent after a letter of either case, or nothing. -/
inductive ExponentText : Option Int → List Char → Prop
  | none : ExponentText none []
  | small {n : Int} {text : List Char} : ScaleText n text → ExponentText (some n) ('e' :: text)
  | big {n : Int} {text : List Char} : ScaleText n text → ExponentText (some n) ('E' :: text)

/-- The text of a number. -/
inductive Spelled : Numeral → List Char → Prop
  | intro (negative : Bool) {whole fractionText exponentText : List Char}
      {fraction : Option (List Char)} {exponent : Option Int} :
      WholeText whole → FractionText fraction fractionText → ExponentText exponent exponentText →
      Spelled ⟨negative, whole, fraction, exponent⟩
        ((if negative then ['-'] else []) ++ (whole ++ (fractionText ++ exponentText)))

/-- A run of digits does not go on into the text. -/
def Ends (text : List Char) : Prop :=
  ∀ c ∈ text.head?, c.isDigit = false

theorem run?_of_ends {digits : List Char} (run : Run Char.isDigit digits) (ends : Ends rest) :
    run? Char.isDigit (digits ++ rest) = some (digits, rest) :=
  run?_eq_some_iff.mpr ⟨rfl, run.1, run.2, fun c first => by simp [ends c first]⟩

theorem run_of_run? {digits : List Char} (read : run? Char.isDigit text = some (digits, rest)) :
    text = digits ++ rest ∧ Run Char.isDigit digits := by
  obtain ⟨whole, nonempty, digit, -⟩ := run?_eq_some_iff.mp read
  exact ⟨whole, nonempty, digit⟩

/-! ### What is read is spelled -/

theorem whole_of_readWhole? {whole : List Char} (read : readWhole? text = some (whole, rest)) :
    text = whole ++ rest ∧ WholeText whole := by
  fun_cases readWhole? text with
  | case1 text =>
    cases read
    exact ⟨rfl, .zero⟩
  | case2 text other =>
    rw [readWhole?] at read
    · obtain ⟨rfl, run⟩ := run_of_run? read
      refine ⟨rfl, .digits run fun zero => ?_⟩
      obtain ⟨digits, rfl⟩ := List.head?_eq_some_iff.mp zero
      exact other _ rfl
    · exact other

theorem exists_run_of_map {α : Type} {f : List Char → α} {a : α}
    (read : (run? Char.isDigit text).map (fun (digits, text) => (f digits, text)) =
      some (a, rest)) :
    ∃ digits, text = digits ++ rest ∧ Run Char.isDigit digits ∧ f digits = a := by
  obtain ⟨digits, read, made⟩ := exists_of_map_eq_some (fun _ _ => rfl) read
  obtain ⟨whole, run⟩ := run_of_run? read
  exact ⟨digits, whole, run, made⟩

theorem fraction_of_readFraction? {fraction : Option (List Char)}
    (read : readFraction? text = some (fraction, rest)) :
    ∃ word, text = word ++ rest ∧ FractionText fraction word := by
  fun_cases readFraction? text with
  | case1 text =>
    obtain ⟨digits, rfl, run, rfl⟩ := exists_run_of_map read
    exact ⟨_, rfl, .point run⟩
  | case2 text other =>
    rw [readFraction?] at read
    · cases read
      exact ⟨[], rfl, .none⟩
    · exact other

theorem scale_of_readScale? {scale : Int} (read : readScale? text = some (scale, rest)) :
    ∃ word, text = word ++ rest ∧ ScaleText scale word := by
  fun_cases readScale? text with
  | case1 text =>
    obtain ⟨digits, rfl, run, rfl⟩ :=
      exists_run_of_map (f := fun digits => -(digitsValue digits : Int)) read
    exact ⟨_, rfl, .minus run⟩
  | case2 text =>
    obtain ⟨digits, rfl, run, rfl⟩ :=
      exists_run_of_map (f := fun digits => (digitsValue digits : Int)) read
    exact ⟨_, rfl, .plus run⟩
  | case3 text noMinus noPlus =>
    rw [readScale?] at read
    · obtain ⟨digits, rfl, run, rfl⟩ :=
        exists_run_of_map (f := fun digits => (digitsValue digits : Int)) read
      exact ⟨_, rfl, .unsigned run⟩
    · exact noMinus
    · exact noPlus

theorem exponent_of_readExponent? {exponent : Option Int}
    (read : readExponent? text = some (exponent, rest)) :
    ∃ word, text = word ++ rest ∧ ExponentText exponent word := by
  fun_cases readExponent? text with
  | case1 text =>
    obtain ⟨scale, scaled, rfl⟩ := exists_of_map_eq_some (fun _ _ => rfl) read
    obtain ⟨word, rfl, spelled⟩ := scale_of_readScale? scaled
    exact ⟨_, rfl, .small spelled⟩
  | case2 text =>
    obtain ⟨scale, scaled, rfl⟩ := exists_of_map_eq_some (fun _ _ => rfl) read
    obtain ⟨word, rfl, spelled⟩ := scale_of_readScale? scaled
    exact ⟨_, rfl, .big spelled⟩
  | case3 text noSmall noBig =>
    rw [readExponent?] at read
    · cases read
      exact ⟨[], rfl, .none⟩
    · exact noSmall
    · exact noBig

theorem append_readSign (text : List Char) :
    (if (readSign text).1 then ['-'] else []) ++ (readSign text).2 = text := by
  unfold readSign
  split
  · rfl
  · rfl

theorem exists_spelled_of_read? {numeral : Numeral} (read : read? text = some (numeral, rest)) :
    ∃ word, text = word ++ rest ∧ numeral.Spelled word := by
  simp only [read?, Option.bind_eq_bind, Option.bind_eq_some_iff, Prod.exists, Option.pure_def,
    Option.some.injEq, Prod.mk.injEq] at read
  obtain ⟨whole, _, readWhole, fraction, _, readFraction, exponent, _, readExponent, rfl, rfl⟩ :=
    read
  obtain ⟨unsigned, wholeText⟩ := whole_of_readWhole? readWhole
  obtain ⟨fractionText, rfl, isFraction⟩ := fraction_of_readFraction? readFraction
  obtain ⟨exponentText, rfl, isExponent⟩ := exponent_of_readExponent? readExponent
  refine ⟨_, ?_, .intro (readSign text).1 wholeText isFraction isExponent⟩
  simp only [List.append_assoc]
  rw [← unsigned, append_readSign]

/-! ### What is spelled is read -/

theorem readWhole?_of_whole {whole : List Char} (is : WholeText whole) (ends : Ends rest) :
    readWhole? (whole ++ rest) = some (whole, rest) := by
  cases is with
  | zero => rfl
  | digits run noZero =>
    have read := run?_of_ends run ends
    obtain ⟨c, digits, rfl, -⟩ := run.head
    rw [List.cons_append] at read ⊢
    rw [readWhole?]
    · exact read
    · rintro _ ⟨⟩
      exact noZero rfl

theorem readFraction?_of_fraction {fraction : Option (List Char)} (is : FractionText fraction word)
    (ends : Ends rest) (noPoint : rest.head? ≠ some '.') :
    readFraction? (word ++ rest) = some (fraction, rest) := by
  cases is with
  | none =>
    rw [List.nil_append, readFraction?]
    rintro _ rfl
    exact noPoint rfl
  | point run => rw [List.cons_append, readFraction?, run?_of_ends run ends, Option.map_some]

theorem readScale?_of_scale {scale : Int} (is : ScaleText scale word) (ends : Ends rest) :
    readScale? (word ++ rest) = some (scale, rest) := by
  cases is with
  | minus run | plus run =>
    rw [List.cons_append, readScale?, run?_of_ends run ends, Option.map_some]
  | unsigned run =>
    rw [readScale?, run?_of_ends run ends, Option.map_some]
    -- A digit is no sign.
    all_goals
      obtain ⟨c, digits, rfl, digit⟩ := run.head
      rintro _ ⟨⟩
      cases digit

theorem readExponent?_of_stops (stops : Stops rest) : readExponent? rest = some (none, rest) := by
  unfold readExponent?
  split
  · exact absurd (stops 'e' rfl).2 (by decide)
  · exact absurd (stops 'E' rfl).2 (by decide)
  · rfl

theorem readExponent?_of_exponent {exponent : Option Int} (is : ExponentText exponent word)
    (stops : Stops rest) : readExponent? (word ++ rest) = some (exponent, rest) := by
  have ends : Ends rest := fun c first => (stops c first).1
  cases is with
  | none => exact readExponent?_of_stops stops
  | small scale | big scale =>
    rw [List.cons_append, readExponent?, readScale?_of_scale scale ends, Option.map_some]

/-- An exponent goes on with no digit and no point. -/
theorem ends_exponent {exponent : Option Int} (is : ExponentText exponent word)
    (stops : Stops rest) : Ends (word ++ rest) ∧ (word ++ rest).head? ≠ some '.' := by
  cases is with
  | none =>
    refine ⟨fun c first => (stops c first).1, fun point => ?_⟩
    exact absurd (stops '.' point).2 (by decide)
  | small | big =>
    refine ⟨?_, by simp⟩
    rintro _ ⟨⟩
    rfl

theorem ends_fraction {fraction : Option (List Char)} (is : FractionText fraction word)
    (ends : Ends rest) : Ends (word ++ rest) := by
  cases is with
  | none => exact ends
  | point =>
    rintro _ ⟨⟩
    rfl

theorem readSign_whole {whole : List Char} (is : WholeText whole) (negative : Bool)
    (text : List Char) :
    readSign ((if negative then ['-'] else []) ++ (whole ++ text)) = (negative, whole ++ text) := by
  cases negative with
  | true => rfl
  | false =>
    cases is with
    | zero => rfl
    | digits run =>
      obtain ⟨c, digits, rfl, digit⟩ := run.head
      rw [if_neg Bool.false_ne_true, List.nil_append, List.cons_append, readSign]
      rintro _ ⟨⟩
      cases digit

theorem read?_of_spelled {numeral : Numeral} (spelled : numeral.Spelled word)
    (stops : Stops rest) : read? (word ++ rest) = some (numeral, rest) := by
  cases spelled with
  | intro negative whole fraction exponent =>
    obtain ⟨afterFraction, noPoint⟩ := ends_exponent exponent stops
    have afterWhole := ends_fraction fraction afterFraction
    rw [List.append_assoc, List.append_assoc, List.append_assoc, read?, readSign_whole whole]
    simp only [readWhole?_of_whole whole afterWhole,
      readFraction?_of_fraction fraction afterFraction noPoint,
      readExponent?_of_exponent exponent stops, Option.bind_eq_bind, Option.bind_some]
    rfl

theorem Spelled.head {numeral : Numeral} (spelled : numeral.Spelled word) :
    ∃ c rest, word = c :: rest ∧ (c.isDigit = true ∨ c = '-') := by
  cases spelled with
  | intro negative whole fraction exponent =>
    cases negative with
    | true => exact ⟨'-', _, rfl, .inr rfl⟩
    | false =>
      cases whole with
      | zero => exact ⟨'0', _, rfl, .inl rfl⟩
      | digits run =>
        obtain ⟨c, digits, rfl, digit⟩ := run.head
        exact ⟨c, _, rfl, .inl digit⟩

end Numeral

/-! ## 3. Tokens -/

/-- The text of a token. -/
inductive Word : Token → List Char → Prop
  | openArray : Word .openArray ['[']
  | closeArray : Word .closeArray [']']
  | openObject : Word .openObject ['\x7b']
  | closeObject : Word .closeObject ['\x7d']
  | comma : Word .comma [',']
  | colon : Word .colon [':']
  | null : Word .null ['n', 'u', 'l', 'l']
  | true_ : Word (.bool true) ['t', 'r', 'u', 'e']
  | false_ : Word (.bool false) ['f', 'a', 'l', 's', 'e']
  | number {numeral : Numeral} {text : List Char} :
      numeral.Spelled text → Word (.number numeral) text
  | string {parts : List StringPart} {text : List Char} :
      Quoted parts text → Word (.string parts) ('"' :: (text ++ ['"']))

/-- A text of these tokens, with any white space before, between and after them. -/
inductive Layout : List Token → List Char → Prop
  | nil : Layout [] []
  | space {c : Char} {tokens : List Token} {text : List Char} :
      isSpace c = true → Layout tokens text → Layout tokens (c :: text)
  | token {token : Token} {word : List Char} {tokens : List Token} {text : List Char} :
      Word token word → Layout tokens text → Layout (token :: tokens) (word ++ text)

variable {token : Token} {list : List Token}

theorem eq_of_isSpace (space : isSpace c = true) : c = ' ' ∨ c = '\t' ∨ c = '\n' ∨ c = '\r' := by
  simpa only [isSpace, Bool.or_eq_true, beq_iff_eq, or_assoc] using space

theorem isDigit_of_isSpace (space : isSpace c = true) : c.isDigit = false := by
  rcases eq_of_isSpace space with rfl | rfl | rfl | rfl <;> rfl

/-- Where no white space stands, the first token is read, and then the others. -/
theorem tokens?_of_readToken? (solid : isSpace c = false)
    (read : readToken? (c :: text) = some (token, rest)) :
    tokens? (c :: text) = (token :: ·) <$> tokens? rest := by
  rw [tokens?, if_neg (by simp [solid])]
  split
  · rename_i refused
    rw [read] at refused
    cases refused
  · rename_i other later same
    rw [read] at same
    cases same
    rfl

theorem readToken?_of_number (start : c.isDigit = true ∨ c = '-') :
    readToken? (c :: text) =
      (Numeral.read? (c :: text)).map fun (numeral, text) => (.number numeral, text) := by
  unfold readToken?
  split
  case h_11 => rfl
  all_goals
    rename_i same
    cases same
    exact absurd start (by decide)

theorem exists_word_of_readToken? (read : readToken? text = some (token, rest)) :
    ∃ word, text = word ++ rest ∧ Word token word := by
  unfold readToken? at read
  split at read
  case h_7 =>
    simp only [Option.map_eq_some_iff, Prod.exists, Prod.mk.injEq] at read
    obtain ⟨parts, _, read, rfl, rfl⟩ := read
    obtain ⟨inner, rfl, quoted⟩ := readString?_eq_some_iff.mp read
    refine ⟨_, ?_, .string quoted⟩
    rw [List.cons_append, List.append_assoc, List.singleton_append]
  case h_11 =>
    simp only [Option.map_eq_some_iff, Prod.exists, Prod.mk.injEq] at read
    obtain ⟨numeral, _, read, rfl, rfl⟩ := read
    obtain ⟨word, rfl, spelled⟩ := Numeral.exists_spelled_of_read? read
    exact ⟨word, rfl, .number spelled⟩
  all_goals
    cases read
    exact ⟨_, rfl, by constructor⟩

theorem layout_of_tokens? (read : tokens? text = some list) : Layout list text := by
  fun_induction tokens? text generalizing list with
  | case1 =>
    cases read
    exact .nil
  | case2 c text space ih => exact .space space (ih read)
  | case3 => cases read
  | case4 c text solid token rest first ih =>
    rw [Option.map_eq_map, Option.map_eq_some_iff] at read
    obtain ⟨later, read, rfl⟩ := read
    obtain ⟨word, whole, spelled⟩ := exists_word_of_readToken? first
    rw [whole]
    exact .token spelled (ih read)

/-- Of two tokens in a row, at most one is a number. -/
def Apart (first second : Token) : Prop :=
  ∀ n m, first = .number n → second ≠ .number m

theorem not_isSpace_of_number (start : c.isDigit = true ∨ c = '-') : isSpace c = false := by
  rcases start with digit | rfl
  · exact Bool.eq_false_iff.mpr fun space => by rw [isDigit_of_isSpace space] at digit; cases digit
  · rfl

theorem Word.head (is : Word token word) : ∃ c rest, word = c :: rest ∧ isSpace c = false := by
  cases is with
  | number spelled =>
    obtain ⟨c, rest, rfl, start⟩ := spelled.head
    exact ⟨c, rest, rfl, not_isSpace_of_number start⟩
  | _ => exact ⟨_, _, rfl, rfl⟩

theorem readToken?_of_word (is : Word token word) (stops : (∃ n, token = .number n) → Stops rest) :
    readToken? (word ++ rest) = some (token, rest) := by
  cases is with
  | number spelled =>
    have read := Numeral.read?_of_spelled spelled (stops ⟨_, rfl⟩)
    obtain ⟨c, tail, rfl, start⟩ := spelled.head
    rw [List.cons_append] at read ⊢
    rw [readToken?_of_number start, read, Option.map_some]
  | string quoted =>
    rw [List.cons_append, List.append_assoc, List.singleton_append, readToken?,
      readString?_of_quoted quoted, Option.map_some]
  | _ => rfl

/-- A text that does not start with a number does not go on with one. -/
theorem Layout.stops (layout : Layout list text) (noNumber : ∀ n, list.head? ≠ some (.number n)) :
    Stops text := by
  cases layout with
  | nil => rintro _ ⟨⟩
  | space space =>
    rcases eq_of_isSpace space with rfl | rfl | rfl | rfl
    all_goals exact stops_cons (by decide) _
  | token is =>
    cases is with
    | number => exact absurd rfl (noNumber _)
    | _ => exact stops_cons (by decide) _

theorem tokens?_of_layout (layout : Layout list text) (apart : list.IsChain Apart) :
    tokens? text = some list := by
  induction layout with
  | nil => rw [tokens?]
  | space space _ ih => rw [tokens?, if_pos space, ih apart]
  | @token token word later text is layout ih =>
    obtain ⟨next, chain⟩ := List.isChain_cons.mp apart
    have stops : (∃ n, token = .number n) → Stops text := by
      rintro ⟨n, rfl⟩
      exact layout.stops fun m first => next _ first n m rfl rfl
    have read := readToken?_of_word is stops
    obtain ⟨c, tail, rfl, solid⟩ := is.head
    rw [List.cons_append] at read ⊢
    rw [tokens?_of_readToken? solid read, ih chain]
    rfl

/-! ## 4. Documents -/

/-- Tokens that may come after any other: a number is not among them in front, nor right after
another number. -/
structure Follows (list : List Token) : Prop where
  front : ∀ n, list.head? ≠ some (.number n)
  apart : list.IsChain Apart

theorem Follows.cons (follows : Follows list) (token : Token) : (token :: list).IsChain Apart :=
  List.isChain_cons.mpr ⟨fun _ first _ m _ same => follows.front m (same ▸ first), follows.apart⟩

/-- A token that is no number may come after any token, and any token after it. -/
theorem Follows.mark (noNumber : ∀ n, token ≠ .number n) (apart : list.IsChain Apart) :
    Follows (token :: list) :=
  ⟨fun n first => noNumber n (Option.some.inj first),
    List.isChain_cons.mpr ⟨fun _ _ n _ same => absurd same (noNumber n), apart⟩⟩

mutual

theorem isChain_tokens (document : Document) {more : List Token} (follows : Follows more) :
    (tokens document ++ more).IsChain Apart := by
  match document with
  | .null | .bool _ | .number _ | .string _ => exact follows.cons _
  | .array [] => exact (Follows.mark (by simp) (follows.cons .closeArray)).apart
  | .object [] => exact (Follows.mark (by simp) (follows.cons .closeObject)).apart
  | .array (item :: items) =>
    have closed : Follows (.closeArray :: more) := .mark (by simp) follows.apart
    have inner := isChain_tokens item (follows_itemTokens items closed)
    have opened : Follows (.openArray :: _) := .mark (by simp) inner
    simpa only [tokens, List.append_assoc, List.cons_append, List.nil_append] using opened.apart
  | .object ((key, value) :: members) =>
    have closed : Follows (.closeObject :: more) := .mark (by simp) follows.apart
    have inner := isChain_tokens value (follows_memberTokens members closed)
    have colon : Follows (.colon :: _) := .mark (by simp) inner
    have opened : Follows (.openObject :: _) := .mark (by simp) (colon.cons (.string key))
    simpa only [tokens, List.append_assoc, List.cons_append, List.nil_append] using opened.apart

theorem follows_itemTokens (items : List Document) {more : List Token} (follows : Follows more) :
    Follows (itemTokens items ++ more) := by
  match items with
  | [] => exact follows
  | item :: items =>
    have inner := isChain_tokens item (follows_itemTokens items follows)
    rw [itemTokens, List.append_assoc]
    exact .mark (by simp) inner

theorem follows_memberTokens (members : List (List StringPart × Document)) {more : List Token}
    (follows : Follows more) : Follows (memberTokens members ++ more) := by
  match members with
  | [] => exact follows
  | (key, value) :: members =>
    have inner := isChain_tokens value (follows_memberTokens members follows)
    have colon : Follows (.colon :: _) := .mark (by simp) inner
    rw [memberTokens, List.append_assoc, List.append_assoc]
    exact .mark (by simp) (colon.cons (.string key))

end

/-- The tokens of a document are read from every text that is made of them. -/
theorem tokens?_of_document {document : Document} (layout : Layout (tokens document) text) :
    tokens? text = some (tokens document) := by
  have apart := isChain_tokens document ⟨by simp, .nil⟩
  rw [List.append_nil] at apart
  exact tokens?_of_layout layout apart

/-- A document is read exactly from the texts that are made of its tokens. -/
theorem Document.parse?_eq_some_iff {document : Document} :
    Document.parse? text = some document ↔ Layout (tokens document) text := by
  constructor
  · intro read
    rw [Document.parse?, Option.bind_eq_bind, Option.bind_eq_some_iff] at read
    obtain ⟨list, read, formed⟩ := read
    rw [← ofTokens?_eq_some_iff.mp formed]
    exact layout_of_tokens? read
  · intro layout
    rw [Document.parse?, tokens?_of_document layout]
    exact ofTokens?_tokens document

/-- A value is read exactly from the texts of its documents, within the limit of nesting. -/
theorem parse?_eq_some_iff {text : String} {json : Json} :
    parse? text = some json ↔
      ∃ document : Document, Layout (tokens document) text.toList ∧
        nestingWithin nestingLimit 0 (tokens document) = true ∧
        ofDocument? document = some json := by
  constructor
  · intro read
    rw [parse?, Option.bind_eq_bind, Option.bind_eq_some_iff] at read
    obtain ⟨list, read, meaning⟩ := read
    rw [Option.ite_none_right_eq_some, Option.bind_eq_bind, Option.bind_eq_some_iff] at meaning
    obtain ⟨within, document, formed, meaning⟩ := meaning
    obtain rfl := ofTokens?_eq_some_iff.mp formed
    exact ⟨document, layout_of_tokens? read, within, meaning⟩
  · rintro ⟨document, layout, within, meaning⟩
    rw [parse?, tokens?_of_document layout, Option.bind_eq_bind, Option.bind_some, if_pos within,
      ofTokens?_tokens, Option.bind_eq_bind, Option.bind_some, meaning]

end LogSearch.Json
