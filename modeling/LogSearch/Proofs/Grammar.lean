import LogSearch.Proofs.Acceptance

/-!
# The grammar of clauses

`RangeForm text` and `FieldForm text` are the ways to take a text apart as a range and as a field
with a value. Each holds all parts of the text, with what they are made of. What has neither form is
free text.

Results:
1. `RangeForm.subsingleton`, `FieldForm.subsingleton`: there is at most one way of each kind.
2. `rangeParts?_eq_none_iff`, `valueParts?_eq_none_iff`: the readers miss no form.
3. `toInt_bound`: a bound is the number that its digits stand for, held at the largest integer.
4. `unquotes_iff`: a value loses the quotation marks at its ends, and nothing else.
5. `parse_grammar`: a range form decides, then a field form, and otherwise all of the text is
   searched for.
-/

namespace LogSearch.Clause

open Text

/-! ## 1. Forms -/

/-- A text as a range, `field:[low TO high]`, with anything after the bracket. -/
structure RangeForm (text : List Char) where
  field : List Char
  low : List Char
  before : List Char
  after : List Char
  high : List Char
  rest : List Char
  whole : text = field ++ ':' :: '[' ::
    (low ++ (before ++ ('T' :: 'O' :: (after ++ (high ++ (']' :: rest))))))
  field_run : Run isNameChar field
  low_run : Run Char.isDigit low
  before_run : Run isBlank before
  after_run : Run isBlank after
  high_run : Run Char.isDigit high

/-- A text as a field with a value, `field:value`. The value ends with its line. -/
structure FieldForm (text : List Char) where
  field : List Char
  value : List Char
  rest : List Char
  whole : text = field ++ ':' :: (value ++ rest)
  field_run : Run isNameChar field
  value_run : Run (· ≠ '\n') value
  rest_head : ∀ c ∈ rest.head?, c = '\n'

variable {text : List Char}

/-- A run that cannot be longer is the only one. -/
theorem Run.append_inj {p : Char → Bool} {run run' rest rest' : List Char} (is : Run p run)
    (is' : Run p run') (stop : ∀ c ∈ rest.head?, p c = false)
    (stop' : ∀ c ∈ rest'.head?, p c = false) (same : run ++ rest = run' ++ rest') :
    run = run' ∧ rest = rest' := by
  have read : run? p (run ++ rest) = some (run, rest) :=
    run?_eq_some_iff.mpr ⟨rfl, is.1, is.2, by simpa using stop⟩
  have read' : run? p (run ++ rest) = some (run', rest') :=
    run?_eq_some_iff.mpr ⟨same, is'.1, is'.2, by simpa using stop'⟩
  rw [read, Option.some.injEq, Prod.mk.injEq] at read'
  exact read'

theorem Run.head?_append {p q : Char → Bool} {run : List Char} (is : Run q run)
    (apart : ∀ c, q c = true → p c = false) (rest : List Char) :
    ∀ c ∈ (run ++ rest).head?, p c = false := by
  obtain ⟨c, run, rfl, inside⟩ := is.head
  rintro _ ⟨⟩
  exact apart c inside

theorem head?_cons {p : Char → Bool} {c : Char} (stop : p c = false) (rest : List Char) :
    ∀ d ∈ (c :: rest).head?, p d = false := by
  rintro _ ⟨⟩
  exact stop

instance RangeForm.subsingleton (text : List Char) : Subsingleton (RangeForm text) where
  allEq form other := by
    obtain ⟨field, low, before, after, high, rest, rfl, fieldRun, lowRun, beforeRun, afterRun,
      highRun⟩ := form
    obtain ⟨field', low', before', after', high', rest', whole, fieldRun', lowRun', beforeRun',
      afterRun', highRun'⟩ := other
    have digit : ∀ c : Char, c.isDigit = true → isBlank c = false :=
      fun c => not_isBlank_of_isDigit
    -- Each part is a run that the next part ends, from the left to the right.
    obtain ⟨rfl, atColon⟩ := fieldRun.append_inj fieldRun' (head?_cons (by decide) _)
      (head?_cons (by decide) _) whole
    obtain ⟨rfl, atBefore⟩ := lowRun.append_inj lowRun'
      (beforeRun.head?_append not_isDigit_of_isBlank _)
      (beforeRun'.head?_append not_isDigit_of_isBlank _) (List.cons.inj (List.cons.inj atColon).2).2
    obtain ⟨rfl, atWord⟩ := beforeRun.append_inj beforeRun' (head?_cons (by decide) _)
      (head?_cons (by decide) _) atBefore
    obtain ⟨rfl, atHigh⟩ := afterRun.append_inj afterRun' (highRun.head?_append digit _)
      (highRun'.head?_append digit _) (List.cons.inj (List.cons.inj atWord).2).2
    obtain ⟨rfl, atBracket⟩ := highRun.append_inj highRun' (head?_cons (by decide) _)
      (head?_cons (by decide) _) atHigh
    obtain rfl := (List.cons.inj atBracket).2
    rfl

instance FieldForm.subsingleton (text : List Char) : Subsingleton (FieldForm text) where
  allEq form other := by
    obtain ⟨field, value, rest, rfl, fieldRun, valueRun, stop⟩ := form
    obtain ⟨field', value', rest', whole, fieldRun', valueRun', stop'⟩ := other
    obtain ⟨rfl, atColon⟩ := fieldRun.append_inj fieldRun' (head?_cons (by decide) _)
      (head?_cons (by decide) _) whole
    obtain ⟨rfl, rfl⟩ := valueRun.append_inj valueRun' (by simpa using stop) (by simpa using stop')
      (List.cons.inj atColon).2
    rfl

/-! ## 2. Readers -/

theorem RangeForm.read (form : RangeForm text) :
    rangeParts? text = some (form.field, form.low, form.high) :=
  rangeParts?_eq_some_iff.mpr ⟨_, form.whole, form.field_run, form.before, form.after, form.rest,
    rfl, form.low_run, form.before_run, form.after_run, form.high_run⟩

theorem rangeParts?_eq_none_iff : rangeParts? text = none ↔ IsEmpty (RangeForm text) := by
  constructor
  · refine fun unread => ⟨fun form => ?_⟩
    rw [form.read] at unread
    cases unread
  · refine fun none => Option.eq_none_iff_forall_ne_some.mpr ?_
    rintro ⟨field, low, high⟩ read
    obtain ⟨value, whole, fieldRun, before, after, rest, rfl, lowRun, beforeRun, afterRun,
      highRun⟩ := rangeParts?_eq_some_iff.mp read
    exact none.false ⟨field, low, before, after, high, rest, whole, fieldRun, lowRun, beforeRun,
      afterRun, highRun⟩

theorem FieldForm.read (form : FieldForm text) :
    valueParts? text = some (form.field, form.value) :=
  valueParts?_eq_some_iff.mpr
    ⟨form.rest, form.whole, form.field_run, form.value_run, form.rest_head⟩

theorem valueParts?_eq_none_iff : valueParts? text = none ↔ IsEmpty (FieldForm text) := by
  constructor
  · refine fun unread => ⟨fun form => ?_⟩
    rw [form.read] at unread
    cases unread
  · refine fun none => Option.eq_none_iff_forall_ne_some.mpr ?_
    rintro ⟨field, value⟩ read
    obtain ⟨rest, whole, fieldRun, valueRun, stop⟩ := valueParts?_eq_some_iff.mp read
    exact none.false ⟨field, value, rest, whole, fieldRun, valueRun, stop⟩

/-! ## 3. Bounds -/

theorem toInt_bound (digits : List Char) :
    (bound digits).toInt = min Int64.maxValue.toInt (digitsValue digits) := by
  have largest : Int64.maxValue.toInt = 2 ^ 63 - 1 := by decide
  rw [bound, Int64.toInt_ofNat_of_lt (by rw [largest]; omega), largest]
  omega

/-! ## 4. Quotation marks -/

/-- `value` is what stands between the quotation marks at the two ends of `text`. -/
def Unquotes (text value : List Char) : Prop :=
  ∃ opening closing, text = opening ++ value ++ closing ∧
    (∀ c ∈ opening ++ closing, isQuote c = true) ∧ Bare isQuote value

theorem unquotes_iff {value : List Char} : Unquotes text value ↔ value = strip isQuote text := by
  constructor
  · rintro ⟨opening, closing, rfl, quotes, bare⟩
    rw [strip_append (fun c member => quotes c (List.mem_append_left _ member))
      (fun c member => quotes c (List.mem_append_right _ member)), strip_eq_self bare]
  · rintro rfl
    obtain ⟨opening, closing, parts, before, after⟩ := exists_strip isQuote text
    refine ⟨opening, closing, parts, fun c member => ?_, bare_strip isQuote text⟩
    exact (List.mem_append.mp member).elim (before c) (after c)

theorem ofValue_of_unquotes (compiler : Pattern.Compiler) {field value : List Char}
    (unquotes : Unquotes text value) :
    ofValue compiler field text =
      if '*' ∈ value then ofPattern compiler (.ofList field) (.ofList value)
      else .ok (.equals (.ofList field) (.ofList value)) := by
  rw [ofValue, ← unquotes_iff.mp unquotes]
  simp only [String.toList_ofList, List.contains_eq_mem, decide_eq_true_eq]

/-! ## 5. Clauses -/

section Parse

variable (compiler : Pattern.Compiler) {text : String}

theorem RangeForm.parse (form : RangeForm text.toList) :
    Clause.parse compiler text =
      .ok (.range (.ofList form.field) (bound form.low) (bound form.high)) :=
  parse_of_rangeParts? compiler form.read

theorem FieldForm.parse (noRange : IsEmpty (RangeForm text.toList))
    (form : FieldForm text.toList) :
    Clause.parse compiler text = ofValue compiler form.field form.value := by
  rw [Clause.parse, rangeParts?_eq_none_iff.mpr noRange, form.read]

theorem parse_of_isEmpty (noRange : IsEmpty (RangeForm text.toList))
    (noField : IsEmpty (FieldForm text.toList)) :
    Clause.parse compiler text = .ok (.freeText text) := by
  rw [Clause.parse, rangeParts?_eq_none_iff.mpr noRange, valueParts?_eq_none_iff.mpr noField]

theorem ofPattern_ne_malformedClause (field pattern fragment reason : String) :
    ofPattern compiler field pattern ≠ .error (.malformedClause fragment reason) := by
  rw [ofPattern]
  cases compiler.refusal? pattern with
  | none => simp
  | some reason => simp

theorem ofValue_ne_malformedClause (field value : List Char) (fragment reason : String) :
    ofValue compiler field value ≠ .error (.malformedClause fragment reason) := by
  rw [ofValue_of_unquotes compiler (unquotes_iff.mpr rfl)]
  split
  · exact ofPattern_ne_malformedClause compiler _ _ _ _
  · simp

theorem parse_ne_malformedClause (text fragment reason : String) :
    Clause.parse compiler text ≠ .error (.malformedClause fragment reason) := by
  cases range : rangeParts? text.toList with
  | some parts =>
    rw [parse_of_rangeParts? compiler range]
    simp
  | none =>
    rw [Clause.parse, range]
    cases valueParts? text.toList with
    | some parts => exact ofValue_ne_malformedClause compiler _ _ _ _
    | none => simp

end Parse

/-- How any text is read: as a range if it has the form of one, whatever follows the bracket; else
as a field with a value up to the end of the line, without the quotation marks around it; else as
free text. Whether a value with stars is a pattern or an error is for the compiler to say. Digits
and quotation marks never make a clause unusable. -/
theorem parse_grammar (compiler : Pattern.Compiler) (text : String) :
    (∀ form : RangeForm text.toList, ∃ low high : Int64,
      low.toInt = min Int64.maxValue.toInt (digitsValue form.low) ∧
      high.toInt = min Int64.maxValue.toInt (digitsValue form.high) ∧
      Clause.parse compiler text = .ok (.range (.ofList form.field) low high)) ∧
    (IsEmpty (RangeForm text.toList) → ∀ form : FieldForm text.toList,
      ∃ value, Unquotes form.value value ∧ Clause.parse compiler text =
        if '*' ∈ value then
          match compiler.refusal? (.ofList value) with
          | none => .ok (.wildcard (.ofList form.field) (.ofList value))
          | some reason => .error (.badPattern reason)
        else .ok (.equals (.ofList form.field) (.ofList value))) ∧
    (IsEmpty (RangeForm text.toList) → IsEmpty (FieldForm text.toList) →
      Clause.parse compiler text = .ok (.freeText text)) ∧
    (Subsingleton (RangeForm text.toList) ∧ Subsingleton (FieldForm text.toList)) ∧
    ∀ fragment reason, Clause.parse compiler text ≠ .error (.malformedClause fragment reason) := by
  refine ⟨?range, ?field, parse_of_isEmpty compiler,
    ⟨RangeForm.subsingleton _, FieldForm.subsingleton _⟩, parse_ne_malformedClause compiler text⟩
  case range =>
    intro form
    exact ⟨bound form.low, bound form.high, toInt_bound _, toInt_bound _, form.parse compiler⟩
  case field =>
    intro noRange form
    have unquotes : Unquotes form.value (strip isQuote form.value) := unquotes_iff.mpr rfl
    refine ⟨_, unquotes, ?_⟩
    rw [form.parse compiler noRange, ofValue_of_unquotes compiler unquotes]
    rfl

/-- Near misses: a small `to`, no space before `TO`, marks alone, a break in the value, a hyphen.
Then a pattern that is refused. -/
example :
    Clause.parse .lenient "hour:[1 to 5]" = .ok (.equals "hour" "[1 to 5]") ∧
    Clause.parse .lenient "hour:[1TO 5]" = .ok (.equals "hour" "[1TO 5]") ∧
    Clause.parse .lenient "user:\"'\"" = .ok (.equals "user" "") ∧
    Clause.parse .lenient "user:a\nb" = .ok (.equals "user" "a") ∧
    Clause.parse .lenient "my-user:a" = .ok (.freeText "my-user:a") ∧
    Clause.parse ⟨fun _ => some "no"⟩ "user:'a*'" = .error (.badPattern "no") := by decide +kernel

end LogSearch.Clause
