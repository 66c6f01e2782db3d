import LogSearch.Proofs.Trimming
import LogSearch.Query.Clause

/-!
# Shapes of clauses

What `rangeParts?` and `valueParts?` read, as decompositions of the text.

Results:
1. `run?_append`: a run is read up to the character that ends it.
2. `rangeParts?_eq_some_iff`, `valueParts?_eq_some_iff`: a text has parts exactly if it has the
   shape, and they are the parts of the shape.
3. `parse_field_colon`, `parse_field_framed`: how `field:value` is read, unless the value has the
   shape of a range.
-/

namespace LogSearch.Clause

open Text

/-! ## 1. Runs -/

/-- A non-empty run of characters of a class. -/
def Run (p : Char → Bool) (text : List Char) : Prop :=
  text ≠ [] ∧ ∀ c ∈ text, p c = true

instance (p : Char → Bool) (text : List Char) : Decidable (Run p text) :=
  decidable_of_iff (text ≠ [] ∧ text.all p = true) (by rw [Run, List.all_eq_true])

variable {p q : Char → Bool}

theorem Run.head {run : List Char} (is : Run p run) :
    ∃ c rest, run = c :: rest ∧ p c = true := by
  obtain ⟨c, rest, rfl⟩ := List.exists_cons_of_ne_nil is.1
  exact ⟨c, rest, rfl, is.2 c List.mem_cons_self⟩

theorem run?_append {run : List Char} (is : Run p run) {c : Char} (stop : p c = false)
    (rest : List Char) : run? p (run ++ c :: rest) = some (run, c :: rest) := by
  refine run?_eq_some_iff.mpr ⟨rfl, is.1, is.2, ?_⟩
  rintro _ ⟨⟩
  simp [stop]

/-- A run ends where a run of another class begins. -/
theorem run?_append_run {run next : List Char} (is : Run p run) (follows : Run q next)
    (apart : ∀ c, q c = true → p c = false) (rest : List Char) :
    run? p (run ++ (next ++ rest)) = some (run, next ++ rest) := by
  obtain ⟨c, next, rfl, other⟩ := follows.head
  exact run?_append is (apart c other) _

/-! ## 2. The two shapes -/

/-- The shape of a range, with anything after the bracket. -/
def RangeValue (low high value : List Char) : Prop :=
  ∃ before after rest,
    value = '[' :: (low ++ (before ++ ('T' :: 'O' :: (after ++ (high ++ (']' :: rest)))))) ∧
    Run Char.isDigit low ∧ Run isBlank before ∧ Run isBlank after ∧ Run Char.isDigit high

variable {text field low high value : List Char}

theorem RangeValue.head? (shape : RangeValue low high value) : value.head? = some '[' := by
  obtain ⟨_, _, _, rfl, -⟩ := shape
  rfl

theorem not_isDigit_of_isBlank (c : Char) (blank : isBlank c = true) : c.isDigit = false := by
  refine Bool.eq_false_iff.mpr fun digit => ?_
  rw [not_isBlank_of_isDigit digit] at blank
  cases blank

theorem rangeParts?_eq_some_iff :
    rangeParts? text = some (field, low, high) ↔
      ∃ value, text = field ++ ':' :: value ∧ Run isNameChar field ∧ RangeValue low high value := by
  constructor
  · intro read
    simp only [rangeParts?, Option.bind_eq_bind, Option.bind_eq_some_iff, Prod.exists,
      Option.pure_def, Option.some.injEq, Prod.mk.injEq, run?_eq_some_iff,
      literal?_eq_some_iff] at read
    obtain ⟨_, _, ⟨whole, field, fieldAll, -⟩, _, rfl, _, _, ⟨rfl, low, lowAll, -⟩,
      before, _, ⟨rfl, blank, blankAll, -⟩, _, rfl, after, _, ⟨rfl, blank', blankAll', -⟩,
      _, _, ⟨rfl, high, highAll, -⟩, rest, rfl, rfl, rfl, rfl⟩ := read
    exact ⟨_, whole, ⟨field, fieldAll⟩, before, after, rest, rfl, ⟨low, lowAll⟩,
      ⟨blank, blankAll⟩, ⟨blank', blankAll'⟩, ⟨high, highAll⟩⟩
  · rintro ⟨_, rfl, fieldRun, before, after, rest, rfl, lowRun, beforeRun, afterRun, highRun⟩
    have digit : ∀ c : Char, c.isDigit = true → isBlank c = false :=
      fun c => not_isBlank_of_isDigit
    have fieldRead := run?_append fieldRun (by decide : isNameChar ':' = false)
    have lowRead := run?_append_run lowRun beforeRun not_isDigit_of_isBlank
    have beforeRead := run?_append beforeRun (by decide : isBlank 'T' = false)
    have afterRead := run?_append_run afterRun highRun digit
    have highRead := run?_append highRun (by decide : Char.isDigit ']' = false)
    simp [rangeParts?, fieldRead, literal?, lowRead, beforeRead, afterRead, highRead]

theorem valueParts?_eq_some_iff :
    valueParts? text = some (field, value) ↔
      ∃ rest, text = field ++ ':' :: (value ++ rest) ∧ Run isNameChar field ∧
        Run (· ≠ '\n') value ∧ ∀ c ∈ rest.head?, c = '\n' := by
  constructor
  · intro read
    simp only [valueParts?, Option.bind_eq_bind, Option.bind_eq_some_iff, Prod.exists,
      Option.pure_def, Option.some.injEq, Prod.mk.injEq, run?_eq_some_iff,
      literal?_eq_some_iff] at read
    obtain ⟨_, _, ⟨whole, field, fieldAll, -⟩, _, rfl, _, rest, ⟨rfl, value, valueAll, stop⟩,
      rfl, rfl⟩ := read
    refine ⟨rest, whole, ⟨field, fieldAll⟩, ⟨value, valueAll⟩, ?_⟩
    simpa using stop
  · rintro ⟨rest, rfl, fieldRun, valueRun, stop⟩
    have fieldRead := run?_append fieldRun (by decide : isNameChar ':' = false)
    have colon : literal? [':'] (':' :: (value ++ rest)) = some (value ++ rest) :=
      literal?_eq_some_iff.mpr rfl
    have valueRead : run? (· ≠ '\n') (value ++ rest) = some (value, rest) :=
      run?_eq_some_iff.mpr ⟨rfl, valueRun.1, valueRun.2, by simpa using stop⟩
    rw [valueParts?, fieldRead]
    simp only [Option.bind_eq_bind, Option.bind_some, colon, valueRead]
    rfl

/-! ## 3. Fields with a value -/

theorem rangeParts?_eq_none (named : Run isNameChar field)
    (noRange : ∀ low high, ¬ RangeValue low high value) :
    rangeParts? (field ++ ':' :: value) = none := by
  refine Option.eq_none_iff_forall_ne_some.mpr ?_
  rintro ⟨other, low, high⟩ read
  obtain ⟨rest, whole, otherNamed, shape⟩ := rangeParts?_eq_some_iff.mp read
  -- Both fields are what is read before the colon.
  have fieldRead := run?_append named (by decide : isNameChar ':' = false) value
  rw [whole, run?_append otherNamed (by decide)] at fieldRead
  simp only [Option.some.injEq, Prod.mk.injEq, List.cons.injEq, true_and] at fieldRead
  exact noRange low high (fieldRead.2 ▸ shape)

variable (compiler : Pattern.Compiler)

/-- A value of one line is read whole, if it has not the shape of a range. -/
theorem parse_field_colon (named : Run isNameChar field) (oneLine : Run (· ≠ '\n') value)
    (noRange : ∀ low high, ¬ RangeValue low high value) :
    Clause.parse compiler (.ofList (field ++ ':' :: value)) = ofValue compiler field value := by
  have parts : valueParts? (field ++ ':' :: value) = some (field, value) :=
    valueParts?_eq_some_iff.mpr ⟨[], by rw [List.append_nil], named, oneLine, by simp⟩
  rw [Clause.parse, String.toList_ofList, rangeParts?_eq_none named noRange, parts]

/-- A value between two equal marks has not the shape of a range, unless they open one. -/
theorem parse_field_framed {mark : Char} {inner : List Char} (named : Run isNameChar field)
    (noBracket : mark ≠ '[') (noFeed : mark ≠ '\n') (oneLine : '\n' ∉ inner) :
    Clause.parse compiler (.ofList (field ++ ':' :: (mark :: (inner ++ [mark])))) =
      ofValue compiler field (mark :: (inner ++ [mark])) := by
  refine parse_field_colon compiler named
    ⟨List.cons_ne_nil _ _, fun c member => decide_eq_true ?_⟩ ?_
  · rintro rfl
    simp [oneLine, noFeed.symm] at member
  · intro low high shape
    exact noBracket (Option.some.inj shape.head?)

end LogSearch.Clause
