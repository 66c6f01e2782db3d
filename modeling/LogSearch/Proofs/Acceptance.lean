import LogSearch.Proofs.Search
import LogSearch.Proofs.Shapes

/-!
# Which queries are accepted

A query is refused for its length only, as long as its wildcard patterns compile. That is relied on
for patterns with few stars that are no longer than a query may be (`AcceptsStars`). A pattern is a
part of the query, and so has no more stars than the query has characters.

Results:
1. `readInt64_of_digits`: a run of digits is read, or its number is too large.
2. `Clause.exists_parse`: so a text of any shape is a clause, if it is small.
3. `Query.exists_parse`: so is a query, since its fragments are parts of it.
4. `queryPositions_fails_iff`: a query is refused exactly if it is too long.
-/

namespace LogSearch

open Text Keyword

/-! ## 1. Digits -/

namespace Text

variable {digits : List Char}

/-- Digits are read to their end, or until their number is beyond the limit, where it stays. -/
theorem readWithin_of_digits {limit : Nat} {beyond : IntegerFault}
    (all : ∀ c ∈ digits, c.isDigit = true) {n : Nat} (within : n ≤ limit) :
    readWithin limit beyond n digits =
      if Nat.ofDigitChars 10 digits n ≤ limit then .ok (Nat.ofDigitChars 10 digits n)
      else .error beyond := by
  induction digits generalizing n with
  | nil => rw [readWithin, Nat.ofDigitChars_nil, if_pos within]
  | cons c digits ih =>
    rw [readWithin, if_pos (all c List.mem_cons_self), Nat.ofDigitChars_cons]
    by_cases further : 10 * n + (c.toNat - '0'.toNat) ≤ limit
    · rw [if_pos further, ih (fun d member => all d (List.mem_cons_of_mem c member)) further]
    · have := le_ofDigitChars digits (10 * n + (c.toNat - '0'.toNat))
      rw [if_neg further, if_neg (by omega)]

theorem readInt64_of_digits (nonempty : digits ≠ []) (all : ∀ c ∈ digits, c.isDigit = true) :
    readInt64 digits =
      if digitsValue digits ≤ Int64.maxValue.toInt.toNat then .ok (.ofNat (digitsValue digits))
      else .error .tooLarge := by
  obtain ⟨c, rest, rfl⟩ := List.exists_cons_of_ne_nil nonempty
  have digit := all c List.mem_cons_self
  have unsigned : readInt64 (c :: rest) =
      .ofNat <$> readWithin Int64.maxValue.toInt.toNat .tooLarge 0 (c :: rest) := by
    have positive : c ≠ '+' := by
      rintro rfl
      exact absurd digit (by decide)
    have negative : c ≠ '-' := by
      rintro rfl
      exact absurd digit (by decide)
    simp [readInt64, positive, negative]
  rw [unsigned, readWithin_of_digits all (Nat.zero_le _), digitsValue]
  split
  · rfl
  · rfl

end Text

/-! ## 2. Clauses -/

namespace Clause

/-- The bound that digits stand for. -/
def bound (digits : List Char) : Int64 :=
  .ofNat (min Int64.maxValue.toInt.toNat (digitsValue digits))

theorem readBound_of_digits {digits : List Char} (nonempty : digits ≠ [])
    (all : ∀ c ∈ digits, c.isDigit = true) (fragment : String) :
    readBound fragment digits = .ok (bound digits) := by
  rw [readBound, readInt64_of_digits nonempty all, bound]
  by_cases within : digitsValue digits ≤ Int64.maxValue.toInt.toNat
  · rw [if_pos within, Nat.min_eq_right within]
  · rw [if_neg within, Nat.min_eq_left (Nat.le_of_not_le within)]
    rfl

variable {text : String} {field low high value : List Char}

theorem digits_of_rangeParts? (read : rangeParts? text.toList = some (field, low, high)) :
    Run Char.isDigit low ∧ Run Char.isDigit high := by
  obtain ⟨_, -, -, _, _, _, -, lowRun, -, -, highRun⟩ := rangeParts?_eq_some_iff.mp read
  exact ⟨lowRun, highRun⟩

/-- Whatever has the shape of a range is one. -/
theorem parse_of_rangeParts? (compiler : Pattern.Compiler)
    (read : rangeParts? text.toList = some (field, low, high)) :
    Clause.parse compiler text = .ok (.range (.ofList field) (bound low) (bound high)) := by
  obtain ⟨⟨lowNonempty, lowAll⟩, ⟨highNonempty, highAll⟩⟩ := digits_of_rangeParts? read
  rw [Clause.parse, read]
  simp only [readBound_of_digits lowNonempty lowAll, readBound_of_digits highNonempty highAll]
  rfl

theorem value_sublist (read : valueParts? text.toList = some (field, value)) :
    value.Sublist text.toList := by
  obtain ⟨rest, whole, -⟩ := valueParts?_eq_some_iff.mp read
  rw [whole]
  refine .trans ?_ (List.sublist_append_right _ _)
  refine .trans ?_ (List.sublist_cons_self _ _)
  exact List.sublist_append_left _ _

end Clause

/-- Every pattern with at most `stars` stars compiles, if it has at most `length` characters. -/
def Pattern.Compiler.AcceptsStars (compiler : Compiler) (stars length : Nat) : Prop :=
  ∀ pattern : String, pattern.toList.count '*' ≤ stars → pattern.length ≤ length →
    compiler.Accepts pattern

/-- A text of at most `length` characters, of which at most `stars` are stars. -/
structure Text.Small (stars length : Nat) (text : List Char) : Prop where
  few : text.count '*' ≤ stars
  short : text.length ≤ length

variable {compiler : Pattern.Compiler} {stars length : Nat}

theorem Text.Small.sublist {text part : List Char} (small : Small stars length text)
    (within : part.Sublist text) : Small stars length part :=
  ⟨(within.count_le '*').trans small.few, within.length_le.trans small.short⟩

namespace Clause

theorem exists_ofValue (accepts : compiler.AcceptsStars stars length) (field : List Char)
    {value : List Char} (small : Small stars length value) :
    ∃ clause, ofValue compiler field value = .ok clause := by
  obtain ⟨few, short⟩ := small.sublist (strip_sublist isQuote value)
  have compiles : compiler.Accepts (.ofList (strip isQuote value)) :=
    accepts _ (by rwa [String.toList_ofList]) (by rwa [String.length_ofList])
  rw [ofValue]
  split
  · exact ⟨_, ofPattern_eq_ok_iff.mpr ⟨compiles, rfl⟩⟩
  · exact ⟨_, rfl⟩

theorem exists_parse (accepts : compiler.AcceptsStars stars length) {text : String}
    (small : Small stars length text.toList) :
    ∃ clause, Clause.parse compiler text = .ok clause := by
  cases range : rangeParts? text.toList with
  | some parts => exact ⟨_, parse_of_rangeParts? compiler range⟩
  | none =>
    rw [Clause.parse, range]
    cases shaped : valueParts? text.toList with
    | some parts => exact exists_ofValue accepts _ (small.sublist (value_sublist shaped))
    | none => exact ⟨_, rfl⟩

end Clause

/-! ## 3. Fragments -/

theorem Keyword.Cut.sublist {word text : List Char} {fragments : List (List Char)}
    (cut : Cut word text fragments) : ∀ fragment ∈ fragments, fragment.Sublist text := by
  induction cut with
  | whole _ =>
    intro fragment member
    rw [List.mem_singleton.mp member]
  | @next fragment separator rest fragments _ _ _ _ ih =>
    intro other member
    cases List.mem_cons.mp member with
    | inl same =>
      rw [same, List.append_assoc]
      exact List.sublist_append_left _ _
    | inr inside => exact (ih other inside).trans (List.sublist_append_right _ _)

namespace Query

theorem exists_readClauses (accepts : compiler.AcceptsStars stars length) {word text : List Char}
    {fragments : List (List Char)} (cut : Fragments word text fragments)
    (small : Small stars length text) :
    ∃ clauses, readClauses compiler fragments = .ok clauses := by
  refine Checked.exists_mapM fun fragment member => Clause.exists_parse accepts ?_
  rw [String.toList_ofList]
  exact small.sublist (cut.1.sublist fragment member)

/-- A small query can be read. -/
theorem exists_parse (accepts : compiler.AcceptsStars stars length) {query : String}
    (small : Small stars length query.toList) :
    ∃ parsed, Query.parse compiler query = .ok parsed := by
  have small := small.sublist (trim_sublist query.toList)
  by_cases hasAnd : HasSeparator andWord (trim query.toList)
  · obtain ⟨fragments, cut, parse⟩ := parse_of_and hasAnd
    obtain ⟨clauses, read⟩ := exists_readClauses accepts cut small
    exact ⟨.allOf clauses, by rw [parse, read]; rfl⟩
  · by_cases hasOr : HasSeparator orWord (trim query.toList)
    · obtain ⟨fragments, cut, parse⟩ := parse_of_or hasAnd hasOr
      obtain ⟨clauses, read⟩ := exists_readClauses accepts cut small
      exact ⟨.anyOf clauses, by rw [parse, read]; rfl⟩
    · have small : Small stars length (String.ofList (trim query.toList)).toList := by
        rwa [String.toList_ofList]
      obtain ⟨clause, read⟩ := Clause.exists_parse accepts small
      exact ⟨.single clause, by rw [parse_of_none hasAnd hasOr, read]; rfl⟩

end Query

/-! ## 4. Queries -/

namespace Archive

variable {archive : Archive} {query : String}

theorem queryPositions_of_lt (long : archive.settings.maxQueryLength < query.length) :
    archive.queryPositions query =
      .error (.tooLong query.length archive.settings.maxQueryLength) := by
  rw [queryPositions, if_pos long]

theorem exists_queryPositions
    (accepts : archive.compiler.AcceptsStars 1000 archive.settings.maxQueryLength)
    (small : archive.settings.maxQueryLength ≤ 1000)
    (short : query.length ≤ archive.settings.maxQueryLength) :
    ∃ positions, archive.queryPositions query = .ok positions := by
  have length : query.toList.length = query.length := String.length_toList
  have few : query.toList.count '*' ≤ 1000 := calc
    query.toList.count '*' ≤ query.toList.length := List.count_le_length
    _ = query.length := length
    _ ≤ 1000 := short.trans small
  obtain ⟨parsed, read⟩ := Query.exists_parse accepts ⟨few, length.trans_le short⟩
  exact ⟨_, queryPositions_eq_ok_iff.mpr ⟨short, parsed, read, rfl⟩⟩

/-- If at most a thousand characters are allowed, a query of any shape gives positions when it has
no more characters than that, and otherwise its length is the error. It is assumed that a pattern
with at most a thousand stars compiles, and only for patterns that are no longer than a query. -/
theorem queryPositions_fails_iff (archive : Archive)
    (accepts : archive.compiler.AcceptsStars 1000 archive.settings.maxQueryLength)
    (small : archive.settings.maxQueryLength ≤ 1000) (query : String) :
    ((∃ positions, archive.queryPositions query = .ok positions) ↔
      query.length ≤ archive.settings.maxQueryLength) ∧
    ∀ error, archive.queryPositions query = .error error ↔
      archive.settings.maxQueryLength < query.length ∧
        error = .tooLong query.length archive.settings.maxQueryLength := by
  refine ⟨⟨?accepted, exists_queryPositions accepts small⟩, fun error => ⟨?refused, ?long⟩⟩
  case accepted =>
    rintro ⟨positions, found⟩
    exact (queryPositions_eq_ok_iff.mp found).1
  case refused =>
    intro refused
    by_cases long : archive.settings.maxQueryLength < query.length
    · rw [queryPositions_of_lt long] at refused
      exact ⟨long, (Except.error.inj refused).symm⟩
    · obtain ⟨positions, found⟩ := exists_queryPositions accepts small (Nat.le_of_not_lt long)
      rw [found] at refused
      cases refused
  case long =>
    rintro ⟨long, rfl⟩
    exact queryPositions_of_lt long

/-- Under the default settings bounds beyond every integer, quotation marks alone and nested
brackets are accepted. With eight characters allowed, a plain query of nine is too long. -/
theorem queryPositions_fails_iff_training :
    let shaped := "a:[99999999999999999999 TO 1] AND b:\"\"' and c:[[1 TO 2] AND OR (?*)+\\ d:*.*"
    let lenient := training .lenient
    (lenient.compiler.AcceptsStars 1000 lenient.settings.maxQueryLength ∧
      lenient.settings.maxQueryLength ≤ 1000 ∧
      ∃ positions, lenient.queryPositions shaped = .ok positions) ∧
    (narrowTwins.compiler.AcceptsStars 1000 narrowTwins.settings.maxQueryLength ∧
      narrowTwins.settings.maxQueryLength ≤ 1000 ∧
      narrowTwins.queryPositions "user:adam" = .error (.tooLong 9 8)) := by
  intro shaped lenient
  have accepts : lenient.compiler.AcceptsStars 1000 lenient.settings.maxQueryLength :=
    fun pattern _ _ => Pattern.Compiler.lenient_accepts pattern
  have small : lenient.settings.maxQueryLength ≤ 1000 := by decide
  have narrowAccepts :
      narrowTwins.compiler.AcceptsStars 1000 narrowTwins.settings.maxQueryLength :=
    fun pattern _ _ => Pattern.Compiler.lenient_accepts pattern
  have narrow : narrowTwins.settings.maxQueryLength ≤ 1000 := by decide
  refine ⟨⟨accepts, small, (queryPositions_fails_iff lenient accepts small shaped).1.mpr ?_⟩,
    narrowAccepts, narrow,
    ((queryPositions_fails_iff narrowTwins narrowAccepts narrow "user:adam").2 _).mpr ?_⟩
  · decide +kernel
  · decide +kernel

end Archive

end LogSearch
