import LogSearch.Proofs.Checked
import LogSearch.Proofs.Separators
import LogSearch.Query.Basic

/-!
# How a query is split

`Query.parse` trims the text, looks for a separator of `AND` and then for one of `OR`, and reads a
clause from every fragment.

Results:
1. `parseClauses_fragments`: the fragments are trimmed already, so each is read as it stands.
2. `parse_of_and`, `parse_of_or`, `parse_of_none`: what is parsed, by the separators in the text.
3. `parsed_of_parse`: the form of a query that is read.
4. `parse_by_separators`: all of it, for every text; only a blank text has an empty clause.
-/

namespace LogSearch

open Text Keyword

/-- Free text is kept as it is. -/
theorem Clause.eq_of_parse_eq_freeText {compiler : Pattern.Compiler} {text kept : String}
    (read : Clause.parse compiler text = .ok (.freeText kept)) : kept = text := by
  unfold Clause.parse at read
  split at read
  · obtain ⟨_, -, read⟩ := Checked.bind_eq_ok_iff.mp read
    obtain ⟨_, -, read⟩ := Checked.bind_eq_ok_iff.mp read
    cases read
  · split at read
    · simp only [Clause.ofValue] at read
      split at read
      · cases (ofPattern_eq_ok_iff.mp read).2
      · cases read
    · cases read
      rfl

namespace Query

/-! ## 1. Fragments -/

/-- The fragments of a text with a separator: a cut, in which every fragment is a trimmed text
without separator. -/
def Fragments (word text : List Char) (fragments : List (List Char)) : Prop :=
  Cut word text fragments ∧ 2 ≤ fragments.length ∧
    ∀ fragment ∈ fragments, fragment ≠ [] ∧ Bare isBlank fragment ∧ ¬ HasSeparator word fragment

/-- Reads one clause from each text, as it stands. -/
def readClauses (compiler : Pattern.Compiler) (fragments : List (List Char)) :
    Except QueryError (List Clause) :=
  fragments.mapM fun fragment => Clause.parse compiler (.ofList fragment)

theorem parseClauses_fragments (compiler : Pattern.Compiler) {word text : List Char}
    {fragments : List (List Char)} (cut : Fragments word text fragments) :
    parseClauses compiler fragments = readClauses compiler fragments := by
  refine Checked.mapM_congr fun fragment member => ?_
  rw [trim, strip_eq_self (cut.2.2 fragment member).2.1]

/-- The empty clause is read from no fragment but an empty one. -/
theorem freeText_nil_not_mem {compiler : Pattern.Compiler} {word text : List Char}
    {fragments : List (List Char)} {clauses : List Clause} (cut : Fragments word text fragments)
    (read : readClauses compiler fragments = .ok clauses) : Clause.freeText "" ∉ clauses := by
  intro member
  obtain ⟨fragment, inside, parsed⟩ := Checked.exists_of_mem_mapM read member
  have empty := Clause.eq_of_parse_eq_freeText parsed
  exact (cut.2.2 fragment inside).1 (by simpa using congrArg String.toList empty.symm)

theorem fragments_split {word : List Char} (solid : Solid word) {text : List Char}
    (trimmed : Bare isBlank text) (has : HasSeparator word text) :
    Fragments word text (split word text) := by
  have cut := cut_split solid text
  have some : text ≠ [] := by
    rintro rfl
    exact not_hasSeparator_nil word has
  refine ⟨cut, cut.two_le_length_iff.mpr has, fun fragment member => ?_⟩
  obtain ⟨fragmentSome, fragmentTrimmed⟩ := cut.bare some trimmed fragment member
  exact ⟨fragmentSome, fragmentTrimmed, cut.not_hasSeparator fragment member⟩

/-- A list of at least two elements has a first and a second. -/
theorem exists_cons_cons {α : Type} {items : List α} :
    2 ≤ items.length ↔ ∃ first second rest, items = first :: second :: rest := by
  match items with
  | [] => simp
  | [_] => simp
  | first :: second :: rest => simp

/-! ## 2. The three forms -/

theorem split_eq_singleton {word text : List Char} (solid : Solid word)
    (has : ¬ HasSeparator word text) : split word text = [text] := by
  have cut := cut_split solid text
  generalize split word text = fragments at cut
  cases cut with
  | whole => rfl
  | next is => exact absurd ⟨_, _, _, rfl, is⟩ has

variable {compiler : Pattern.Compiler} {query : String}

theorem parse_of_and (has : HasSeparator andWord (trim query.toList)) :
    ∃ fragments, Fragments andWord (trim query.toList) fragments ∧
      Query.parse compiler query = .allOf <$> readClauses compiler fragments := by
  have cut := fragments_split solid_andWord (bare_trim _) has
  refine ⟨_, cut, ?_⟩
  obtain ⟨first, second, rest, parts⟩ := exists_cons_cons.mp cut.2.1
  rw [← parseClauses_fragments compiler cut, Query.parse, parts]

theorem parse_of_or (hasNoAnd : ¬ HasSeparator andWord (trim query.toList))
    (has : HasSeparator orWord (trim query.toList)) :
    ∃ fragments, Fragments orWord (trim query.toList) fragments ∧
      Query.parse compiler query = .anyOf <$> readClauses compiler fragments := by
  have cut := fragments_split solid_orWord (bare_trim _) has
  refine ⟨_, cut, ?_⟩
  obtain ⟨first, second, rest, parts⟩ := exists_cons_cons.mp cut.2.1
  rw [← parseClauses_fragments compiler cut, Query.parse,
    split_eq_singleton solid_andWord hasNoAnd, parts]

theorem parse_of_none (hasNoAnd : ¬ HasSeparator andWord (trim query.toList))
    (hasNoOr : ¬ HasSeparator orWord (trim query.toList)) :
    Query.parse compiler query =
      .single <$> Clause.parse compiler (.ofList (trim query.toList)) := by
  rw [Query.parse, split_eq_singleton solid_andWord hasNoAnd,
    split_eq_singleton solid_orWord hasNoOr]

/-! ## 3. Parsed queries -/

/-- A parsed query has one of the three forms, which the separators in its text decide. -/
inductive Parsed (compiler : Pattern.Compiler) (query : String) : Query → Prop
  | allOf {fragments : List (List Char)} {clauses : List Clause} :
      HasSeparator andWord (trim query.toList) →
      Fragments andWord (trim query.toList) fragments →
      readClauses compiler fragments = .ok clauses → Parsed compiler query (.allOf clauses)
  | anyOf {fragments : List (List Char)} {clauses : List Clause} :
      ¬ HasSeparator andWord (trim query.toList) → HasSeparator orWord (trim query.toList) →
      Fragments orWord (trim query.toList) fragments →
      readClauses compiler fragments = .ok clauses → Parsed compiler query (.anyOf clauses)
  | single {clause : Clause} :
      ¬ HasSeparator andWord (trim query.toList) → ¬ HasSeparator orWord (trim query.toList) →
      Clause.parse compiler (.ofList (trim query.toList)) = .ok clause →
      Parsed compiler query (.single clause)

theorem parsed_of_parse {parsed : Query} (read : Query.parse compiler query = .ok parsed) :
    Parsed compiler query parsed := by
  by_cases hasAnd : HasSeparator andWord (trim query.toList)
  · obtain ⟨fragments, cut, parse⟩ := parse_of_and hasAnd
    obtain ⟨clauses, done, rfl⟩ := Checked.map_eq_ok_iff.mp (parse ▸ read)
    exact .allOf hasAnd cut done
  · by_cases hasOr : HasSeparator orWord (trim query.toList)
    · obtain ⟨fragments, cut, parse⟩ := parse_of_or hasAnd hasOr
      obtain ⟨clauses, done, rfl⟩ := Checked.map_eq_ok_iff.mp (parse ▸ read)
      exact .anyOf hasAnd hasOr cut done
    · obtain ⟨clause, done, rfl⟩ := Checked.map_eq_ok_iff.mp (parse_of_none hasAnd hasOr ▸ read)
      exact .single hasAnd hasOr done

theorem Parsed.isAllOf_iff {parsed : Query} (read : Parsed compiler query parsed) :
    (∃ clauses, parsed = .allOf clauses) ↔ HasSeparator andWord (trim query.toList) := by
  cases read with
  | allOf hasAnd => simp [hasAnd]
  | anyOf hasNoAnd => simp [hasNoAnd]
  | single hasNoAnd => simp [hasNoAnd]

theorem Parsed.isAnyOf_iff {parsed : Query} (read : Parsed compiler query parsed) :
    (∃ clauses, parsed = .anyOf clauses) ↔
      ¬ HasSeparator andWord (trim query.toList) ∧ HasSeparator orWord (trim query.toList) := by
  cases read with
  | allOf hasAnd => simp [hasAnd]
  | anyOf hasNoAnd hasOr => simp [hasNoAnd, hasOr]
  | single hasNoAnd hasNoOr => simp [hasNoOr]

theorem Parsed.blank_of_freeText_nil {parsed : Query} (read : Parsed compiler query parsed)
    (member : Clause.freeText "" ∈ parsed.clauses) : isBlankText query.toList = true := by
  cases read with
  | allOf _ cut done => exact absurd member (freeText_nil_not_mem cut done)
  | anyOf _ _ cut done => exact absurd member (freeText_nil_not_mem cut done)
  | single _ _ done =>
    rw [clauses, List.mem_singleton] at member
    have empty := Clause.eq_of_parse_eq_freeText (member ▸ done)
    rw [← trim_eq_nil_iff]
    simpa using (congrArg String.toList empty).symm

/-! ## 4. All texts -/

/-- What is parsed, by the separators in the trimmed text.

* With a separator of `AND`, the clauses of the fragments joined by `AND`; the first one that cannot
  be read decides the error. Without one and with a separator of `OR`, the same for `OR`. Without
  either, the clause of the whole text.
* So the operator of a query that is read tells which separators the text has.
* Only a blank text has an empty clause. -/
theorem parse_by_separators (compiler : Pattern.Compiler) (query : String) :
    (HasSeparator andWord (trim query.toList) →
      ∃ fragments, Fragments andWord (trim query.toList) fragments ∧
        Query.parse compiler query = .allOf <$> readClauses compiler fragments) ∧
    (¬ HasSeparator andWord (trim query.toList) → HasSeparator orWord (trim query.toList) →
      ∃ fragments, Fragments orWord (trim query.toList) fragments ∧
        Query.parse compiler query = .anyOf <$> readClauses compiler fragments) ∧
    (¬ HasSeparator andWord (trim query.toList) → ¬ HasSeparator orWord (trim query.toList) →
      Query.parse compiler query =
        .single <$> Clause.parse compiler (.ofList (trim query.toList))) ∧
    (∀ parsed, Query.parse compiler query = .ok parsed →
      ((∃ clauses, parsed = .allOf clauses) ↔ HasSeparator andWord (trim query.toList)) ∧
      ((∃ clauses, parsed = .anyOf clauses) ↔
        ¬ HasSeparator andWord (trim query.toList) ∧ HasSeparator orWord (trim query.toList)) ∧
      (Clause.freeText "" ∈ parsed.clauses → isBlankText query.toList = true)) := by
  refine ⟨parse_of_and, parse_of_or, parse_of_none, fun parsed read => ?_⟩
  have form := parsed_of_parse read
  exact ⟨form.isAllOf_iff, form.isAnyOf_iff, form.blank_of_freeText_nil⟩

/-- Keywords that pile up, a keyword of each kind, a keyword at the end, and a blank text. -/
theorem parse_by_separators_piled :
    (HasSeparator andWord (trim "a AND  AND b".toList) ∧
      ∃ fragments, Fragments andWord (trim "a AND  AND b".toList) fragments ∧
        Query.parse .lenient "a AND  AND b" = .allOf <$> readClauses .lenient fragments) ∧
    (¬ HasSeparator andWord (trim "ANDx\tor y".toList) ∧
      HasSeparator orWord (trim "ANDx\tor y".toList) ∧
      ∃ fragments, Fragments orWord (trim "ANDx\tor y".toList) fragments ∧
        Query.parse .lenient "ANDx\tor y" = .anyOf <$> readClauses .lenient fragments) ∧
    (¬ HasSeparator andWord (trim "x OR ".toList) ∧ ¬ HasSeparator orWord (trim "x OR ".toList) ∧
      Query.parse .lenient "x OR " =
        .single <$> Clause.parse .lenient (.ofList (trim "x OR ".toList))) ∧
    (Query.parse .lenient "\u3000" = .ok (.single (.freeText "")) ∧
      Clause.freeText "" ∈ (Query.single (.freeText "")).clauses ∧
      isBlankText "\u3000".toList = true) := by
  have piled : HasSeparator andWord (trim "a AND  AND b".toList) :=
    (hasSeparator_iff solid_andWord _).mpr (by decide +kernel)
  have noAnd : ¬ HasSeparator andWord (trim "ANDx\tor y".toList) := by
    rw [hasSeparator_iff solid_andWord]
    decide +kernel
  have inner : HasSeparator orWord (trim "ANDx\tor y".toList) :=
    (hasSeparator_iff solid_orWord _).mpr (by decide +kernel)
  have noAnd' : ¬ HasSeparator andWord (trim "x OR ".toList) := by
    rw [hasSeparator_iff solid_andWord]
    decide +kernel
  have noOr : ¬ HasSeparator orWord (trim "x OR ".toList) := by
    rw [hasSeparator_iff solid_orWord]
    decide +kernel
  have blank : Query.parse .lenient "\u3000" = .ok (.single (.freeText "")) := by decide +kernel
  have empty : Clause.freeText "" ∈ (Query.single (.freeText "")).clauses :=
    List.mem_singleton_self _
  exact ⟨⟨piled, (parse_by_separators _ _).1 piled⟩,
    ⟨noAnd, inner, (parse_by_separators _ _).2.1 noAnd inner⟩,
    ⟨noAnd', noOr, (parse_by_separators _ _).2.2.1 noAnd' noOr⟩,
    ⟨blank, empty, ((parse_by_separators _ _).2.2.2 _ blank).2.2 empty⟩⟩

end Query

end LogSearch
