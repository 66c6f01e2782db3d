import LogSearch.Proofs.Evaluation
import LogSearch.Proofs.Feedback
import LogSearch.Proofs.Splitting

/-!
# Searches and uncapped queries

`Archive.search` trims the text, answers a blank one at once, and caps what it finds;
`Archive.queryEntries` does neither. They agree all the same.

Results:
1. `entries_take`, `length_entries`: every position that a query finds has an entry.
2. `queryPositions_trim`: trimming never refuses or changes a query that was accepted.
3. `search_of_blank`, `search_of_error`, `search_of_ok`: what a search answers.
4. `search_agrees`: results, refusals and white space, for every archive and every text.
-/

namespace LogSearch

open Text Keyword

/-! ## 1. Entries -/

namespace Corpus

variable {corpus : Corpus} {positions : List Nat}

theorem exists_record?_of_lt {position : Nat} (inside : position < corpus.size) :
    ∃ record, corpus.record? position = some record :=
  ⟨corpus.records[position], List.getElem?_eq_getElem inside⟩

/-- The entries of positions within the corpus, position by position. -/
theorem map_some_entries (inside : ∀ position ∈ positions, position < corpus.size) :
    (corpus.entries positions).map some =
      positions.map fun position => (corpus.record? position).map Entry.ofRecord := by
  induction positions with
  | nil => rfl
  | cons position positions ih =>
    obtain ⟨record, here⟩ := exists_record?_of_lt (inside position List.mem_cons_self)
    have rest := ih fun other member => inside other (List.mem_cons_of_mem _ member)
    rw [entries, List.filterMap_cons_some here, List.map_cons, List.map_cons, List.map_cons, here]
    exact congrArg _ rest

theorem length_entries (inside : ∀ position ∈ positions, position < corpus.size) :
    (corpus.entries positions).length = positions.length := by
  simpa using congrArg List.length (map_some_entries inside)

theorem entries_take (inside : ∀ position ∈ positions, position < corpus.size) (count : Nat) :
    corpus.entries (positions.take count) = (corpus.entries positions).take count := by
  have insideTake : ∀ position ∈ positions.take count, position < corpus.size :=
    fun position member => inside position (List.mem_of_mem_take member)
  have same := map_some_entries insideTake
  rw [List.map_take, ← map_some_entries inside, ← List.map_take] at same
  exact List.map_injective_iff.mpr (fun _ _ => Option.some.inj) same

end Corpus

/-! ## 2. Trimming -/

theorem Clause.parse_nil (compiler : Pattern.Compiler) :
    Clause.parse compiler (.ofList []) = .ok (.freeText (.ofList [])) := by
  have noRange : Clause.rangeParts? [] = none := rfl
  have noValue : Clause.valueParts? [] = none := rfl
  rw [Clause.parse, String.toList_ofList, noRange, noValue]

theorem Query.parse_trim (compiler : Pattern.Compiler) (query : String) :
    Query.parse compiler (.ofList (trim query.toList)) = Query.parse compiler query := by
  rw [Query.parse, String.toList_ofList, trim_trim]
  rfl

namespace Archive

variable {archive : Archive} {query : String} {mission : Option String} {maxResults : Nat}

theorem queryPositions_eq_ok_iff {positions : List Nat} :
    archive.queryPositions query = .ok positions ↔
      query.length ≤ archive.settings.maxQueryLength ∧
        ∃ parsed, Query.parse archive.compiler query = .ok parsed ∧
          archive.corpus.evaluate parsed = positions := by
  unfold queryPositions
  split
  · rename_i long
    constructor
    · intro found
      cases found
    · rintro ⟨short, -⟩
      exact absurd short (Nat.not_le_of_gt long)
  · rename_i short
    rw [Checked.map_eq_ok_iff, and_iff_right (Nat.le_of_not_gt short)]

theorem queryPositions_trim {positions : List Nat}
    (found : archive.queryPositions query = .ok positions) :
    archive.queryPositions (.ofList (trim query.toList)) = .ok positions := by
  rw [queryPositions_eq_ok_iff] at found ⊢
  rw [Query.parse_trim, String.length_ofList]
  refine ⟨Nat.le_trans (length_trim_le query.toList) ?_, found.2⟩
  rw [String.length_toList]
  exact found.1

theorem lt_size_of_queryPositions {positions : List Nat}
    (found : archive.queryPositions query = .ok positions) :
    ∀ position ∈ positions, position < archive.corpus.size := by
  obtain ⟨-, parsed, -, rfl⟩ := queryPositions_eq_ok_iff.mp found
  exact fun position member => Corpus.lt_size_of_mem_evaluate member

/-- A blank query, if it is accepted, finds nothing: its one clause is the empty text. -/
theorem queryPositions_of_blank {positions : List Nat} (blank : trim query.toList = [])
    (found : archive.queryPositions query = .ok positions) : positions = [] := by
  obtain ⟨-, parsed, read, rfl⟩ := queryPositions_eq_ok_iff.mp found
  rw [Query.parse_of_none (by rw [blank]; exact not_hasSeparator_nil _)
    (by rw [blank]; exact not_hasSeparator_nil _), blank] at read
  rw [Clause.parse_nil, Except.map_ok] at read
  obtain rfl := Except.ok.inj read
  refine List.eq_nil_iff_forall_not_mem.mpr fun position member => ?_
  obtain ⟨record, -, holds⟩ := Corpus.mem_evaluate.mp member
  simp [Query.holds, Clause.holds] at holds

/-! ## 3. Answers -/

theorem search_of_blank (blank : trim query.toList = []) :
    archive.search query mission maxResults = .empty "" Mission.blankFeedback := by
  simp only [search, blank]
  rfl

theorem ofList_ne_empty {text : List Char} (some : text ≠ []) :
    (String.ofList text).isEmpty = false := by
  rw [String.isEmpty_eq_false_iff]
  intro empty
  exact some (by simpa using congrArg String.toList empty)

theorem search_of_error {error : QueryError} (some : trim query.toList ≠ [])
    (refused : archive.queryPositions (.ofList (trim query.toList)) = .error error) :
    archive.search query mission maxResults =
      .empty (.ofList (trim query.toList)) (Mission.refusedFeedback error.message) := by
  simp only [search, ofList_ne_empty some, refused]
  rfl

/-- The answer to a query that finds something or nothing: the first entries, and their judgement.
-/
def answer (archive : Archive) (text : String) (mission : Option String) (entries : List Entry) :
    Outcome :=
  let verdict := Mission.assess text mission entries archive.corpus.fieldNames
  ⟨text, entries.length, entries, verdict.isCorrect, verdict.feedback⟩

theorem search_of_ok {positions : List Nat} (some : trim query.toList ≠ [])
    (found : archive.queryPositions (.ofList (trim query.toList)) = .ok positions) :
    archive.search query mission maxResults =
      archive.answer (.ofList (trim query.toList)) mission
        ((archive.corpus.entries positions).take (archive.settings.clampResults maxResults)) := by
  simp only [search, ofList_ne_empty some, found,
    Corpus.entries_take (lt_size_of_queryPositions found)]
  rfl

/-- Of a search only the trimmed text matters. -/
theorem search_congr {other : String} (same : trim query.toList = trim other.toList) :
    archive.search query mission maxResults = archive.search other mission maxResults := by
  rw [search, same]
  rfl

theorem query_search :
    (archive.search query mission maxResults).query = .ofList (trim query.toList) := by
  by_cases blank : trim query.toList = []
  · rw [search_of_blank blank, blank]
    rfl
  · cases found : archive.queryPositions (.ofList (trim query.toList)) with
    | error error => rw [search_of_error blank found]; rfl
    | ok positions => rw [search_of_ok blank found]; rfl

theorem results_search {entries : List Entry} (listed : archive.queryEntries query = .ok entries) :
    (archive.search query mission maxResults).results =
      entries.take (archive.settings.clampResults maxResults) := by
  obtain ⟨positions, found, rfl⟩ := Checked.map_eq_ok_iff.mp listed
  by_cases blank : trim query.toList = []
  · -- The search does not look, and the query that looks finds nothing.
    rw [search_of_blank blank, queryPositions_of_blank blank found, Corpus.entries,
      List.filterMap_nil, List.map_nil, List.take_nil]
    rfl
  · rw [search_of_ok blank (queryPositions_trim found)]
    rfl

theorem totalMatches_search :
    (archive.search query mission maxResults).totalMatches =
      (archive.search query mission maxResults).results.length := by
  by_cases blank : trim query.toList = []
  · rw [search_of_blank blank]
    rfl
  · cases found : archive.queryPositions (.ofList (trim query.toList)) with
    | error error => rw [search_of_error blank found]; rfl
    | ok positions => rw [search_of_ok blank found]; rfl

/-- The entries that a query lists are those of the positions it finds, and none is left out. -/
theorem queryEntries_of_queryPositions {positions : List Nat}
    (found : archive.queryPositions query = .ok positions) :
    ∃ entries, archive.queryEntries query = .ok entries ∧
      entries.map some =
        positions.map fun position => (archive.corpus.record? position).map Entry.ofRecord := by
  refine ⟨archive.corpus.entries positions, ?_,
    Corpus.map_some_entries (lt_size_of_queryPositions found)⟩
  rw [queryEntries, found]
  rfl

theorem isRefused_search_iff (some : trim query.toList ≠ []) :
    (∃ reason, (archive.search query mission maxResults).feedback =
        Mission.refusedFeedback reason) ↔
      ∃ error, archive.queryPositions (.ofList (trim query.toList)) = .error error := by
  cases found : archive.queryPositions (.ofList (trim query.toList)) with
  | error error =>
    rw [search_of_error some found]
    exact ⟨fun _ => ⟨error, rfl⟩, fun _ => ⟨error.message, rfl⟩⟩
  | ok positions =>
    rw [search_of_ok some found]
    constructor
    · rintro ⟨reason, same⟩
      exact absurd same (Mission.feedback_assess_ne_refusedFeedback _ _ _ _ reason)
    · rintro ⟨error, refused⟩
      cases refused

/-! ## 4. Agreement -/

/-- A search agrees with the uncapped query.

* If the query lists entries, the results are the first of them, as many as asked for but at least
  one and at most the ceiling, which counts as one if it is zero. Every position found has its
  entry.
* A query that is not blank is answered like a refusal exactly if the trimmed query is refused, and
  then the answer holds the message of the error.
* White space around the query changes nothing. The query that the answer echoes is the trimmed one,
  and has the same answer. -/
theorem search_agrees (archive : Archive) (query : String) (mission : Option String)
    (maxResults : Nat) :
    let text := trim query.toList
    let outcome := archive.search query mission maxResults
    let count := min (max maxResults 1) (max archive.settings.maxResultsCeiling 1)
    (∀ entries, archive.queryEntries query = .ok entries →
      outcome.results = entries.take count ∧ outcome.totalMatches = min entries.length count) ∧
    (∀ positions, archive.queryPositions query = .ok positions →
      ∃ entries, archive.queryEntries query = .ok entries ∧ entries.map some =
        positions.map fun position => (archive.corpus.record? position).map Entry.ofRecord) ∧
    (text ≠ [] →
      ((∃ reason, outcome.feedback = Mission.refusedFeedback reason) ↔
        ∃ error, archive.queryPositions (.ofList text) = .error error) ∧
      ∀ error, archive.queryPositions (.ofList text) = .error error →
        outcome = .empty (.ofList text) (Mission.refusedFeedback error.message)) ∧
    (∀ left right, isBlankText left = true → isBlankText right = true →
      archive.search (.ofList (left ++ query.toList ++ right)) mission maxResults = outcome) ∧
    outcome.query = .ofList text ∧
    archive.search outcome.query mission maxResults = outcome := by
  intro text outcome count
  have echoed : outcome.query = .ofList text := query_search
  refine ⟨fun entries listed => ?_, fun positions => queryEntries_of_queryPositions,
    fun some => ⟨isRefused_search_iff some, fun error => search_of_error some⟩, ?_, echoed, ?_⟩
  · have results : outcome.results = entries.take count := results_search listed
    refine ⟨results, ?_⟩
    have total : outcome.totalMatches = outcome.results.length := totalMatches_search
    rw [total, results, List.length_take, Nat.min_comm]
  · intro left right before after
    refine search_congr ?_
    rw [String.toList_ofList, trim_append before after]
  · rw [echoed]
    refine search_congr ?_
    rw [String.toList_ofList, trim_trim]

/-- Two equal records and another one, with a ceiling of zero and room for eight characters. -/
def narrowTwins : Archive :=
  ⟨Corpus.twins, { maxResultsCeiling := 0, maxQueryLength := 8 }, .lenient⟩

/-- One of two entries is given; a query of nine characters is refused, its length being counted
without the space after it; white space around a query does not matter. -/
theorem search_agrees_twins :
    (∃ entries, narrowTwins.queryEntries "user:a" = .ok entries ∧ entries.length = 2 ∧
      (narrowTwins.search "user:a" none 7).results = entries.take 1 ∧
      (narrowTwins.search "user:a" none 7).totalMatches = 1) ∧
    (narrowTwins.queryPositions "user:a" = .ok [0, 2] ∧
      ∃ entries, narrowTwins.queryEntries "user:a" = .ok entries ∧ entries.map some =
        [0, 2].map fun position => (narrowTwins.corpus.record? position).map Entry.ofRecord) ∧
    (trim "user:adam ".toList ≠ [] ∧
      narrowTwins.queryPositions (.ofList (trim "user:adam ".toList)) = .error (.tooLong 9 8) ∧
      narrowTwins.search "user:adam " none 7 =
        .empty (.ofList (trim "user:adam ".toList))
          (Mission.refusedFeedback (QueryError.tooLong 9 8).message)) ∧
    (isBlankText ['\t'] = true ∧ isBlankText ['\u3000'] = true ∧
      narrowTwins.search (.ofList (['\t'] ++ "user:a".toList ++ ['\u3000'])) none 7 =
        narrowTwins.search "user:a" none 7) := by
  have found : narrowTwins.queryPositions "user:a" = .ok [0, 2] := by decide +kernel
  have some : trim "user:adam ".toList ≠ [] := by decide
  have long : narrowTwins.queryPositions (.ofList (trim "user:adam ".toList)) =
      .error (.tooLong 9 8) := by decide +kernel
  have before : isBlankText ['\t'] = true := by decide
  have after : isBlankText ['\u3000'] = true := by decide
  obtain ⟨capped, complete, -, around, -⟩ := search_agrees narrowTwins "user:a" none 7
  obtain ⟨-, -, refused, -⟩ := search_agrees narrowTwins "user:adam " none 7
  obtain ⟨entries, listed, each⟩ := complete _ found
  have two : entries.length = 2 := by simpa using congrArg List.length each
  obtain ⟨results, total⟩ := capped entries listed
  rw [two] at total
  exact ⟨⟨entries, listed, two, results, total⟩, ⟨found, entries, listed, each⟩,
    ⟨some, long, (refused some).2 _ long⟩, ⟨before, after, around _ _ before after⟩⟩

end Archive

end LogSearch
