import LogSearch.Proofs.Search

/-!
# Verdicts under a cap

A search judges what is left of the results after the cap, although the rules ask for what was
found. The cap leaves at least one result where there is one, whatever the number asked for and the
ceiling; and no rule asks for more than that.

Results:
1. `isCorrect_congr`, `isCorrect_zero`: a verdict looks only at whether there are results.
2. `isCorrect_search`: a search is judged as if it were not capped.
3. `search_capped_alike`: two searches that differ in their caps only have the same verdict, and one
   gives the first of the results of the other.
-/

namespace LogSearch

open Text

/-! ## 1. Counts -/

namespace Mission

variable {query : String} {count other : Nat}

theorem accepts_congr {rule : Rule} (known : rule ∈ rules) (same : 0 < count ↔ 0 < other) :
    rule.accepts query count = rule.accepts query other := by
  have same : decide (0 < count) = decide (0 < other) := decide_eq_decide.mpr same
  rcases List.mem_cons.mp known with rfl | known
  · simp only [failedLogins, same]
  · rcases List.mem_singleton.mp known with rfl
    simp only [afterHoursAdmin, same]

theorem accepts_zero {rule : Rule} (known : rule ∈ rules) : rule.accepts query 0 = false := by
  rcases List.mem_cons.mp known with rfl | known
  · rfl
  · rcases List.mem_singleton.mp known with rfl
    rfl

theorem mem_rules_of_bind {mission : Option String} {rule : Rule}
    (found : mission.bind rule? = some rule) : rule ∈ rules := by
  obtain ⟨id, -, found⟩ := Option.bind_eq_some_iff.mp found
  exact List.mem_of_find?_eq_some found

theorem accepts_of_isCorrect {mission : Option String} {rule : Rule} {text : List Char}
    (known : mission.bind rule? = some rule)
    (correct : isCorrect (.ofList text) mission count = true) :
    rule.accepts (.ofList (lowercase text)) count = true := by
  rw [isCorrect, known, String.toList_ofList] at correct
  exact correct

theorem isCorrect_congr (mission : Option String) (same : 0 < count ↔ 0 < other) :
    isCorrect query mission count = isCorrect query mission other := by
  unfold isCorrect
  split
  · rename_i rule found
    exact accepts_congr (mem_rules_of_bind found) same
  · exact decide_eq_decide.mpr same

theorem isCorrect_zero (query : String) (mission : Option String) :
    isCorrect query mission 0 = false := by
  unfold isCorrect
  split
  · rename_i rule found
    exact accepts_zero (mem_rules_of_bind found)
  · rfl

theorem pos_of_isCorrect {mission : Option String}
    (correct : isCorrect query mission count = true) : 0 < count := by
  refine Nat.pos_of_ne_zero ?_
  rintro rfl
  rw [isCorrect_zero] at correct
  exact Bool.noConfusion correct

end Mission

/-! ## 2. One search -/

theorem Settings.clampResults_pos (settings : Settings) (requested : Nat) :
    0 < settings.clampResults requested := by
  unfold clampResults
  omega

namespace Archive

variable {archive : Archive} {query : String} {mission : Option String} {maxResults : Nat}
  {positions : List Nat}

/-- The search finds as many entries as positions, and the cap leaves some of some. -/
theorem length_take_pos_iff (found : archive.queryPositions query = .ok positions) :
    0 < ((archive.corpus.entries positions).take
      (archive.settings.clampResults maxResults)).length ↔ 0 < positions.length := by
  have := archive.settings.clampResults_pos maxResults
  rw [List.length_take, Corpus.length_entries (lt_size_of_queryPositions found)]
  omega

/-- What is found by an accepted text, be it counted with the white space around it or without. -/
theorem queryPositions_trimmed
    (found : archive.queryPositions query = .ok positions ∨
      archive.queryPositions (.ofList (trim query.toList)) = .ok positions) :
    archive.queryPositions (.ofList (trim query.toList)) = .ok positions :=
  found.elim queryPositions_trim id

/-- The verdict is that of the mission on all that was found. -/
theorem isCorrect_search
    (found : archive.queryPositions (.ofList (trim query.toList)) = .ok positions) :
    (archive.search query mission maxResults).isCorrect =
      Mission.isCorrect (.ofList (trim query.toList)) mission positions.length := by
  by_cases blank : trim query.toList = []
  · -- The query that looks finds nothing, and nothing solves no mission.
    have nothing : positions = [] :=
      queryPositions_of_blank (by rw [String.toList_ofList, trim_trim, blank]) found
    rw [search_of_blank blank, nothing, List.length_nil, Mission.isCorrect_zero]
    rfl
  · rw [search_of_ok blank found]
    exact Mission.isCorrect_congr mission (length_take_pos_iff found)

/-- The results are the first of all entries, as many as the cap allows. -/
theorem results_search_trimmed
    (found : archive.queryPositions (.ofList (trim query.toList)) = .ok positions) :
    (archive.search query mission maxResults).results =
      (archive.corpus.entries positions).take (archive.settings.clampResults maxResults) := by
  have same : trim query.toList = trim (String.ofList (trim query.toList)).toList := by
    rw [String.toList_ofList, trim_trim]
  rw [search_congr same]
  exact results_search (Checked.map_eq_ok_iff.mpr ⟨positions, found, rfl⟩)

theorem results_search_eq_nil_iff
    (found : archive.queryPositions (.ofList (trim query.toList)) = .ok positions) :
    (archive.search query mission maxResults).results = [] ↔
      archive.corpus.entries positions = [] := by
  have := archive.settings.clampResults_pos maxResults
  rw [results_search_trimmed found, List.take_eq_nil_iff]
  exact or_iff_right (by omega)

/-! ## 3. Two searches -/

/-- The archive with another ceiling on the number of results. -/
def withCeiling (archive : Archive) (ceiling : Nat) : Archive :=
  { archive with settings := { archive.settings with maxResultsCeiling := ceiling } }

/-- The ceiling does not matter to which positions are found. -/
theorem queryPositions_withCeiling (archive : Archive) (ceiling : Nat) (query : String) :
    (archive.withCeiling ceiling).queryPositions query = archive.queryPositions query :=
  rfl

/-- No cap matters to the answer to a refused query. -/
theorem search_withCeiling_of_error {ceiling other : Nat} {error : QueryError}
    (refused : archive.queryPositions (.ofList (trim query.toList)) = .error error) :
    (archive.withCeiling ceiling).search query mission other =
      archive.search query mission maxResults := by
  have refused' := refused
  rw [← queryPositions_withCeiling archive ceiling] at refused'
  by_cases blank : trim query.toList = []
  · rw [search_of_blank blank, search_of_blank blank]
  · rw [search_of_error blank refused', search_of_error blank refused]

theorem take_prefix_or_prefix {α : Type} (items : List α) (count other : Nat) :
    items.take count <+: items.take other ∨ items.take other <+: items.take count :=
  (Nat.le_total count other).imp List.take_prefix_take_left List.take_prefix_take_left

theorem isCorrect_search_withCeiling (archive : Archive) (ceiling : Nat) (query : String)
    (mission : Option String) (maxResults other : Nat) :
    (archive.search query mission maxResults).isCorrect =
      ((archive.withCeiling ceiling).search query mission other).isCorrect := by
  cases found : archive.queryPositions (.ofList (trim query.toList)) with
  | error error => rw [search_withCeiling_of_error found]
  | ok positions =>
    have found' := found
    rw [← queryPositions_withCeiling archive ceiling] at found'
    rw [isCorrect_search found, isCorrect_search found']

theorem results_search_withCeiling (archive : Archive) (ceiling : Nat) (query : String)
    (mission : Option String) (maxResults other : Nat) :
    let first := (archive.search query mission maxResults).results
    let second := ((archive.withCeiling ceiling).search query mission other).results
    (first = [] ↔ second = []) ∧ (first <+: second ∨ second <+: first) := by
  cases found : archive.queryPositions (.ofList (trim query.toList)) with
  | error error =>
    rw [search_withCeiling_of_error found]
    exact ⟨Iff.rfl, .inl List.prefix_rfl⟩
  | ok positions =>
    have found' := found
    rw [← queryPositions_withCeiling archive ceiling] at found'
    constructor
    · exact (results_search_eq_nil_iff found).trans (results_search_eq_nil_iff found').symm
    · rw [results_search_trimmed found, results_search_trimmed found']
      exact take_prefix_or_prefix _ _ _

/-- Two searches for one text and mission, with any two numbers asked for and any two ceilings, have
the same verdict, and both have results or none. The results of one are the first of those of the
other. If the query is accepted, the verdict is that of the mission's rule, or that something is
found if the mission has none, on the number of all positions that the query finds. -/
theorem search_capped_alike (archive : Archive) (ceiling : Nat) (query : String)
    (mission : Option String) (maxResults other : Nat) :
    let text := trim query.toList
    let first := archive.search query mission maxResults
    let second := (archive.withCeiling ceiling).search query mission other
    first.isCorrect = second.isCorrect ∧
    (first.results = [] ↔ second.results = []) ∧
    (first.results <+: second.results ∨ second.results <+: first.results) ∧
    ∀ positions, archive.queryPositions query = .ok positions ∨
        archive.queryPositions (.ofList text) = .ok positions →
      first.isCorrect =
        match mission.bind Mission.rule? with
        | some rule => rule.accepts (.ofList (lowercase text)) positions.length
        | none => 0 < positions.length := by
  intro text first second
  obtain ⟨empty, ordered⟩ :=
    results_search_withCeiling archive ceiling query mission maxResults other
  refine ⟨isCorrect_search_withCeiling .., empty, ordered, fun positions found => ?_⟩
  have verdict : first.isCorrect = Mission.isCorrect (.ofList text) mission positions.length :=
    isCorrect_search (queryPositions_trimmed found)
  rw [verdict, Mission.isCorrect]
  cases mission.bind Mission.rule? with
  | none => rfl
  | some rule => simp only [String.toList_ofList]

/-- Two equal records and another one, with a ceiling of zero. -/
def cappedTwins : Archive :=
  ⟨Corpus.twins, { maxResultsCeiling := 0 }, .lenient⟩

/-- With the lowest caps a search gives one of two twins and with the highest caps both, and both
searches solve the mission. -/
theorem search_capped_alike_twins :
    let query := " user:Admin OR hour:1"
    let first := cappedTwins.search query (some "mission06") 0
    let most := UInt64.size - 1
    let second := (cappedTwins.withCeiling most).search query (some "mission06") most
    cappedTwins.queryPositions query = .ok [0, 2] ∧
    first.isCorrect = second.isCorrect ∧
    first.isCorrect =
      Mission.afterHoursAdmin.accepts (.ofList (lowercase (trim query.toList))) 2 ∧
    first.isCorrect = true ∧
    (first.results = [] ↔ second.results = []) ∧
    (first.results <+: second.results ∨ second.results <+: first.results) ∧
    first.results.length = 1 ∧ second.results.length = 2 := by
  intro query first most second
  have found : cappedTwins.queryPositions query = .ok [0, 2] := by decide +kernel
  obtain ⟨same, empty, ordered, verdict⟩ :=
    search_capped_alike cappedTwins most query (some "mission06") 0 most
  have judged := verdict [0, 2] (.inl found)
  have rule : (some "mission06").bind Mission.rule? = some Mission.afterHoursAdmin := rfl
  rw [rule] at judged
  exact ⟨found, same, judged, by decide +kernel, empty, ordered, by decide +kernel,
    by decide +kernel⟩

end Archive

end LogSearch
