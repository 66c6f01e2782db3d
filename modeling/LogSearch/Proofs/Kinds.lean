import LogSearch.Proofs.FirstSeen
import LogSearch.Proofs.Verdicts

/-!
# Kinds of outcomes

An outcome says one of five things, and its feedback tells which: by its text, and already by its
first character. The feedback agrees with all else that the outcome holds.

Results:
1. `Kind.ofStart?_of_tells`: the text of a kind starts as no text of another kind does.
2. `exists_kind_search`: every outcome of a search is of a kind, with which it agrees.
3. `search_classified`: it is of one kind only, and agrees with that kind.
-/

namespace LogSearch

open Text Mission

/-- What the feedback of an outcome says. -/
inductive Kind where
  /-- There is no query. -/
  | blank
  /-- The query is refused. -/
  | refused
  /-- Nothing is found. -/
  | nothing
  /-- The mission is solved. -/
  | solved
  /-- Something is found that does not solve the mission. -/
  | review
deriving DecidableEq, Repr

namespace Kind

/-- The kind of a feedback, by its first character. -/
def ofStart? (feedback : String) : Option Kind :=
  match feedback.toList.head? with
  | some 'E' => some .blank
  | some 'Q' => some .refused
  | some 'N' => some .nothing
  | some '🎯' | some '🌙' | some '✅' => some .solved
  | some 'F' => some .review
  | _ => none

/-- The texts of each kind, where `names` are the names of all fields of all records and `count` is
the number of results. -/
def Tells (names : List String) (count : Nat) (feedback : String) : Kind → Prop
  | .blank => feedback = "Enter a search query. Example: status:failed"
  | .refused => ∃ reason, feedback = "Query error: " ++ reason ++ ". Check your syntax!"
  | .nothing => ∃ seen, FirstSeen names seen ∧ feedback =
      "No results found. Try adjusting your query. Available fields: " ++ ", ".intercalate seen
  | .solved => Congratulates count feedback
  | .review => feedback = "Found " ++ decimalText count ++
      " results. Review them to see if they match what you're looking for."

/-! ## 1. How the kinds start -/

variable {names : List String} {count : Nat} {feedback : String} {kind other : Kind}

theorem ofStart?_of_tells (tells : kind.Tells names count feedback) :
    ofStart? feedback = some kind := by
  cases kind with
  | blank =>
    obtain rfl := tells
    rfl
  | refused =>
    obtain ⟨reason, rfl⟩ := tells
    rw [ofStart?, String.append_assoc, head?_append 'Q']
    rfl
  | nothing =>
    obtain ⟨seen, -, rfl⟩ := tells
    rw [ofStart?, head?_append 'N']
    rfl
  | solved =>
    have first : feedback.toList.head? ∈ _ := Congratulates.head? tells
    simp only [List.mem_cons, List.not_mem_nil, or_false] at first
    rcases first with first | first | first
    · rw [ofStart?, first]
      rfl
    · rw [ofStart?, first]
      rfl
    · rw [ofStart?, first]
      rfl
  | review =>
    obtain rfl := tells
    rw [ofStart?, String.append_assoc, head?_append 'F']
    rfl

theorem eq_of_tells (first : kind.Tells names count feedback)
    (second : other.Tells names count feedback) : kind = other :=
  Option.some.inj ((ofStart?_of_tells first).symm.trans (ofStart?_of_tells second))

end Kind

/-! ## 2. The kind of an outcome -/

namespace Archive

/-- The names of all fields of all records, in order. -/
def allNames (archive : Archive) : List String :=
  archive.corpus.records.flatMap Record.names

/-- What the outcome of a search for a trimmed text holds if it is of this kind, its feedback
apart. -/
structure Agrees (archive : Archive) (text : List Char) (mission : Option String)
    (outcome : Outcome) (kind : Kind) : Prop where
  blank : kind = .blank ↔ text = []
  refused : kind = .refused ↔
    text ≠ [] ∧ ∃ error, archive.queryPositions (.ofList text) = .error error
  results : outcome.results = [] ↔ kind ∈ [.blank, .refused, .nothing]
  total : outcome.totalMatches = 0 ↔ kind ∈ [.blank, .refused, .nothing]
  correct : outcome.isCorrect = true ↔ kind = .solved
  count : kind = .solved → 0 < outcome.totalMatches
  rule : kind = .solved → ∀ rule, mission.bind rule? = some rule →
    rule.accepts (.ofList (lowercase text)) outcome.totalMatches = true

variable {archive : Archive} {text : List Char} {mission : Option String}

theorem answer_of_nil :
    archive.answer (.ofList text) mission [] =
      .empty (.ofList text) (nothingFoundFeedback archive.corpus.fieldNames) := by
  simp only [answer, assess, List.length_nil, isCorrect_zero]
  rfl

theorem answer_of_correct {entries : List Entry} (some : entries ≠ [])
    (correct : Mission.isCorrect (.ofList text) mission entries.length = true) :
    archive.answer (.ofList text) mission entries =
      ⟨.ofList text, entries.length, entries, true, solvedFeedback mission entries⟩ := by
  simp only [answer, assess, correct, List.isEmpty_iff, some, if_false, if_true]

theorem answer_of_incorrect {entries : List Entry} (some : entries ≠ [])
    (incorrect : Mission.isCorrect (.ofList text) mission entries.length = false) :
    archive.answer (.ofList text) mission entries =
      ⟨.ofList text, entries.length, entries, false, reviewFeedback entries⟩ := by
  simp only [answer, assess, incorrect, List.isEmpty_iff, some, if_false, Bool.false_eq_true]

/-- The judgement of results is of one of the last three kinds. -/
theorem exists_kind_answer (some : text ≠ []) {positions : List Nat}
    (found : archive.queryPositions (.ofList text) = .ok positions) (entries : List Entry) :
    ∃ kind,
      Kind.Tells archive.allNames (archive.answer (.ofList text) mission entries).totalMatches
        (archive.answer (.ofList text) mission entries).feedback kind ∧
      Agrees archive text mission (archive.answer (.ofList text) mission entries) kind := by
  by_cases empty : entries = []
  · rw [empty, answer_of_nil]
    refine ⟨.nothing, ⟨_, firstSeen_fieldNames archive.corpus, rfl⟩, ?_⟩
    constructor <;> simp [Outcome.empty, some, found]
  · rcases Bool.eq_false_or_eq_true
      (Mission.isCorrect (.ofList text) mission entries.length) with correct | incorrect
    · rw [answer_of_correct empty correct]
      refine ⟨.solved, congratulates_solvedFeedback mission entries, ?_⟩
      constructor
      case count => exact fun _ => pos_of_isCorrect correct
      case rule => exact fun _ rule known => accepts_of_isCorrect known correct
      all_goals simp [some, found, empty]
    · rw [answer_of_incorrect empty incorrect]
      refine ⟨.review, rfl, ?_⟩
      constructor <;> simp [some, found, empty]

theorem exists_kind_search (archive : Archive) (query : String) (mission : Option String)
    (maxResults : Nat) :
    ∃ kind,
      Kind.Tells archive.allNames (archive.search query mission maxResults).totalMatches
        (archive.search query mission maxResults).feedback kind ∧
      Agrees archive (trim query.toList) mission (archive.search query mission maxResults)
        kind := by
  by_cases blank : trim query.toList = []
  · rw [search_of_blank blank]
    refine ⟨.blank, rfl, ?_⟩
    constructor <;> simp [blank, Outcome.empty]
  · cases found : archive.queryPositions (.ofList (trim query.toList)) with
    | error error =>
      rw [search_of_error blank found]
      refine ⟨.refused, ⟨_, rfl⟩, ?_⟩
      constructor <;> simp [blank, found, Outcome.empty]
    | ok positions =>
      rw [search_of_ok blank found]
      exact exists_kind_answer blank found _

/-! ## 3. All outcomes -/

/-- Every outcome is of exactly one kind by the text of its feedback, which quotes the number of
results where there are some and lists the fields where there are none. The first character gives
the kind away, and the rest of the outcome agrees with it. -/
theorem search_classified (archive : Archive) (query : String) (mission : Option String)
    (maxResults : Nat) :
    let outcome := archive.search query mission maxResults
    let tells := Kind.Tells archive.allNames outcome.totalMatches outcome.feedback
    (∃! kind, tells kind) ∧
    ∀ kind, tells kind →
      Kind.ofStart? outcome.feedback = some kind ∧
      Agrees archive (trim query.toList) mission outcome kind := by
  intro outcome tells
  obtain ⟨kind, told, agrees⟩ := exists_kind_search archive query mission maxResults
  refine ⟨⟨kind, told, fun other toldOther => Kind.eq_of_tells toldOther told⟩, ?_⟩
  intro other toldOther
  obtain rfl := Kind.eq_of_tells toldOther told
  exact ⟨Kind.ofStart?_of_tells told, agrees⟩

/-- One of two twins solves a search without mission and does not solve a mission; a text of nine
characters is refused, and one that stands nowhere finds nothing. -/
theorem search_classified_twins :
    let solved := cappedTwins.search " hour:1" none 7
    let review := cappedTwins.search "hour:1" (some "mission03") 7
    let refused := narrowTwins.search "user:adam" (some "mission03") 7
    let nothing := narrowTwins.search "user:c" none 7
    (Kind.Tells cappedTwins.allNames solved.totalMatches solved.feedback .solved ∧
      Kind.ofStart? solved.feedback = some .solved ∧
      Agrees cappedTwins "hour:1".toList none solved .solved) ∧
    (Kind.Tells cappedTwins.allNames review.totalMatches review.feedback .review ∧
      Kind.ofStart? review.feedback = some .review ∧
      Agrees cappedTwins "hour:1".toList (some "mission03") review .review) ∧
    (Kind.Tells narrowTwins.allNames refused.totalMatches refused.feedback .refused ∧
      Kind.ofStart? refused.feedback = some .refused ∧
      Agrees narrowTwins "user:adam".toList (some "mission03") refused .refused) ∧
    (Kind.Tells narrowTwins.allNames nothing.totalMatches nothing.feedback .nothing ∧
      Kind.ofStart? nothing.feedback = some .nothing ∧
      Agrees narrowTwins "user:c".toList none nothing .nothing) := by
  intro solved review refused nothing
  have toldSolved :
      Kind.Tells cappedTwins.allNames solved.totalMatches solved.feedback .solved :=
    ⟨"✅", by decide, "matching entries.", by decide +kernel⟩
  have toldReview :
      Kind.Tells cappedTwins.allNames review.totalMatches review.feedback .review := by
    show review.feedback = _
    decide +kernel
  have toldRefused :
      Kind.Tells narrowTwins.allNames refused.totalMatches refused.feedback .refused :=
    ⟨(QueryError.tooLong 9 8).message, by decide +kernel⟩
  have toldNothing :
      Kind.Tells narrowTwins.allNames nothing.totalMatches nothing.feedback .nothing :=
    ⟨_, firstSeen_fieldNames narrowTwins.corpus, by decide +kernel⟩
  exact ⟨⟨toldSolved, (search_classified cappedTwins " hour:1" none 7).2 _ toldSolved⟩,
    ⟨toldReview, (search_classified cappedTwins "hour:1" (some "mission03") 7).2 _ toldReview⟩,
    ⟨toldRefused, (search_classified narrowTwins "user:adam" (some "mission03") 7).2 _ toldRefused⟩,
    ⟨toldNothing, (search_classified narrowTwins "user:c" none 7).2 _ toldNothing⟩⟩

end Archive

end LogSearch
