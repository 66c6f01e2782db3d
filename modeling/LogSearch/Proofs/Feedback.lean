import LogSearch.Mission

/-!
# How feedback starts

The first character of a feedback tells a refusal from every judgement of results.
-/

namespace LogSearch.Mission

open Text

theorem head?_append (c : Char) (start : List Char) (rest : String) :
    (String.ofList (c :: start) ++ rest).toList.head? = some c := by
  rw [String.toList_append, String.toList_ofList]
  rfl

theorem head?_refusedFeedback (reason : String) :
    (refusedFeedback reason).toList.head? = some 'Q' := by
  rw [refusedFeedback, String.append_assoc]
  exact head?_append 'Q' _ _

theorem head?_nothingFoundFeedback (fields : List String) :
    (nothingFoundFeedback fields).toList.head? = some 'N' :=
  head?_append 'N' _ _

theorem head?_reviewFeedback (entries : List Entry) :
    (reviewFeedback entries).toList.head? = some 'F' := by
  rw [reviewFeedback, String.append_assoc]
  exact head?_append 'F' _ _

/-! ## Congratulations -/

/-- The signs with which congratulations start. -/
def signs : List String :=
  ["🎯", "🌙", "✅"]

/-- After a sign, the text names a number of entries. -/
def Congratulates (count : Nat) (text : String) : Prop :=
  ∃ sign ∈ signs, ∃ rest, text = sign ++ " Found " ++ decimalText count ++ " " ++ rest

theorem Congratulates.intro {count : Nat} {text : String} (sign : String)
    (member : sign ∈ signs) {rest : String} (space : rest.toList.head? = some ' ')
    (parts : text = sign ++ " Found " ++ decimalText count ++ rest) : Congratulates count text := by
  obtain ⟨others, letters⟩ := List.head?_eq_some_iff.mp space
  refine ⟨sign, member, String.ofList others, ?_⟩
  have split : rest = " " ++ String.ofList others := by
    rw [← String.ofList_toList (s := rest), letters]
    exact String.ofList_cons
  rw [parts, split, ← String.append_assoc]

theorem congratulates_congratulate {rule : Rule} (known : rule ∈ rules) (entries : List Entry) :
    Congratulates entries.length (rule.congratulate entries) := by
  rcases List.mem_cons.mp known with rfl | known
  · -- Whichever way the text goes on, it opens with the number of events.
    have opening (rest : String) : Congratulates entries.length
        ("🎯 Found " ++ decimalText entries.length ++ " failed events! " ++ rest) :=
      .intro "🎯" (by decide) (head?_append ' ' _ rest) String.append_assoc
    simp only [failedLogins]
    split
    · split
      · simpa only [String.append_assoc] using opening _
      · exact opening _
    · exact opening _
  · rcases List.mem_singleton.mp known with rfl
    exact .intro "🌙" (by decide) rfl rfl

theorem congratulates_solvedFeedback (mission : Option String) (entries : List Entry) :
    Congratulates entries.length (solvedFeedback mission entries) := by
  unfold solvedFeedback
  split
  · rename_i rule found
    obtain ⟨id, -, found⟩ := Option.bind_eq_some_iff.mp found
    exact congratulates_congratulate (List.mem_of_find?_eq_some found) entries
  · exact .intro "✅" (by decide) rfl rfl

theorem Congratulates.head? {count : Nat} {text : String}
    (congratulates : Congratulates count text) :
    text.toList.head? ∈ [some '🎯', some '🌙', some '✅'] := by
  obtain ⟨sign, member, rest, rfl⟩ := congratulates
  simp only [String.append_assoc]
  simp only [signs, List.mem_cons, List.not_mem_nil, or_false] at member
  rcases member with rfl | rfl | rfl
  · rw [head?_append '🎯' []]
    decide
  · rw [head?_append '🌙' []]
    decide
  · rw [head?_append '✅' []]
    decide

theorem head?_solvedFeedback (mission : Option String) (entries : List Entry) :
    (solvedFeedback mission entries).toList.head? ∈ [some '🎯', some '🌙', some '✅'] :=
  (congratulates_solvedFeedback mission entries).head?

/-- No judgement of results reads like a refusal. -/
theorem feedback_assess_ne_refusedFeedback (query : String) (mission : Option String)
    (entries : List Entry) (fields : List String) (reason : String) :
    (assess query mission entries fields).feedback ≠ refusedFeedback reason := by
  intro same
  have first := head?_refusedFeedback reason
  rw [← same] at first
  simp only [assess] at first
  split at first
  · rw [head?_nothingFoundFeedback] at first
    exact absurd first (by decide)
  · split at first
    · have solved := head?_solvedFeedback mission entries
      rw [first] at solved
      exact absurd solved (by decide)
    · rw [head?_reviewFeedback] at first
      exact absurd first (by decide)

end LogSearch.Mission
