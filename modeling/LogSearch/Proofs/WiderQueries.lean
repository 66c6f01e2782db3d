import LogSearch.Proofs.LetterCase
import LogSearch.Proofs.Verdicts

/-!
# Wider queries

A rule asks whether words stand in the lowercase of the query. More text around the query can
change that lowercase, since a capital sigma may end a word in the query and not in the wider text.
But that is all it changes, and no rule asks for a word with a sigma. So a query that solves a
mission still solves it as a part of a longer one.

* `joinSigmas`: the two small sigmas made one.
* `Steady word`: a word without a small sigma.

Results:
1. `map_joinSigmas_lowercaseWithin`: the lowercase of a piece of a text is that of the piece by
   itself, but for the two small sigmas.
2. `infix_lowercase_append`: so a steady word stays where it stands.
3. `accepts_mono`: all words that the rules ask for are steady.
4. `isCorrect_wider`: verdicts.
-/

namespace LogSearch

namespace Text

/-! ## 1. The lowercase of a piece -/

/-- The final sigma made a sigma like any other. -/
def joinSigmas (c : Char) : Char :=
  if c = 'ς' then 'σ' else c

/-- A word that no small sigma stands in. -/
def Steady (word : List Char) : Prop :=
  ∀ c ∈ word, c ≠ 'σ' ∧ c ≠ 'ς'

instance (word : List Char) : Decidable (Steady word) :=
  decidable_of_iff (word.all (fun c => c != 'σ' && c != 'ς') = true) (by simp [Steady])

variable {before piece after word text other : List Char}

theorem map_joinSigmas_lowercaseAt (before : List Char) (c : Char) (after : List Char) :
    (lowercaseAt before c after).map joinSigmas = (lowercaseChar c).map joinSigmas := by
  unfold lowercaseAt
  split
  · rename_i final
    rw [final.1, lowercaseChar_sigma]
    rfl
  · rfl

/-- But for its sigmas, no character looks at its neighbours. -/
theorem map_joinSigmas_lowercaseWithin (before piece after : List Char) :
    (lowercaseWithin before piece after).map joinSigmas =
      (piece.flatMap lowercaseChar).map joinSigmas := by
  induction piece generalizing before with
  | nil => rfl
  | cons c piece ih =>
    rw [lowercaseWithin, List.flatMap_cons, List.map_append, List.map_append,
      map_joinSigmas_lowercaseAt, ih]

/-! ## 2. Words in a piece -/

theorem eq_of_joinSigmas_eq {c d : Char} (steady : c ≠ 'σ' ∧ c ≠ 'ς')
    (same : joinSigmas d = joinSigmas c) : d = c := by
  rw [joinSigmas, joinSigmas, if_neg steady.2] at same
  split at same
  · exact absurd same.symm steady.1
  · exact same

theorem Steady.eq_of_map_eq (steady : Steady word)
    (same : text.map joinSigmas = word.map joinSigmas) : text = word := by
  induction word generalizing text with
  | nil => exact List.map_eq_nil_iff.mp same
  | cons c word ih =>
    obtain ⟨d, text, rfl, first, rest⟩ := List.map_eq_cons_iff.mp same
    obtain ⟨steadyFirst, steadyRest⟩ := List.forall_mem_cons.mp steady
    rw [eq_of_joinSigmas_eq steadyFirst first, ih steadyRest rest]

/-- A steady word stands in every text that is the same but for the small sigmas. -/
theorem Steady.infix_of_map_eq (steady : Steady word) (stands : word <:+: text)
    (same : other.map joinSigmas = text.map joinSigmas) : word <:+: other := by
  obtain ⟨left, right, rfl⟩ := stands
  rw [List.map_append, List.map_append] at same
  obtain ⟨front, right', rfl, fronts, -⟩ := List.map_eq_append_iff.mp same
  obtain ⟨left', word', rfl, -, words⟩ := List.map_eq_append_iff.mp fronts
  rw [steady.eq_of_map_eq words]
  exact ⟨left', right', rfl⟩

theorem Steady.infix_lowercase_append (steady : Steady word) (stands : word <:+: lowercase piece)
    (before after : List Char) : word <:+: lowercase (before ++ piece ++ after) := by
  have same : (lowercaseWithin before.reverse piece after).map joinSigmas =
      (lowercase piece).map joinSigmas := by
    rw [lowercase_eq_lowercaseWithin, map_joinSigmas_lowercaseWithin,
      map_joinSigmas_lowercaseWithin]
  rw [lowercase_append, ← List.append_assoc]
  exact (steady.infix_of_map_eq stands same).trans ⟨_, _, rfl⟩

end Text

open Text

namespace Mission

/-! ## 3. Rules -/

/-- Every steady word of the query stands in the other one. -/
def Covers (other query : String) : Prop :=
  ∀ word : String, Steady word.toList → mentions query word = true → mentions other word = true

theorem accepts_mono {rule : Rule} (known : rule ∈ rules) {query other : String}
    (covers : Covers other query) {count found : Nat} (some : 0 < found)
    (accepted : rule.accepts query count = true) : rule.accepts other found = true := by
  rcases List.mem_cons.mp known with rfl | known
  · simp only [failedLogins, Bool.and_eq_true, Bool.or_eq_true, decide_eq_true_eq] at accepted ⊢
    obtain ⟨-, whole | ⟨status, failed⟩⟩ := accepted
    · exact ⟨some, .inl (covers _ (by decide) whole)⟩
    · exact ⟨some, .inr ⟨covers _ (by decide) status, covers _ (by decide) failed⟩⟩
  · rcases List.mem_singleton.mp known with rfl
    simp only [afterHoursAdmin, Bool.and_eq_true, List.any_eq_true, decide_eq_true_eq] at accepted ⊢
    obtain ⟨⟨-, admin⟩, hint, listed, mentioned⟩ := accepted
    have steady : ["hour", "23", "02", "03", "night"].all (fun hint => Steady hint.toList) := by
      decide
    have steadyHint : Steady hint.toList :=
      of_decide_eq_true (List.all_eq_true.mp steady hint listed)
    exact ⟨⟨some, covers _ (by decide) admin⟩, hint, listed, covers hint steadyHint mentioned⟩

/-! ## 4. Verdicts -/

theorem covers_append (before query after : String) :
    Covers (.ofList (lowercase (before ++ query ++ after).toList))
      (.ofList (lowercase query.toList)) := by
  intro word steady stands
  rw [mentions, occurs_iff, String.toList_ofList] at stands ⊢
  rw [String.toList_append, String.toList_append]
  exact steady.infix_lowercase_append stands _ _

theorem isCorrect_append {query : String} {mission : Option String} {count found : Nat}
    (solved : isCorrect query mission count = true) (some : 0 < found) (before after : String) :
    isCorrect (before ++ query ++ after) mission found = true := by
  unfold isCorrect at solved ⊢
  cases known : mission.bind rule? with
  | none => exact decide_eq_true some
  | some rule =>
    rw [known] at solved
    exact accepts_mono (mem_rules_of_bind known) (covers_append before query after) some solved

theorem isCorrect_eq_of_alike {query other : String} (alike : Alike query other)
    (mission : Option String) (count : Nat) :
    isCorrect query mission count = isCorrect other mission count := by
  unfold isCorrect
  rw [alike.lowercase_eq]

/-- A query that solves a mission solves it as a part of any longer one, as long as anything is
found. The case of ASCII letters does not count, and where nothing is found no mission is solved. -/
theorem isCorrect_wider (query : String) (mission : Option String) (count : Nat) :
    (isCorrect query mission count = true → ∀ before after found, 1 ≤ found →
      isCorrect (before ++ query ++ after) mission found = true) ∧
    (∀ other, Alike query other →
      isCorrect other mission count = isCorrect query mission count) ∧
    isCorrect query mission 0 = false :=
  ⟨fun solved before after _ some => isCorrect_append solved some before after,
    fun _ alike => (isCorrect_eq_of_alike alike mission count).symm, isCorrect_zero query mission⟩

/-- Behind the words that the rule asks for, a sigma ends the query but not the wider one. So the
lowercase of the query does not stand in that of the wider one, but the mission is solved. -/
theorem isCorrect_wider_sigma :
    isCorrect "admin 23 ΑΣ" (some "mission06") 1 = true ∧
    ¬ lowercase "admin 23 ΑΣ".toList <:+: lowercase ("x" ++ "admin 23 ΑΣ" ++ "Α").toList ∧
    isCorrect ("x" ++ "admin 23 ΑΣ" ++ "Α") (some "mission06") 7 = true ∧
    Alike "admin 23 ΑΣ" "AdMIN 23 ΑΣ" ∧ isCorrect "AdMIN 23 ΑΣ" (some "mission06") 1 = true ∧
    isCorrect "admin 23 ΑΣ" (some "mission06") 0 = false := by
  have solved : isCorrect "admin 23 ΑΣ" (some "mission06") 1 = true := by decide +kernel
  have alike : Alike "admin 23 ΑΣ" "AdMIN 23 ΑΣ" := by decide
  obtain ⟨wider, sameCase, nothing⟩ := isCorrect_wider "admin 23 ΑΣ" (some "mission06") 1
  refine ⟨solved, by decide +kernel, wider solved "x" "Α" 7 (by decide), alike, ?_, nothing⟩
  rw [sameCase _ alike, solved]

end Mission

end LogSearch
