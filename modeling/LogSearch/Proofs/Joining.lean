import LogSearch.Proofs.Splitting
import Mathlib.Data.List.Infix

/-!
# Joined fragments

A query is written by putting separators between fragments, with any white space and the keyword in
any letter case. `Joined` says how; reading the text gives the fragments back.

* A keyword that ends a fragment must not be behind white space: the separator after it would lend
  it the white space that it lacks. The last fragment has no separator after it.
* A fragment may be a bare keyword or begin with one. The white space before it belongs to the
  separator.

Results:
1. `Cut.unique`: a text has one cut only.
2. `cut_joined`: the fragments of a joined text are a cut of it.
3. `parse_joined`: the clauses of a joined text are those of its fragments.
-/

namespace LogSearch.Keyword

open Text

/-! ## Specification -/

/-- White space and the word in any letter case stand at the end of the text. -/
def EndsWithWord (word text : List Char) : Prop :=
  ∃ before blank key, text = before ++ blank :: key ∧ isBlank blank = true ∧
    key.map Char.toUpper = word

instance (word text : List Char) : Decidable (EndsWithWord word text) :=
  decidable_of_iff
    (∃ tail ∈ text.tails, tail.head?.any isBlank = true ∧ tail.tail.map Char.toUpper = word) (by
      simp only [List.mem_tails]
      constructor
      · rintro ⟨tail, ⟨before, rfl⟩, first, spelled⟩
        cases tail with
        | nil => exact absurd first (by simp)
        | cons blank key => exact ⟨before, blank, key, rfl, first, spelled⟩
      · rintro ⟨before, blank, key, rfl, isBlank, spelled⟩
        exact ⟨blank :: key, ⟨before, rfl⟩, isBlank, spelled⟩)

theorem isSeparator_iff {word : List Char} (solid : Solid word) (separator : List Char) :
    IsSeparator word separator ↔ afterSeparator? word separator = some [] := by
  rw [afterSeparator?_eq_some_iff solid]
  constructor
  · intro is
    exact ⟨separator, (List.append_nil _).symm, is, by simp⟩
  · rintro ⟨_, rfl, is, -⟩
    rwa [List.append_nil]

/-- A fragment as separators leave it: a text without separator, and without white space at its
ends. -/
structure IsFragment (word fragment : List Char) : Prop where
  some : fragment ≠ []
  bare : Bare isBlank fragment
  clear : ¬ HasSeparator word fragment

theorem isFragment_iff {word : List Char} (solid : Solid word) (fragment : List Char) :
    IsFragment word fragment ↔
      fragment ≠ [] ∧ Bare isBlank fragment ∧ ¬ 2 ≤ (split word fragment).length := by
  rw [← hasSeparator_iff solid]
  constructor
  · rintro ⟨nonempty, bare, clear⟩
    exact ⟨nonempty, bare, clear⟩
  · rintro ⟨nonempty, bare, clear⟩
    exact ⟨nonempty, bare, clear⟩

/-- `Joined word fragments text`: the text is made of the fragments, with a separator between each
two. None but the last ends with white space and the word. -/
inductive Joined (word : List Char) : List (List Char) → List Char → Prop
  | last {fragment : List Char} : Joined word [fragment] fragment
  | next {fragment separator text : List Char} {fragments : List (List Char)} :
      ¬ EndsWithWord word fragment → IsSeparator word separator → Joined word fragments text →
      Joined word (fragment :: fragments) (fragment ++ separator ++ text)

/-! ## 1. Uniqueness of cuts -/

variable {word text : List Char} {fragments : List (List Char)}

theorem Cut.unique (solid : Solid word) {others : List (List Char)} (cut : Cut word text fragments)
    (other : Cut word text others) : fragments = others := by
  induction cut generalizing others with
  | whole absent =>
    cases other with
    | whole => rfl
    | next is => exact absurd ⟨_, _, _, rfl, is⟩ absent
  | @next fragment separator rest fragments is leftmost stop _ ih =>
    generalize whole : fragment ++ separator ++ rest = text at other
    cases other with
    | whole absent => exact absurd ⟨fragment, separator, rest, whole.symm, is⟩ absent
    | @next fragment' separator' rest' fragments' is' leftmost' stop' other =>
      -- Neither of the two first fragments is longer than the other.
      have shorter := leftmost fragment' ⟨separator', rest', whole, is'⟩
      have longer := leftmost' fragment ⟨separator, rest, whole.symm, is⟩
      rw [List.append_assoc, List.append_assoc] at whole
      obtain ⟨rfl, tails⟩ := List.append_inj whole (Nat.le_antisymm shorter longer)
      have read := (afterSeparator?_eq_some_iff solid).mpr ⟨separator, rfl, is, stop⟩
      have read' := (afterSeparator?_eq_some_iff solid).mpr ⟨separator', rfl, is', stop'⟩
      rw [tails, read'] at read
      rw [ih (Option.some.inj read ▸ other)]

/-! ## 2. The cut of a joined text -/

theorem not_isBlank_of_mem (solid : Solid word) {key : List Char}
    (spelled : key.map Char.toUpper = word) : ∀ c ∈ key, isBlank c = false := by
  intro c member
  have upper : isBlank c.toUpper = false := solid.2 _ (spelled ▸ List.mem_map_of_mem member)
  cases blank : isBlank c with
  | false => rfl
  | true => rw [toUpper_of_isBlank blank, blank] at upper; exact upper

/-- A keyword behind white space ends where the separator after it starts, or is followed by white
space before that. -/
theorem endsWithWord_or_hasSeparator (solid : Solid word) (before : List Char)
    {tail key rest more : List Char} {blank c : Char} (isBlank_blank : isBlank blank = true)
    (spelled : key.map Char.toUpper = word) (isBlank_c : isBlank c = true)
    (parts : tail ++ c :: rest = key ++ more) (follows : ∀ d ∈ more.head?, isBlank d = true) :
    EndsWithWord word (before ++ blank :: tail) ∨ HasSeparator word (before ++ blank :: tail) := by
  cases List.append_eq_append_iff.mp parts with
  | inl longer =>
    obtain ⟨inside, rfl, beyond⟩ := longer
    cases inside with
    | nil => exact .inl ⟨before, blank, tail, rfl, isBlank_blank, by simpa using spelled⟩
    | cons d inside =>
      -- The keyword would hold the white space of the separator.
      have inKey := not_isBlank_of_mem solid spelled c
        (List.mem_append_right tail ((List.cons.inj beyond).1 ▸ List.mem_cons_self))
      rw [isBlank_c] at inKey
      exact Bool.noConfusion inKey
  | inr shorter =>
    obtain ⟨inside, rfl, rfl⟩ := shorter
    cases inside with
    | nil => exact .inl ⟨before, blank, key, by simp, isBlank_blank, spelled⟩
    | cons d inside =>
      refine .inr ⟨before, [blank] ++ key ++ [d], inside, by simp, [blank], key, [d], rfl, ?_,
        spelled, ?_⟩
      · simp [isBlank_blank]
      · simpa using follows d rfl

/-- The separator after a fragment is the first one: none starts within the fragment. -/
theorem IsFragment.leftmost (solid : Solid word) {fragment separator rest : List Char}
    (is : IsFragment word fragment) (free : ¬ EndsWithWord word fragment)
    (isSeparator : IsSeparator word separator) :
    ∀ before, SeparatorAfter word before (fragment ++ separator ++ rest) →
      fragment.length ≤ before.length := by
  rintro before ⟨inner, after, parts, blanks, key, blanks', rfl, ⟨some₁, blank₁⟩, spelled,
    some₂, blank₂⟩
  refine Nat.le_of_not_lt fun sooner => ?_
  obtain ⟨c, separator', rfl, isBlank_c⟩ := isSeparator.exists_cons
  rw [List.append_assoc, List.append_assoc, List.append_assoc, List.append_assoc,
    List.cons_append] at parts
  -- The earlier separator starts within the fragment,
  obtain ⟨front, rfl, fromBlanks⟩ : ∃ front, fragment = before ++ front ∧
      front ++ c :: (separator' ++ rest) = blanks ++ (key ++ (blanks' ++ after)) := by
    cases List.append_eq_append_iff.mp parts with
    | inl longer =>
      obtain ⟨_, rfl, -⟩ := longer
      simp only [List.length_append] at sooner
      omega
    | inr shorter =>
      obtain ⟨front, rfl, rest⟩ := shorter
      exact ⟨front, rfl, rest.symm⟩
  have frontSome : front ≠ [] := by
    rintro rfl
    simp at sooner
  -- which does not end with white space, and so the keyword starts within it, too.
  obtain ⟨tail, rfl, fromKey⟩ : ∃ tail, front = blanks ++ tail ∧
      tail ++ c :: (separator' ++ rest) = key ++ (blanks' ++ after) := by
    cases List.append_eq_append_iff.mp fromBlanks with
    | inl longer =>
      obtain ⟨inside, rfl, -⟩ := longer
      obtain ⟨front, d, rfl⟩ := (List.eq_nil_or_concat front).resolve_left frontSome
      have ends := is.bare.2 d (by simp)
      rw [blank₁ d (by simp)] at ends
      exact Bool.noConfusion ends
    | inr shorter =>
      obtain ⟨tail, rfl, rest⟩ := shorter
      exact ⟨tail, rfl, rest.symm⟩
  obtain ⟨init, blank, rfl⟩ := (List.eq_nil_or_concat blanks).resolve_left some₁
  obtain ⟨e, blanks', rfl⟩ := List.exists_cons_of_ne_nil some₂
  have follows : ∀ d ∈ (e :: blanks' ++ after).head?, isBlank d = true := by
    rintro d ⟨⟩
    exact blank₂ _ List.mem_cons_self
  have here := endsWithWord_or_hasSeparator solid (before ++ init)
    (blank₁ blank (by simp)) spelled isBlank_c fromKey follows
  have whole : before ++ (init.concat blank ++ tail) = before ++ init ++ blank :: tail := by simp
  rw [whole] at is free
  exact here.elim free is.clear

theorem Joined.bare (joined : Joined word fragments text)
    (each : ∀ fragment ∈ fragments, IsFragment word fragment) : text ≠ [] ∧ Bare isBlank text := by
  induction joined with
  | @last fragment =>
    have is := each fragment List.mem_cons_self
    exact ⟨is.some, is.bare⟩
  | @next fragment separator text fragments _ _ _ ih =>
    have is := each fragment List.mem_cons_self
    obtain ⟨some, bare⟩ := ih fun other member => each other (List.mem_cons_of_mem _ member)
    refine ⟨by simp [some], fun c first => is.bare.1 c ?_, fun c last => bare.2 c ?_⟩
    · rwa [List.append_assoc, List.head?_append_of_ne_nil _ is.some] at first
    · rwa [List.getLast?_append_of_ne_nil _ some] at last

theorem Joined.cut (solid : Solid word) (joined : Joined word fragments text)
    (each : ∀ fragment ∈ fragments, IsFragment word fragment) : Cut word text fragments := by
  induction joined with
  | @last fragment => exact .whole (each fragment List.mem_cons_self).clear
  | @next fragment separator text fragments free isSeparator joined ih =>
    have is := each fragment List.mem_cons_self
    have others : ∀ other ∈ fragments, IsFragment word other :=
      fun other member => each other (List.mem_cons_of_mem _ member)
    exact .next isSeparator (is.leftmost solid free isSeparator) (joined.bare others).2.1
      (ih others)

theorem Joined.trim_eq (joined : Joined word fragments text)
    (each : ∀ fragment ∈ fragments, IsFragment word fragment) : trim text = text :=
  strip_eq_self (joined.bare each).2

end LogSearch.Keyword

/-! ## 3. Reading back -/

namespace LogSearch.Query

open Text Keyword

variable {compiler : Pattern.Compiler} {word text : List Char} {fragments : List (List Char)}
variable {clauses : List Clause}

/-- Each fragment is read as the clause at its place. -/
def Reads (compiler : Pattern.Compiler) (fragments : List (List Char)) (clauses : List Clause) :
    Prop :=
  List.Forall₂ (fun fragment clause => Clause.parse compiler (.ofList fragment) = .ok clause)
    fragments clauses

/-- What is read from the fragments of a joined text. -/
theorem readClauses_of_joined (solid : Solid word) (joined : Joined word fragments text)
    (each : ∀ fragment ∈ fragments, IsFragment word fragment)
    (read : Reads compiler fragments clauses) {others : List (List Char)}
    (cut : Fragments word text others) : readClauses compiler others = .ok clauses := by
  rw [cut.1.unique solid (joined.cut solid each)]
  exact Checked.mapM_eq_ok_iff.mpr read

/-- Fragments joined by `AND`, whose clauses can be read, give the conjunction of those clauses.
Fragments joined by `OR` give their disjunction, unless a separator of `AND` stands in the text. -/
theorem parse_joined (fragments : List (List Char)) (several : 2 ≤ fragments.length)
    (clauses : List Clause) (read : Reads compiler fragments clauses) (text : List Char) :
    ((∀ fragment ∈ fragments, IsFragment andWord fragment) → Joined andWord fragments text →
      Query.parse compiler (.ofList text) = .ok (.allOf clauses)) ∧
    ((∀ fragment ∈ fragments, IsFragment orWord fragment) → Joined orWord fragments text →
      ¬ HasSeparator andWord text →
      Query.parse compiler (.ofList text) = .ok (.anyOf clauses)) := by
  constructor
  · intro each joined
    have trimmed : trim (String.ofList text).toList = text := by
      rw [String.toList_ofList, joined.trim_eq each]
    have has : HasSeparator andWord text :=
      (joined.cut solid_andWord each).two_le_length_iff.mp several
    obtain ⟨others, cut, parse⟩ := parse_of_and (trimmed.symm ▸ has)
    rw [trimmed] at cut
    rw [parse, readClauses_of_joined solid_andWord joined each read cut]
    rfl
  · intro each joined hasNoAnd
    have trimmed : trim (String.ofList text).toList = text := by
      rw [String.toList_ofList, joined.trim_eq each]
    have has : HasSeparator orWord text :=
      (joined.cut solid_orWord each).two_le_length_iff.mp several
    obtain ⟨others, cut, parse⟩ := parse_of_or (trimmed.symm ▸ hasNoAnd) (trimmed.symm ▸ has)
    rw [trimmed] at cut
    rw [parse, readClauses_of_joined solid_orWord joined each read cut]
    rfl

/-- Bare keywords as fragments, fragments that begin with one, and a keyword at the very end. -/
theorem parse_joined_keywords :
    let both := ["AND".toList, "and b".toList, "x:1 and".toList]
    let either := ["AND".toList, "OR".toList, "or\tx OR".toList]
    (2 ≤ both.length ∧
      Reads .lenient both [.freeText "AND", .freeText "and b", .equals "x" "1 and"] ∧
      (∀ fragment ∈ both, IsFragment andWord fragment) ∧
      Joined andWord both "AND \u3000anD\tand b AND x:1 and".toList ∧
      Query.parse .lenient (.ofList "AND \u3000anD\tand b AND x:1 and".toList) =
        .ok (.allOf [.freeText "AND", .freeText "and b", .equals "x" "1 and"])) ∧
    (2 ≤ either.length ∧
      Reads .lenient either [.freeText "AND", .freeText "OR", .freeText "or\tx OR"] ∧
      (∀ fragment ∈ either, IsFragment orWord fragment) ∧
      Joined orWord either "AND or OR  oR or\tx OR".toList ∧
      ¬ HasSeparator andWord "AND or OR  oR or\tx OR".toList ∧
      Query.parse .lenient (.ofList "AND or OR  oR or\tx OR".toList) =
        .ok (.anyOf [.freeText "AND", .freeText "OR", .freeText "or\tx OR"])) := by
  intro both either
  have readBoth : Reads .lenient both [.freeText "AND", .freeText "and b", .equals "x" "1 and"] :=
    .cons (by decide +kernel) (.cons (by decide +kernel) (.cons (by decide +kernel) .nil))
  have eachBoth : ∀ fragment ∈ both, IsFragment andWord fragment := by
    simp only [isFragment_iff solid_andWord]
    decide +kernel
  have joinedBoth : Joined andWord both "AND \u3000anD\tand b AND x:1 and".toList := by
    have first := (isSeparator_iff solid_andWord " \u3000anD\t".toList).mpr (by decide)
    have second := (isSeparator_iff solid_andWord " AND ".toList).mpr (by decide)
    exact .next (by decide) first (.next (by decide) second .last)
  have readEither : Reads .lenient either [.freeText "AND", .freeText "OR", .freeText "or\tx OR"] :=
    .cons (by decide +kernel) (.cons (by decide +kernel) (.cons (by decide +kernel) .nil))
  have eachEither : ∀ fragment ∈ either, IsFragment orWord fragment := by
    simp only [isFragment_iff solid_orWord]
    decide +kernel
  have joinedEither : Joined orWord either "AND or OR  oR or\tx OR".toList := by
    have first := (isSeparator_iff solid_orWord " or ".toList).mpr (by decide)
    have second := (isSeparator_iff solid_orWord "  oR ".toList).mpr (by decide)
    exact .next (by decide) first (.next (by decide) second .last)
  have noAnd : ¬ HasSeparator andWord "AND or OR  oR or\tx OR".toList := by
    rw [hasSeparator_iff solid_andWord]
    decide +kernel
  exact ⟨⟨by decide, readBoth, eachBoth, joinedBoth,
      (parse_joined both (by decide) _ readBoth _).1 eachBoth joinedBoth⟩,
    ⟨by decide, readEither, eachEither, joinedEither, noAnd,
      (parse_joined either (by decide) _ readEither _).2 eachEither joinedEither noAnd⟩⟩

end LogSearch.Query
