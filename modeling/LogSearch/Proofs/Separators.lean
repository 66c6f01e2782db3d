import LogSearch.Proofs.Trimming
import LogSearch.Query.Keyword

/-!
# Cutting at separators

`Keyword.split` scans a text from the left. `Cut` says what it must give, without a scan: a text
without separator is one fragment, and any other is a fragment, a separator at the leftmost place at
which one can start, and the cut of what follows.

Results:
1. `afterSeparator?_eq_some_iff`: a separator is read to the end of the white space after it.
2. `cut_split`: the scan gives a cut of the text.
3. `Cut.not_hasSeparator`, `Cut.bare`, `Cut.two_le_length_iff`: what holds of every cut. No fragment
   holds a separator; of a trimmed text, none is empty and none has white space at an end.
-/

namespace LogSearch.Keyword

open Text

/-! ## Specification -/

/-- White space, the word in any letter case, and white space. -/
def IsSeparator (word separator : List Char) : Prop :=
  ∃ before key after, separator = before ++ key ++ after ∧
    (before ≠ [] ∧ ∀ c ∈ before, isBlank c = true) ∧
    key.map Char.toUpper = word ∧
    (after ≠ [] ∧ ∀ c ∈ after, isBlank c = true)

/-- A separator stands in the text after `before`. -/
def SeparatorAfter (word before text : List Char) : Prop :=
  ∃ separator after, text = before ++ separator ++ after ∧ IsSeparator word separator

/-- A separator stands somewhere in the text. -/
def HasSeparator (word text : List Char) : Prop :=
  ∃ before, SeparatorAfter word before text

/-- `Cut word text fragments`: cut at its separators, the text leaves the fragments. Each separator
starts at the leftmost place of what remains at which one can start, and takes all the white space
that follows. -/
inductive Cut (word : List Char) : List Char → List (List Char) → Prop
  | whole {text : List Char} : ¬ HasSeparator word text → Cut word text [text]
  | next {fragment separator rest : List Char} {fragments : List (List Char)} :
      IsSeparator word separator →
      (∀ before, SeparatorAfter word before (fragment ++ separator ++ rest) →
        fragment.length ≤ before.length) →
      (∀ c ∈ rest.head?, isBlank c = false) →
      Cut word rest fragments →
      Cut word (fragment ++ separator ++ rest) (fragment :: fragments)

/-- A word that is not empty and holds no white space, as both keywords are. -/
def Solid (word : List Char) : Prop :=
  word ≠ [] ∧ ∀ c ∈ word, isBlank c = false

instance (word : List Char) : Decidable (Solid word) :=
  decidable_of_iff (word ≠ [] ∧ word.any isBlank = false) (by simp [Solid])

theorem solid_andWord : Solid andWord := by decide

theorem solid_orWord : Solid orWord := by decide

/-! ## 1. Reading a separator -/

variable {word : List Char}

theorem toUpper_of_isBlank {c : Char} (blank : isBlank c = true) : c.toUpper = c := by
  refine dif_neg ?_
  rintro ⟨low, high⟩
  have low : 97 ≤ c.toNat := low
  have high : c.toNat ≤ 122 := high
  have := toNat_of_isBlank blank
  omega

/-- A spelling of a solid word starts with a character that is not white space. -/
theorem exists_cons_of_map_toUpper (solid : Solid word) {key : List Char}
    (spelled : key.map Char.toUpper = word) :
    ∃ c rest, key = c :: rest ∧ isBlank c = false := by
  cases key with
  | nil => exact absurd spelled.symm solid.1
  | cons c rest =>
    refine ⟨c, rest, rfl, ?_⟩
    have upper : isBlank c.toUpper = false := solid.2 _ (spelled ▸ List.mem_cons_self)
    cases blank : isBlank c with
    | false => rfl
    | true => rw [toUpper_of_isBlank blank, blank] at upper; exact upper

theorem afterWord?_eq_some_iff {text rest : List Char} :
    afterWord? word text = some rest ↔ ∃ key, text = key ++ rest ∧ key.map Char.toUpper = word := by
  unfold afterWord?
  constructor
  · intro read
    split at read
    · rename_i spelled
      refine ⟨text.take word.length, ?_, spelled⟩
      rw [← Option.some.inj read, List.take_append_drop]
    · exact absurd read (by simp)
  · rintro ⟨key, rfl, rfl⟩
    simp

/-- A separator is read exactly where it stands, to the end of the white space after it. -/
theorem afterSeparator?_eq_some_iff (solid : Solid word) {text rest : List Char} :
    afterSeparator? word text = some rest ↔
      ∃ separator, text = separator ++ rest ∧ IsSeparator word separator ∧
        ∀ c ∈ rest.head?, isBlank c = false := by
  simp only [afterSeparator?, Option.bind_eq_bind, Option.bind_eq_some_iff, Prod.exists,
    Option.pure_def, Option.some.injEq, run?_eq_some_iff, afterWord?_eq_some_iff]
  constructor
  · rintro ⟨before, _, ⟨rfl, some₁, blank₁, -⟩, _, ⟨key, rfl, spelled⟩, after, _,
      ⟨rfl, some₂, blank₂, stop⟩, rfl⟩
    refine ⟨before ++ key ++ after, by simp, ?_, by simpa using stop⟩
    exact ⟨before, key, after, rfl, ⟨some₁, blank₁⟩, spelled, some₂, blank₂⟩
  · rintro ⟨_, rfl, ⟨before, key, after, rfl, ⟨some₁, blank₁⟩, spelled, some₂, blank₂⟩, stop⟩
    obtain ⟨c, rest', rfl, solidHead⟩ := exists_cons_of_map_toUpper solid spelled
    refine ⟨before, (c :: rest') ++ (after ++ rest), ⟨by simp, some₁, blank₁, ?_⟩,
      after ++ rest, ⟨c :: rest', rfl, spelled⟩, after, rest, ⟨rfl, some₂, blank₂, ?_⟩, rfl⟩
    · simp [solidHead]
    · simpa using stop

/-- White space after a separator belongs to it. -/
theorem IsSeparator.append_blank {separator blanks : List Char}
    (is : IsSeparator word separator) (blank : ∀ c ∈ blanks, isBlank c = true) :
    IsSeparator word (separator ++ blanks) := by
  obtain ⟨before, key, after, rfl, first, spelled, some₂, blank₂⟩ := is
  refine ⟨before, key, after ++ blanks, by simp, first, spelled, by simp [some₂], ?_⟩
  intro c member
  exact (List.mem_append.mp member).elim (blank₂ c) (blank c)

/-- White space before a separator belongs to it. -/
theorem IsSeparator.cons_blank {separator : List Char} {c : Char}
    (is : IsSeparator word separator) (blank : isBlank c = true) :
    IsSeparator word (c :: separator) := by
  obtain ⟨before, key, after, rfl, ⟨-, blank₁⟩, spelled, last⟩ := is
  refine ⟨c :: before, key, after, by simp, ⟨by simp, ?_⟩, spelled, last⟩
  intro d member
  cases List.mem_cons.mp member with
  | inl same => exact same ▸ blank
  | inr inside => exact blank₁ d inside

/-- Where a separator stands, one is read. -/
theorem exists_afterSeparator? (solid : Solid word) {separator : List Char} (after : List Char)
    (is : IsSeparator word separator) :
    ∃ rest, afterSeparator? word (separator ++ after) = some rest := by
  refine ⟨after.dropWhile isBlank, (afterSeparator?_eq_some_iff solid).mpr ?_⟩
  refine ⟨separator ++ after.takeWhile isBlank, ?_, is.append_blank ?_, ?_⟩
  · rw [List.append_assoc, List.takeWhile_append_dropWhile]
  · exact List.all_eq_true.mp List.all_takeWhile
  · intro c first
    have stop := List.head?_dropWhile_not isBlank after
    rw [Option.mem_def.mp first] at stop
    exact stop

theorem IsSeparator.exists_cons {separator : List Char} (is : IsSeparator word separator) :
    ∃ c rest, separator = c :: rest ∧ isBlank c = true := by
  obtain ⟨before, key, after, rfl, ⟨some, blank⟩, -⟩ := is
  obtain ⟨c, before, rfl⟩ := List.exists_cons_of_ne_nil some
  exact ⟨c, _, rfl, blank c List.mem_cons_self⟩

theorem IsSeparator.ne_nil {separator : List Char} (is : IsSeparator word separator) :
    separator ≠ [] := by
  obtain ⟨c, rest, rfl, -⟩ := is.exists_cons
  exact List.cons_ne_nil c rest

theorem HasSeparator.exists_blank {text : List Char} (has : HasSeparator word text) :
    ∃ c ∈ text, isBlank c = true := by
  obtain ⟨before, separator, after, rfl, is⟩ := has
  obtain ⟨c, rest, rfl, blank⟩ := is.exists_cons
  exact ⟨c, by simp, blank⟩

theorem not_hasSeparator_nil (word : List Char) : ¬ HasSeparator word [] := by
  intro has
  obtain ⟨c, member, -⟩ := has.exists_blank
  cases member

/-! ## 2. The scan -/

/-- What the scan knows: no separator starts within the fragment that it has read. -/
def Clear (word fragment text : List Char) : Prop :=
  ∀ before, SeparatorAfter word before (fragment ++ text) → fragment.length ≤ before.length

theorem Clear.nil (word text : List Char) : Clear word [] text :=
  fun _ _ => Nat.zero_le _

/-- A text that has been read to its end holds no separator. -/
theorem Clear.not_hasSeparator {fragment : List Char} (clear : Clear word fragment []) :
    ¬ HasSeparator word fragment := by
  rintro ⟨before, separator, after, rfl, is⟩
  have := clear before ⟨separator, after, by simp, is⟩
  have := List.length_pos_iff.mpr is.ne_nil
  simp only [List.length_append] at *
  omega

/-- Where the scan reads no separator, none starts. If the place is in front of white space and
behind white space, that is because a separator there would start sooner. -/
theorem Clear.concat (solid : Solid word) {fragment rest : List Char} {c : Char}
    (clear : Clear word fragment.reverse (c :: rest))
    (unread : nextSeparator? word fragment (c :: rest) = none) :
    Clear word (c :: fragment).reverse rest := by
  intro before stands
  have stands : SeparatorAfter word before (fragment.reverse ++ c :: rest) := by
    simpa using stands
  have reached := clear before stands
  rw [List.length_reverse] at reached ⊢
  rw [List.length_cons]
  refine Nat.lt_of_le_of_ne reached fun same => ?_
  obtain ⟨separator, after, parts, is⟩ := stands
  rw [List.append_assoc] at parts
  obtain ⟨rfl, here⟩ := List.append_inj parts (by simpa using same)
  cases fragment with
  | nil =>
    -- At the start of the text a separator would be read.
    obtain ⟨_, read⟩ := exists_afterSeparator? solid after is
    rw [nextSeparator?, List.head?_nil, Option.any_none, if_neg Bool.false_ne_true, here,
      read] at unread
    exact absurd unread (by simp)
  | cons d fragment =>
    rw [nextSeparator?, List.head?_cons, Option.any_some] at unread
    cases blank : isBlank d with
    | false =>
      obtain ⟨_, read⟩ := exists_afterSeparator? solid after is
      rw [blank, if_neg Bool.false_ne_true, here, read] at unread
      exact absurd unread (by simp)
    | true =>
      -- With the white space in front of it, the separator starts within the fragment.
      have sooner := clear fragment.reverse
        ⟨d :: separator, after, by simp [here], is.cons_blank blank⟩
      simp only [List.length_reverse, List.length_cons] at sooner
      omega

theorem cut_splitAfter (solid : Solid word) {fragment text : List Char}
    (clear : Clear word fragment.reverse text) :
    Cut word (fragment.reverse ++ text) (splitAfter word fragment text) := by
  fun_induction splitAfter word fragment text with
  | case1 fragment =>
    rw [List.append_nil]
    exact .whole clear.not_hasSeparator
  | case2 fragment c rest text read ih =>
    have read : afterSeparator? word (c :: rest) = some text := by
      unfold nextSeparator? at read
      split at read
      · exact absurd read (by simp)
      · exact read
    obtain ⟨separator, parts, is, stop⟩ := (afterSeparator?_eq_some_iff solid).mp read
    rw [parts, ← List.append_assoc]
    refine .next is ?_ stop (ih (Clear.nil word text))
    rw [List.append_assoc, ← parts]
    exact clear
  | case3 fragment c rest unread ih =>
    have := ih (clear.concat solid unread)
    simpa using this

theorem cut_split (solid : Solid word) (text : List Char) : Cut word text (split word text) := by
  have clear : Clear word [].reverse text := Clear.nil word text
  exact cut_splitAfter solid clear

/-! ## 3. Cuts -/

namespace Cut

variable {text : List Char} {fragments : List (List Char)}

theorem not_hasSeparator (cut : Cut word text fragments) :
    ∀ fragment ∈ fragments, ¬ HasSeparator word fragment := by
  induction cut with
  | whole absent =>
    intro fragment member
    rw [List.mem_singleton.mp member]
    exact absent
  | @next fragment separator rest fragments is leftmost _ _ ih =>
    intro other member
    cases List.mem_cons.mp member with
    | inr inside => exact ih other inside
    | inl same =>
      rw [same]
      rintro ⟨before, inner, after, rfl, isInner⟩
      have := leftmost before ⟨inner, after ++ separator ++ rest, by simp, isInner⟩
      have := List.length_pos_iff.mpr isInner.ne_nil
      simp only [List.length_append] at *
      omega

theorem ne_nil (cut : Cut word text fragments) : fragments ≠ [] := by
  cases cut <;> simp

/-- There are several fragments exactly if there is a separator. -/
theorem two_le_length_iff (cut : Cut word text fragments) :
    2 ≤ fragments.length ↔ HasSeparator word text := by
  cases cut with
  | whole absent => simp [absent]
  | @next fragment separator rest fragments is _ _ cut =>
    have := List.length_pos_iff.mpr cut.ne_nil
    refine ⟨fun _ => ⟨fragment, separator, rest, rfl, is⟩, fun _ => ?_⟩
    rw [List.length_cons]
    omega

/-- White space at the end of a fragment would belong to the separator, which would start sooner. -/
theorem getLast?_of_leftmost {fragment separator rest : List Char} (is : IsSeparator word separator)
    (leftmost : ∀ before, SeparatorAfter word before (fragment ++ separator ++ rest) →
      fragment.length ≤ before.length) :
    ∀ c ∈ fragment.getLast?, isBlank c = false := by
  intro c last
  obtain ⟨init, rfl⟩ := List.getLast?_eq_some_iff.mp last
  cases blank : isBlank c with
  | false => rfl
  | true =>
    have sooner := leftmost init ⟨c :: separator, rest, by simp, is.cons_blank blank⟩
    simp only [List.length_append, List.length_singleton] at sooner
    omega

/-- The fragments of a trimmed text are trimmed, and none is empty. -/
theorem bare (cut : Cut word text fragments) (some : text ≠ []) (trimmed : Bare isBlank text) :
    ∀ fragment ∈ fragments, fragment ≠ [] ∧ Bare isBlank fragment := by
  induction cut with
  | whole _ =>
    intro fragment member
    rw [List.mem_singleton.mp member]
    exact ⟨some, trimmed⟩
  | @next fragment separator rest fragments is leftmost stop _ ih =>
    obtain ⟨before, key, after, parts, ⟨some₁, blank₁⟩, -, some₂, blank₂⟩ := id is
    -- Without a fragment on one side, the white space of the separator ends the trimmed text there.
    have fragmentSome : fragment ≠ [] := by
      rintro rfl
      obtain ⟨c, before', rfl⟩ := List.exists_cons_of_ne_nil some₁
      have := trimmed.1 c (by simp [parts])
      rw [blank₁ c List.mem_cons_self] at this
      exact Bool.noConfusion this
    have restSome : rest ≠ [] := by
      rintro rfl
      obtain ⟨init, c, rfl⟩ := (List.eq_nil_or_concat after).resolve_left some₂
      have := trimmed.2 c (by simp [parts])
      rw [blank₂ c (by simp)] at this
      exact Bool.noConfusion this
    intro other member
    cases List.mem_cons.mp member with
    | inl same =>
      rw [same]
      refine ⟨fragmentSome, fun c first => trimmed.1 c ?_, getLast?_of_leftmost is leftmost⟩
      rw [List.append_assoc, List.head?_append, Option.mem_def.mp first]
      rfl
    | inr inside =>
      refine ih restSome ⟨stop, fun c last => trimmed.2 c ?_⟩ other inside
      rw [List.getLast?_append, Option.mem_def.mp last]
      rfl

end Cut

theorem hasSeparator_iff (solid : Solid word) (text : List Char) :
    HasSeparator word text ↔ 2 ≤ (split word text).length :=
  (cut_split solid text).two_le_length_iff.symm

end LogSearch.Keyword
