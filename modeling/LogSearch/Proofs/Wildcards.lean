import LogSearch.Proofs.Canonical
import LogSearch.Proofs.Occurrences

/-!
# Wildcards

Two readings of a wildcard pattern, and the scan for it.

* `Stand pieces line`: the texts between the stars stand in a line, one after another.
* `Spans pattern span`: character by character, a star spans any run without line feed and every
  other character spans itself. The pattern may span any part of the value.

Letter case never counts: two characters are the same if their case foldings are.

Results:
1. `foldCase_eq_lineFeed_iff`: a line feed is the same as no other character.
2. `exists_mem_splitOn`: a text without line feed lies within one line of what it is a part of.
3. `stand_iff_inOrder`, `occursIn_iff_stand`: the scan finds the pieces wherever they stand.
4. `Stand.spans`, `Spans.stand`, `occursIn_iff_spans`: both readings agree on a pattern of one line.
5. `stand_insert_nil`, `MoreStars.occursIn_eq`: a star at an end or beside another changes nothing.
6. `typedPattern_of_parse`, `TypedPattern.parse`: the patterns that can be typed.
7. `holds_wildcard_iff`: what a typed pattern matches.
-/

namespace LogSearch

open Text

/-! ## 1. Case folding -/

namespace Text

theorem toNat_ofNat_eq_or (n : Nat) : (Char.ofNat n).toNat = n ∨ (Char.ofNat n).toNat = 0 := by
  by_cases valid : n.isValidChar
  · rw [Char.ofNat, dif_pos valid]
    exact .inl rfl
  · rw [Char.ofNat, dif_neg valid]
    exact .inr rfl

/-- A map of characters does not reach what lies below all its images. -/
theorem CaseMap.image?_ne {runs : CaseMap} {d : Char} (pos : 0 < d.toNat)
    (below : ∀ run ∈ runs, d.toNat < run.image) (c : Char) : runs.image? c ≠ some d := by
  intro image
  obtain ⟨run, member, image⟩ := List.exists_of_findSome?_eq_some image
  have := below run member
  unfold CaseRun.image? at image
  split at image
  · obtain rfl := Option.some.inj image
    rcases toNat_ofNat_eq_or (run.image + (c.toNat - run.first)) with code | code
    · omega
    · omega
  · cases image

theorem CaseMap.eq_of_getD_image? {runs : CaseMap} {c d e : Char} (pos : 0 < d.toNat)
    (below : ∀ run ∈ runs, d.toNat < run.image) (image : (runs.image? c).getD e = d) : e = d := by
  cases found : runs.image? c with
  | none => rwa [found] at image
  | some other =>
    rw [found] at image
    exact absurd (found.trans (congrArg some image)) (image?_ne pos below c)

theorem foldCase_eq_lineFeed_iff {c : Char} : foldCase c = '\n' ↔ c = '\n' := by
  constructor
  · intro fold
    by_cases ascii : c.toNat < 128
    · have all : ∀ n : Fin 128, foldCase (Char.ofNat n) = '\n' → Char.ofNat n = '\n' := by decide
      have here := all ⟨c.toNat, ascii⟩
      rw [Char.ofNat_toNat] at here
      exact here fold
    · unfold foldCase at fold
      rw [if_neg ascii] at fold
      have mapped := CaseMap.eq_of_getD_image? (by decide) (by decide +kernel) fold
      exact CaseMap.eq_of_getD_image? (by decide) (by decide +kernel) mapped
  · rintro rfl
    rfl

/-! ## 2. Lines -/

variable {a : Char} {text part : List Char}

/-- A text is one part, or a part before the first separator and the text after it. -/
theorem splitOn_induction {motive : List Char → List (List Char) → Prop}
    (last : ∀ part, a ∉ part → motive part [part])
    (next : ∀ part rest, a ∉ part → motive rest (rest.splitOn a) →
      motive (part ++ a :: rest) (part :: rest.splitOn a))
    (text : List Char) : motive text (text.splitOn a) := by
  by_cases cut : a ∈ text
  · obtain ⟨part, rest, whole, free⟩ := List.eq_append_cons_of_mem cut
    rw [whole, List.splitOn_append_cons_self_of_not_mem free]
    exact next part rest free (splitOn_induction last next rest)
  · rw [List.splitOn_eq_singleton cut]
    exact last text cut
termination_by text.length
decreasing_by
  rw [whole, List.length_append, List.length_cons]
  omega

theorem of_mem_splitOn (member : part ∈ text.splitOn a) : a ∉ part ∧ part <:+: text := by
  revert part
  refine splitOn_induction
    (motive := fun text parts => ∀ {part}, part ∈ parts → a ∉ part ∧ part <:+: text) ?_ ?_ text
  · intro line free part member
    rw [List.mem_singleton.mp member]
    exact ⟨free, List.infix_refl line⟩
  · intro line rest free ih part member
    rcases List.mem_cons.mp member with rfl | later
    · exact ⟨free, (List.prefix_append _ _).isInfix⟩
    · obtain ⟨free, inside⟩ := ih later
      have suffix : rest <:+ line ++ a :: rest :=
        (List.suffix_cons a rest).trans (List.suffix_append line _)
      exact ⟨free, inside.trans suffix.isInfix⟩

theorem eq_nil_of_prefix_cons {rest : List Char} (free : a ∉ part) (front : part <+: a :: rest) :
    part = [] := by
  cases part with
  | nil => rfl
  | cons c part =>
    obtain rfl := (List.cons_prefix_cons.mp front).1
    exact absurd List.mem_cons_self free

/-- What holds no separator lies within one part. -/
theorem exists_mem_splitOn (free : a ∉ part) (inside : part <:+: text) :
    ∃ line ∈ text.splitOn a, part <:+: line := by
  revert inside
  refine splitOn_induction
    (motive := fun text parts => part <:+: text → ∃ line ∈ parts, part <:+: line) ?_ ?_ text
  · intro line _ inside
    exact ⟨line, List.mem_singleton_self line, inside⟩
  · intro line rest _ ih inside
    rcases List.infix_append_iff.mp inside with here | later | ⟨front, back, rfl, here, across⟩
    · exact ⟨line, List.mem_cons_self, here⟩
    · rcases List.infix_cons_iff.mp later with across | later
      · rw [eq_nil_of_prefix_cons free across]
        exact ⟨line, List.mem_cons_self, List.nil_infix⟩
      · obtain ⟨other, member, inside⟩ := ih later
        exact ⟨other, List.mem_cons_of_mem _ member, inside⟩
    · rw [List.mem_append, not_or] at free
      obtain rfl := eq_nil_of_prefix_cons free.2 across
      rw [List.append_nil]
      exact ⟨line, List.mem_cons_self, here.isInfix⟩

end Text

namespace Pattern

/-! ## 3. Pieces in a line -/

/-- The texts are the same, but for letter case. -/
def SameLetters (text other : List Char) : Prop :=
  text.map foldCase = other.map foldCase

instance (text other : List Char) : Decidable (SameLetters text other) :=
  inferInstanceAs (Decidable (text.map foldCase = other.map foldCase))

/-- The pieces stand in the line in this order and without overlap, in any letter case. -/
inductive Stand : List (List Char) → List Char → Prop
  | nil {line : List Char} : Stand [] line
  | cons {piece stretch before after : List Char} {pieces : List (List Char)} :
      SameLetters piece stretch → Stand pieces after →
      Stand (piece :: pieces) (before ++ stretch ++ after)

variable {pieces more : List (List Char)} {line pattern span : List Char}

theorem stand_iff_inOrder :
    Stand pieces line ↔ InOrder (pieces.map (·.map foldCase)) (line.map foldCase) := by
  constructor
  · intro stand
    induction stand with
    | nil => exact .nil
    | cons same _ ih =>
      rw [List.map_append, List.map_append, ← same]
      exact .cons ih
  · intro inOrder
    induction pieces generalizing line with
    | nil => exact .nil
    | cons piece pieces ih =>
      rw [List.map_cons] at inOrder
      generalize folded : line.map foldCase = text at inOrder
      cases inOrder with
      | @cons _ before after _ later =>
        obtain ⟨front, after, rfl, folds, rfl⟩ := List.map_eq_append_iff.mp folded
        obtain ⟨before, stretch, rfl, rfl, same⟩ := List.map_eq_append_iff.mp folds
        exact .cons same.symm (ih later)

theorem occursIn_iff_stand {pattern value : String} :
    occursIn pattern value = true ↔
      ∃ line ∈ value.toList.splitOn '\n', Stand (pattern.toList.splitOn '*') line := by
  simp only [occursIn, foldedLines, pieces, List.any_map, List.any_eq_true, Function.comp_apply,
    occurInOrder_iff, stand_iff_inOrder]

theorem Stand.extend (stand : Stand pieces line) (before after : List Char) :
    Stand pieces (before ++ line ++ after) := by
  induction stand generalizing before with
  | nil => exact .nil
  | @cons piece stretch front rest pieces same _ ih =>
    have whole : before ++ (front ++ stretch ++ rest) ++ after =
        (before ++ front) ++ stretch ++ ([] ++ rest ++ after) := by simp
    rw [whole]
    exact .cons same (ih [])

/-! ## 4. Stars and characters -/

/-- The pattern matches all of `span`: a star any run without line feed, and any other character
itself in any letter case. -/
inductive Spans : List Char → List Char → Prop
  | nil : Spans [] []
  | star {run pattern span : List Char} :
      '\n' ∉ run → Spans pattern span → Spans ('*' :: pattern) (run ++ span)
  | letter {c d : Char} {pattern span : List Char} :
      c ≠ '*' → foldCase c = foldCase d → Spans pattern span →
      Spans (c :: pattern) (d :: span)

theorem Spans.lineFeed_not_mem (spans : Spans pattern span) (oneLine : '\n' ∉ pattern) :
    '\n' ∉ span := by
  induction spans with
  | nil => exact List.not_mem_nil
  | star run _ ih =>
    rw [List.mem_append, not_or]
    exact ⟨run, ih fun member => oneLine (List.mem_cons_of_mem _ member)⟩
  | letter _ same _ ih =>
    rw [List.mem_cons, not_or] at oneLine ⊢
    refine ⟨?_, ih oneLine.2⟩
    rintro rfl
    exact oneLine.1 (foldCase_eq_lineFeed_iff.mp same).symm

/-- Letters before a pattern span a stretch before its span. -/
theorem Spans.append {piece stretch : List Char} (spans : Spans pattern span)
    (plain : '*' ∉ piece) (same : SameLetters piece stretch) :
    Spans (piece ++ pattern) (stretch ++ span) := by
  induction piece generalizing stretch with
  | nil =>
    obtain rfl := List.map_eq_nil_iff.mp same.symm
    exact spans
  | cons c piece ih =>
    obtain ⟨d, stretch, rfl, first, rest⟩ := List.map_eq_cons_iff.mp same.symm
    rw [List.mem_cons, not_or] at plain
    exact .letter (Ne.symm plain.1) first.symm (ih plain.2 rest.symm)

/-- Pieces in a line are spanned by the pattern that has stars between them. -/
theorem Stand.spans (stand : Stand pieces line) (nonempty : pieces ≠ [])
    (plain : ∀ piece ∈ pieces, '*' ∉ piece) (oneLine : '\n' ∉ line) :
    ∃ before span after, line = before ++ span ++ after ∧
      Spans (['*'].intercalate pieces) span := by
  induction stand with
  | nil => exact absurd rfl nonempty
  | @cons piece stretch before after pieces same _ ih =>
    have plainFirst := plain piece List.mem_cons_self
    have plainRest : ∀ other ∈ pieces, '*' ∉ other :=
      fun other member => plain other (List.mem_cons_of_mem _ member)
    by_cases last : pieces = []
    · subst last
      have spans := Spans.nil.append plainFirst same
      rw [List.append_nil, List.append_nil] at spans
      refine ⟨before, stretch, after, rfl, ?_⟩
      rwa [List.intercalate_singleton]
    · rw [List.mem_append] at oneLine
      obtain ⟨gap, span, rest, rfl, spans⟩ :=
        ih last plainRest fun member => oneLine (.inr member)
      have noFeed : '\n' ∉ gap := fun member => oneLine (.inr (by simp [member]))
      refine ⟨before, stretch ++ (gap ++ span), rest, by simp, ?_⟩
      rw [List.intercalate_cons_of_ne_nil last, List.append_assoc]
      exact (Spans.star noFeed spans).append plainFirst same

/-- In a span of the pattern the pieces stand, the first of them at the front. -/
theorem Spans.stand_front (spans : Spans pattern span) :
    ∃ piece pieces stretch after, pattern.splitOn '*' = piece :: pieces ∧
      span = stretch ++ after ∧ SameLetters piece stretch ∧ Stand pieces after := by
  induction spans with
  | nil => exact ⟨[], [], [], [], rfl, rfl, rfl, .nil⟩
  | @star run pattern span _ _ ih =>
    obtain ⟨piece, pieces, stretch, after, cut, rfl, same, stand⟩ := ih
    refine ⟨[], piece :: pieces, [], run ++ stretch ++ after, ?_, by simp, rfl, .cons same stand⟩
    rw [List.splitOn_cons_eq_if_modifyHead, beq_self_eq_true, if_pos rfl, cut]
  | @letter c d pattern span plain fold _ ih =>
    obtain ⟨piece, pieces, stretch, after, cut, rfl, same, stand⟩ := ih
    refine ⟨c :: piece, pieces, d :: stretch, after, ?_, rfl, ?_, stand⟩
    · rw [List.splitOn_cons_eq_if_modifyHead, beq_false_of_ne plain,
        if_neg Bool.false_ne_true, cut, List.modifyHead_cons]
    · rw [SameLetters, List.map_cons, List.map_cons, fold, same]

theorem Spans.stand (spans : Spans pattern span) : Stand (pattern.splitOn '*') span := by
  obtain ⟨piece, pieces, stretch, after, cut, rfl, same, stand⟩ := spans.stand_front
  rw [cut]
  exact @Stand.cons piece stretch [] after pieces same stand

/-- The scan finds a pattern of one line exactly if the pattern spans some part of the value. -/
theorem occursIn_iff_spans {pattern value : String} (oneLine : '\n' ∉ pattern.toList) :
    occursIn pattern value = true ↔
      ∃ before span after, value.toList = before ++ span ++ after ∧
        Spans pattern.toList span := by
  rw [occursIn_iff_stand]
  constructor
  · rintro ⟨line, member, stand⟩
    obtain ⟨noFeed, front, back, whole⟩ := of_mem_splitOn member
    have plain : ∀ piece ∈ pattern.toList.splitOn '*', '*' ∉ piece :=
      fun piece member => (of_mem_splitOn member).1
    obtain ⟨before, span, after, rfl, spans⟩ :=
      stand.spans (List.splitOn_ne_nil _ _) plain noFeed
    rw [List.intercalate_splitOn] at spans
    exact ⟨front ++ before, span, after ++ back, by simp [← whole], spans⟩
  · rintro ⟨before, span, after, whole, spans⟩
    have inside : span <:+: value.toList := ⟨before, after, whole.symm⟩
    obtain ⟨line, member, left, right, rfl⟩ :=
      exists_mem_splitOn (spans.lineFeed_not_mem oneLine) inside
    exact ⟨_, member, spans.stand.extend left right⟩

/-! ## 5. Further stars -/

/-- An empty piece stands anywhere. -/
theorem stand_insert_nil :
    Stand (pieces ++ [] :: more) line ↔ Stand (pieces ++ more) line := by
  induction pieces generalizing line with
  | nil =>
    constructor
    · intro stand
      cases stand with
      | @cons _ stretch before after _ _ rest =>
        simpa using rest.extend (before ++ stretch) []
    · intro stand
      exact @Stand.cons [] [] [] line more rfl stand
  | cons piece pieces ih =>
    constructor
    · intro stand
      cases stand with
      | cons same rest => exact .cons same (ih.mp rest)
    · intro stand
      cases stand with
      | cons same rest => exact .cons same (ih.mpr rest)

/-- The second pattern has one more star than the first, at an end or beside another. -/
inductive MoreStars : List Char → List Char → Prop
  | front {pattern : List Char} : MoreStars pattern ('*' :: pattern)
  | back {pattern : List Char} : MoreStars pattern (pattern ++ ['*'])
  | double {before after : List Char} :
      MoreStars (before ++ '*' :: after) (before ++ '*' :: '*' :: after)

theorem splitOn_star_cons (pattern : List Char) :
    ('*' :: pattern).splitOn '*' = [] :: pattern.splitOn '*' :=
  List.splitOn_append_cons_self [] pattern

theorem MoreStars.stand_iff {starred : List Char} (stars : MoreStars pattern starred) :
    Stand (starred.splitOn '*') line ↔ Stand (pattern.splitOn '*') line := by
  cases stars with
  | front =>
    rw [splitOn_star_cons]
    exact @stand_insert_nil [] _ _
  | back =>
    rw [List.splitOn_append_cons_self, List.splitOn_nil]
    simpa using @stand_insert_nil (pattern.splitOn '*') [] line
  | double =>
    rw [List.splitOn_append_cons_self, List.splitOn_append_cons_self, splitOn_star_cons]
    exact stand_insert_nil

theorem MoreStars.occursIn_eq {pattern starred : String}
    (stars : MoreStars pattern.toList starred.toList) : occursIn starred = occursIn pattern := by
  funext value
  rw [Bool.eq_iff_iff, occursIn_iff_stand, occursIn_iff_stand]
  simp only [stars.stand_iff]

/-- A star alone spans nothing, anywhere. -/
theorem occursIn_star (value : String) : occursIn "*" value = true := by
  refine (occursIn_iff_spans (by decide)).mpr ⟨[], [], value.toList, rfl, ?_⟩
  exact @Spans.star [] [] [] List.not_mem_nil .nil

end Pattern

/-! ## 6. Typed patterns -/

namespace Clause

open Pattern

/-- What the grammar grants of a field and its pattern. -/
structure TypedPattern (field pattern : String) : Prop where
  named : Run isNameChar field.toList
  oneLine : '\n' ∉ pattern.toList
  unquoted : Bare isQuote pattern.toList
  starred : '*' ∈ pattern.toList

variable {compiler : Compiler} {text field pattern starred : String}

theorem typedPattern_of_parse
    (read : Clause.parse compiler text = .ok (.wildcard field pattern)) :
    TypedPattern field pattern := by
  cases typed_of_parse read with
  | wildcard named quotable star _ => exact ⟨named, quotable.oneLine, quotable.bare, star⟩

theorem TypedPattern.parse (typed : TypedPattern field pattern)
    (compiles : compiler.Accepts pattern) :
    Clause.parse compiler (quotedText field pattern) = .ok (.wildcard field pattern) :=
  (Typed.wildcard typed.named ⟨typed.oneLine, typed.unquoted⟩ typed.starred compiles).parse

theorem TypedPattern.moreStars (typed : TypedPattern field pattern)
    (stars : MoreStars pattern.toList starred.toList) : TypedPattern field starred := by
  obtain ⟨named, oneLine, unquoted, star⟩ := typed
  generalize pattern.toList = pattern at *
  generalize whole : starred.toList = text at *
  have nonempty := List.ne_nil_of_mem star
  have noQuote : isQuote '*' = false := by decide
  constructor
  case named => exact named
  case oneLine =>
    rw [whole]
    cases stars <;> simpa using oneLine
  case starred =>
    rw [whole]
    cases stars <;> simp
  case unquoted =>
    rw [whole]
    cases stars with
    | front =>
      refine ⟨by simpa using noQuote, ?_⟩
      rw [List.getLast?_cons_of_ne_nil nonempty]
      exact unquoted.2
    | back =>
      refine ⟨?_, by simpa using noQuote⟩
      rw [List.head?_append_of_ne_nil _ nonempty]
      exact unquoted.1
    | @double before after =>
      refine ⟨?_, ?_⟩
      · have first := unquoted.1
        cases before with
        | nil => simpa using noQuote
        | cons c before => simpa using first
      · have last := unquoted.2
        rw [List.getLast?_append_cons] at last ⊢
        rwa [List.getLast?_cons_cons]

/-! ## 7. Matches -/

/-- A typed pattern matches a record if the field is there and some line of its text holds the texts
between the stars, one after another and in any letter case. Read character by character, it matches
some part of that text. A further star at an end or beside another changes nothing, and the pattern
can be typed as well if it compiles. A star alone matches every text. -/
theorem holds_wildcard_iff
    (read : Clause.parse compiler text = .ok (.wildcard field pattern)) :
    (∀ record : Record, (Clause.wildcard field pattern).holds record = true ↔
      ∃ value, record.text? field = some value ∧
        ∃ line ∈ value.toList.splitOn '\n', Stand (pattern.toList.splitOn '*') line) ∧
    (∀ record : Record, (Clause.wildcard field pattern).holds record = true ↔
      ∃ value, record.text? field = some value ∧
        ∃ before span after, value.toList = before ++ span ++ after ∧
          Spans pattern.toList span) ∧
    (∀ starred : String, MoreStars pattern.toList starred.toList →
      (compiler.Accepts starred →
        Clause.parse compiler (quotedText field starred) = .ok (.wildcard field starred)) ∧
      ∀ record : Record, (Clause.wildcard field starred).holds record =
        (Clause.wildcard field pattern).holds record) ∧
    ∀ record : Record, (Clause.wildcard field "*").holds record =
      (record.text? field).isSome := by
  have typed := typedPattern_of_parse read
  refine ⟨?pieces, ?characters, ?stars, ?star⟩
  case pieces =>
    intro record
    simp only [holds, Option.any_eq_true, occursIn_iff_stand]
  case characters =>
    intro record
    simp only [holds, Option.any_eq_true, occursIn_iff_spans typed.oneLine]
  case stars =>
    intro starred stars
    refine ⟨(typed.moreStars stars).parse, fun record => ?_⟩
    rw [holds, holds, stars.occursIn_eq]
  case star =>
    intro record
    rw [holds]
    cases record.text? field with
    | none => rfl
    | some value => exact occursIn_star value

/-- The pieces must share a line, and only stars are special. With one star more, the same holds. -/
theorem holds_wildcard_iff_lines :
    Clause.parse .lenient "path:'A*b.(c)'" = .ok (.wildcard "path" "A*b.(c)") ∧
    (Clause.wildcard "path" "A*b.(c)").holds
      (.ofList [("path", .text "A\nb.(c) a-B.(c)")]) = true ∧
    (Clause.wildcard "path" "A*b.(c)").holds (.ofList [("path", .text "A\nb.(c)")]) = false ∧
    (Clause.wildcard "path" "A**b.(c)").holds
      (.ofList [("path", .text "A\nb.(c) a-B.(c)")]) = true := by
  have read : Clause.parse .lenient "path:'A*b.(c)'" = .ok (.wildcard "path" "A*b.(c)") := by
    decide +kernel
  obtain ⟨inLine, -, stars, -⟩ := holds_wildcard_iff read
  have here : (Clause.wildcard "path" "A*b.(c)").holds
      (.ofList [("path", .text "A\nb.(c) a-B.(c)")]) = true := by
    refine (inLine _).mpr ⟨_, rfl, "b.(c) a-B.(c)".toList, by decide +kernel, ?_⟩
    have last : Stand ["b.(c)".toList] "-B.(c)".toList :=
      @Stand.cons _ "B.(c)".toList ['-'] [] _ (by decide +kernel) .nil
    exact @Stand.cons ['A'] ['a'] "b.(c) ".toList _ _ (by decide +kernel) last
  have double : MoreStars "A*b.(c)".toList "A**b.(c)".toList :=
    @MoreStars.double ['A'] "b.(c)".toList
  refine ⟨read, here, by decide +kernel, ?_⟩
  rw [(stars _ double).2]
  exact here

end Clause

end LogSearch
