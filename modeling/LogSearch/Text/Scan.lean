/-!
# Reading texts

The classes of characters, and the steps from which the grammars are built.

* `isBlank` is the Unicode property `White_Space`. It holds of no zero-width character.
* `strip p` removes the characters of the class `p` from both ends; `trim` is `strip isBlank`.
* `run? p` reads a non-empty run of characters of a class from the front of a text, as long as it
  goes, and `literal? word` reads a fixed word. Each gives what is left of the text, or nothing if
  the text does not start as asked.
* `occurs piece text` says that `piece` stands somewhere in the text, and `occurInOrder pieces text`
  that the pieces stand in it one after another, apart from each other by any distance. Each is
  taken at its leftmost place, which leaves the most room for those that follow.
-/

namespace LogSearch.Text

/-! ## Classes -/

/-- A class of characters, as ranges of code points with both ends included. -/
abbrev Ranges := List (Nat × Nat)

/-- Membership in a class. -/
def Ranges.has (ranges : Ranges) (c : Char) : Bool :=
  ranges.any fun (first, last) => first ≤ c.toNat && c.toNat ≤ last

/-! ## White space -/

/-- The white-space characters. -/
def blankRanges : Ranges :=
  [(0x0009, 0x000D), (0x0020, 0x0020), (0x0085, 0x0085), (0x00A0, 0x00A0), (0x1680, 0x1680),
   (0x2000, 0x200A), (0x2028, 0x2029), (0x202F, 0x202F), (0x205F, 0x205F), (0x3000, 0x3000)]

/-- A white-space character. -/
def isBlank (c : Char) : Bool :=
  blankRanges.has c

/-- The text without the characters of a class at its two ends. -/
def strip (p : Char → Bool) (text : List Char) : List Char :=
  ((text.dropWhile p).reverse.dropWhile p).reverse

/-- The text without white space at its two ends. -/
def trim (text : List Char) : List Char :=
  strip isBlank text

/-- A text of white space only, the empty one included. -/
def isBlankText (text : List Char) : Bool :=
  text.all isBlank

example : trim " \t a b\u3000".toList = "a b".toList := by decide
example : isBlank '\u200B' = false ∧ isBlank '\uFEFF' = false := by decide

/-! ## The front of a text -/

/-- The longest non-empty run of `p` at the front of the text, and the rest. -/
def run? (p : Char → Bool) (text : List Char) : Option (List Char × List Char) :=
  match text.takeWhile p with
  | [] => none
  | run => some (run, text.dropWhile p)

/-- The rest of the text after a word at its front. -/
def literal? (word text : List Char) : Option (List Char) :=
  if word.isPrefixOf text then some (text.drop word.length) else none

/-- A run takes everything up to the first character outside the class. -/
theorem run?_eq_some_iff {p : Char → Bool} {text run rest : List Char} :
    run? p text = some (run, rest) ↔
      text = run ++ rest ∧ run ≠ [] ∧ (∀ c ∈ run, p c) ∧ ∀ c ∈ rest.head?, ¬ p c := by
  have taken : run? p text = some (run, rest) ↔
      run ≠ [] ∧ text.takeWhile p = run ∧ text.dropWhile p = rest := by
    unfold run?
    cases text.takeWhile p with
    | nil =>
      constructor
      · intro read
        cases read
      · rintro ⟨nonempty, rfl, -⟩
        exact absurd rfl nonempty
    | cons c front =>
      constructor
      · rintro ⟨⟩
        exact ⟨List.cons_ne_nil _ _, rfl, rfl⟩
      · rintro ⟨-, rfl, rfl⟩
        rfl
  rw [taken]
  constructor
  · rintro ⟨nonempty, rfl, rfl⟩
    refine ⟨List.takeWhile_append_dropWhile.symm, nonempty, ?_, ?_⟩
    · intro c inside
      exact List.all_eq_true.mp List.all_takeWhile c inside
    · intro c first
      have := List.head?_dropWhile_not p text
      rw [Option.mem_def] at first
      rw [first] at this
      simpa using this
  · rintro ⟨rfl, nonempty, inside, stop⟩
    refine ⟨nonempty, ?_, ?_⟩
    · rw [List.takeWhile_append_of_pos inside]
      cases rest with
      | nil => simp
      | cons c rest => simp [stop c rfl]
    · rw [List.dropWhile_append_of_pos inside]
      cases rest with
      | nil => simp
      | cons c rest => simp [stop c rfl]

/-- A run takes at least one character. -/
theorem length_lt_of_run? {p : Char → Bool} {text run rest : List Char}
    (read : run? p text = some (run, rest)) : rest.length < text.length := by
  obtain ⟨rfl, nonempty, _⟩ := run?_eq_some_iff.mp read
  have := List.length_pos_iff.mpr nonempty
  simp only [List.length_append]
  omega

/-- A word is read exactly where it stands. -/
theorem literal?_eq_some_iff {word text rest : List Char} :
    literal? word text = some rest ↔ text = word ++ rest := by
  simp only [literal?, List.isPrefixOf_iff_prefix]
  constructor
  · intro read
    split at read
    · rename_i standing
      obtain ⟨tail, rfl⟩ := standing
      rw [List.drop_left, Option.some.injEq] at read
      rw [read]
    · cases read
  · rintro rfl
    rw [if_pos (List.prefix_append word rest), List.drop_left]

/-- What was read may be given another form, which leaves the same rest of the text. -/
theorem exists_of_map_eq_some {α β : Type} {rest : List Char}
    {form : α × List Char → β × List Char} (keeps : ∀ part text, (form (part, text)).2 = text)
    {read : Option (α × List Char)} {made : β}
    (mapped : read.map form = some (made, rest)) :
    ∃ part, read = some (part, rest) ∧ (form (part, rest)).1 = made := by
  obtain ⟨⟨part, text⟩, rfl, formed⟩ := Option.map_eq_some_iff.mp mapped
  obtain rfl : text = rest := by rw [← keeps part text, formed]
  exact ⟨part, rfl, congrArg Prod.fst formed⟩

/-! ## Occurrences -/

/-- What follows the leftmost occurrence of `piece` in the text. -/
def after? (piece : List Char) : List Char → Option (List Char)
  | [] => if piece.isEmpty then some [] else none
  | c :: rest =>
    if piece.isPrefixOf (c :: rest) then some ((c :: rest).drop piece.length)
    else after? piece rest

/-- Whether `piece` stands somewhere in the text. -/
def occurs (piece text : List Char) : Bool :=
  (after? piece text).isSome

/-- Whether the pieces stand in the text in this order and without overlap. -/
def occurInOrder : List (List Char) → List Char → Bool
  | [], _ => true
  | piece :: pieces, text =>
    match after? piece text with
    | none => false
    | some rest => occurInOrder pieces rest

example : occurInOrder ["ab".toList, "b".toList] "abab".toList := by decide
example : occurInOrder ["ab".toList, "ba".toList] "aba".toList = false := by decide

end LogSearch.Text
