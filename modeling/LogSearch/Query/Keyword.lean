import LogSearch.Text.Scan

/-!
# Keywords

Cutting a query at a keyword.

* A separator is white space, the keyword in any letter case, and white space again.
* The text is read from the left, and each separator takes all the white space on its two sides. A
  second keyword that follows at once has lost the white space before it, and so is no separator.
-/

namespace LogSearch.Keyword

open Text

/-- The keyword between clauses that must all hold. -/
def andWord : List Char := ['A', 'N', 'D']

/-- The keyword between clauses of which one must hold. -/
def orWord : List Char := ['O', 'R']

/-- The rest of the text after a keyword at its front, in any letter case. -/
def afterWord? (word text : List Char) : Option (List Char) :=
  if (text.take word.length).map Char.toUpper = word then some (text.drop word.length) else none

/-- The rest of the text after a separator at its front. -/
def afterSeparator? (word text : List Char) : Option (List Char) := do
  let (_, text) ← run? isBlank text
  let text ← afterWord? word text
  let (_, text) ← run? isBlank text
  return text

theorem length_le_of_afterWord? {word text rest : List Char}
    (read : afterWord? word text = some rest) : rest.length ≤ text.length := by
  unfold afterWord? at read
  split at read
  · rw [Option.some.injEq] at read
    rw [← read, List.length_drop]
    exact Nat.sub_le _ _
  · cases read

/-- A separator takes at least one character. -/
theorem length_lt_of_afterSeparator? {word text rest : List Char}
    (read : afterSeparator? word text = some rest) : rest.length < text.length := by
  simp only [afterSeparator?, Option.bind_eq_bind, Option.bind_eq_some_iff, Prod.exists,
    Option.pure_def, Option.some.injEq] at read
  obtain ⟨_, fromWord, before, fromBlank, named, _, rest, after, rfl⟩ := read
  calc rest.length
      < fromBlank.length := length_lt_of_run? after
    _ ≤ fromWord.length := length_le_of_afterWord? named
    _ ≤ text.length := Nat.le_of_lt (length_lt_of_run? before)

/-- The rest of the text after a separator at its front, where `fragment` holds what was read since
the last separator, nearest first. Within a run of white space only the first place is tried: a
separator takes the whole run, so there is none at a later place if there is none at the first. -/
def nextSeparator? (word fragment text : List Char) : Option (List Char) :=
  if fragment.head?.any isBlank then none else afterSeparator? word text

theorem length_lt_of_nextSeparator? {word fragment text rest : List Char}
    (read : nextSeparator? word fragment text = some rest) : rest.length < text.length := by
  unfold nextSeparator? at read
  split at read
  · cases read
  · exact length_lt_of_afterSeparator? read

/-- Cuts the text at its separators, where `fragment` holds what was read since the last one,
nearest first. -/
def splitAfter (word fragment : List Char) : List Char → List (List Char)
  | [] => [fragment.reverse]
  | c :: rest =>
    match _read : nextSeparator? word fragment (c :: rest) with
    | some text => fragment.reverse :: splitAfter word [] text
    | none => splitAfter word (c :: fragment) rest
termination_by text => text.length
decreasing_by
  · exact length_lt_of_nextSeparator? _read
  · simp

/-- The texts between the separators. Without a separator, that is the whole text. -/
def split (word text : List Char) : List (List Char) :=
  splitAfter word [] text

end LogSearch.Keyword
