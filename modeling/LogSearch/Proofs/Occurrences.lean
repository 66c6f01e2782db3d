import LogSearch.Query.Pattern

/-!
# Pieces in order

`occurInOrder` takes each piece at its leftmost place and never comes back to it. `InOrder` is the
specification: some choice of places, one after another and apart from each other by any distance.

Results:
1. `exists_after?`: the leftmost occurrence of a piece leaves at least what any occurrence leaves.
2. `occurInOrder_iff`: so no choice of places is missed.
3. `InOrder.intercalate`, `Pattern.occursIn_self`: the pieces of a text stand in it, and a text of
   one line matches itself when its stars are read as wildcards.
-/

namespace LogSearch

namespace Text

/-- The pieces stand in the text in this order and without overlap. -/
inductive InOrder : List (List Char) → List Char → Prop
  | nil {text : List Char} : InOrder [] text
  | cons {piece before after : List Char} {pieces : List (List Char)} :
      InOrder pieces after → InOrder (piece :: pieces) (before ++ piece ++ after)

variable {piece text rest : List Char} {pieces : List (List Char)}

/-! ## 1. Leftmost occurrences -/

theorem eq_append_of_after? (found : after? piece text = some rest) :
    ∃ before, text = before ++ piece ++ rest := by
  induction text with
  | nil =>
    rw [after?] at found
    split at found
    · rename_i empty
      obtain rfl := List.isEmpty_iff.mp empty
      obtain rfl := Option.some.inj found
      exact ⟨[], rfl⟩
    · cases found
  | cons c text ih =>
    rw [after?] at found
    split at found
    · rename_i here
      obtain ⟨after, whole⟩ := List.isPrefixOf_iff_prefix.mp here
      rw [← whole, List.drop_left] at found
      obtain rfl := Option.some.inj found
      exact ⟨[], whole.symm⟩
    · obtain ⟨before, rfl⟩ := ih found
      exact ⟨c :: before, rfl⟩

/-- An occurrence further left leaves more of the text. -/
theorem exists_after? (before piece after : List Char) :
    ∃ rest, after? piece (before ++ piece ++ after) = some rest ∧ after <:+ rest := by
  induction before with
  | nil =>
    refine ⟨after, ?_, List.suffix_refl after⟩
    rw [List.nil_append]
    cases whole : piece ++ after with
    | nil =>
      obtain ⟨rfl, rfl⟩ := List.append_eq_nil_iff.mp whole
      rfl
    | cons c text =>
      have here : piece.isPrefixOf (c :: text) = true :=
        List.isPrefixOf_iff_prefix.mpr ⟨after, whole⟩
      rw [after?, if_pos here, ← whole, List.drop_left]
  | cons c before ih =>
    rw [List.cons_append, List.cons_append, after?]
    split
    · -- The piece stands even further left, and then it ends further left as well.
      have inside : after <:+ c :: (before ++ piece ++ after) :=
        (List.suffix_append (before ++ piece) after).trans (List.suffix_cons c _)
      refine ⟨_, rfl, List.suffix_of_suffix_length_le inside (List.drop_suffix _ _) ?_⟩
      simp only [List.length_drop, List.length_cons, List.length_append]
      omega
    · exact ih

/-! ## 2. All pieces -/

theorem InOrder.mono {more : List Char} (inOrder : InOrder pieces text) (suffix : text <:+ more) :
    InOrder pieces more := by
  obtain ⟨front, rfl⟩ := suffix
  cases inOrder with
  | nil => exact .nil
  | @cons piece before after pieces later =>
    rw [← List.append_assoc, ← List.append_assoc]
    exact .cons later

theorem occurInOrder_iff : occurInOrder pieces text = true ↔ InOrder pieces text := by
  induction pieces generalizing text with
  | nil => exact ⟨fun _ => .nil, fun _ => rfl⟩
  | cons piece pieces ih =>
    rw [occurInOrder]
    constructor
    · intro found
      split at found
      · cases found
      · rename_i rest here
        obtain ⟨before, rfl⟩ := eq_append_of_after? here
        exact .cons (ih.mp found)
    · intro inOrder
      cases inOrder with
      | @cons _ before after _ later =>
        obtain ⟨rest, here, suffix⟩ := exists_after? before piece after
        rw [here]
        exact ih.mpr (later.mono suffix)

/-! ## 3. A text in itself -/

theorem InOrder.map (f : Char → Char) (inOrder : InOrder pieces text) :
    InOrder (pieces.map (·.map f)) (text.map f) := by
  induction inOrder with
  | nil => exact .nil
  | cons _ ih =>
    rw [List.map_cons, List.map_append, List.map_append]
    exact .cons ih

theorem InOrder.intercalate (separator : List Char) (pieces : List (List Char)) :
    InOrder pieces (separator.intercalate pieces) := by
  induction pieces with
  | nil => exact .nil
  | cons piece pieces ih =>
    by_cases last : pieces = []
    · subst last
      simpa using @InOrder.cons piece [] [] [] .nil
    · rw [List.intercalate_cons_of_ne_nil last, List.append_assoc]
      exact @InOrder.cons piece [] _ _ (ih.mono (List.suffix_append separator _))

end Text

open Text

theorem Pattern.occursIn_self {text : String} (oneLine : '\n' ∉ text.toList) :
    Pattern.occursIn text text = true := by
  have whole : InOrder (text.toList.splitOn '*') text.toList := by
    have parts := InOrder.intercalate ['*'] (text.toList.splitOn '*')
    rwa [List.intercalate_splitOn] at parts
  have folded : foldedLines text = [text.toList.map foldCase] := by
    rw [foldedLines, List.splitOn_eq_singleton oneLine, List.map_singleton]
  rw [occursIn, folded, List.any_cons, List.any_nil, Bool.or_false, occurInOrder_iff]
  exact whole.map foldCase

end LogSearch
