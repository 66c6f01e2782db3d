import LogSearch.Proofs.Layout

/-!
# White space at the end of a JSON text

No token ends with white space, so white space at the end of a text is no part of a token and the
text keeps its meaning without it.

Results:
1. `Numeral.Spelled.concat`, `Word.concat`: the last character of a token.
2. `layout_append_space`: tokens.
3. `parse?_append_space`: values.
-/

namespace LogSearch.Json

open Clause (Run)

variable {c : Char} {text word : List Char} {token : Token} {list : List Token}

/-! ## 1. The end of a token -/

/-- The text ends with a character that is no white space. -/
def SolidEnd (text : List Char) : Prop :=
  ∃ front last, text = front ++ [last] ∧ isSpace last = false

theorem SolidEnd.append (front : List Char) (solid : SolidEnd text) : SolidEnd (front ++ text) := by
  obtain ⟨middle, last, rfl, noSpace⟩ := solid
  exact ⟨front ++ middle, last, (List.append_assoc _ _ _).symm, noSpace⟩

namespace Numeral

theorem solidEnd_run {digits : List Char} (run : Run Char.isDigit digits) : SolidEnd digits := by
  obtain ⟨front, last, rfl⟩ := (List.eq_nil_or_concat digits).resolve_left run.1
  have digit := run.2 last (by simp)
  exact ⟨front, last, by simp, not_isSpace_of_number (.inl digit)⟩

theorem WholeText.solidEnd {whole : List Char} (is : WholeText whole) : SolidEnd whole := by
  cases is with
  | zero => exact ⟨[], '0', rfl, rfl⟩
  | digits run => exact solidEnd_run run

theorem ScaleText.solidEnd {scale : Int} (is : ScaleText scale text) : SolidEnd text := by
  cases is with
  | unsigned run => exact solidEnd_run run
  | plus run => exact (solidEnd_run run).append ['+']
  | minus run => exact (solidEnd_run run).append ['-']

theorem Spelled.solidEnd {numeral : Numeral} (spelled : numeral.Spelled word) : SolidEnd word := by
  cases spelled with
  | intro negative whole fraction exponent =>
    refine .append _ ?_
    cases exponent with
    | small scale =>
      have ends := scale.solidEnd.append ['e']
      exact .append _ (.append _ ends)
    | big scale =>
      have ends := scale.solidEnd.append ['E']
      exact .append _ (.append _ ends)
    | none =>
      rw [List.append_nil]
      cases fraction with
      | point run =>
        have ends := (solidEnd_run run).append ['.']
        exact .append _ ends
      | none =>
        rw [List.append_nil]
        exact whole.solidEnd

end Numeral

theorem Word.solidEnd (is : Word token word) : SolidEnd word := by
  cases is with
  | number spelled => exact spelled.solidEnd
  | string => exact ⟨'"' :: _, '"', rfl, rfl⟩
  | null => exact ⟨['n', 'u', 'l'], 'l', rfl, rfl⟩
  | true_ => exact ⟨['t', 'r', 'u'], 'e', rfl, rfl⟩
  | false_ => exact ⟨['f', 'a', 'l', 's'], 'e', rfl, rfl⟩
  | _ => exact ⟨[], _, rfl, rfl⟩

/-! ## 2. Tokens -/

theorem Layout.append_space (layout : Layout list text) (space : isSpace c = true) :
    Layout list (text ++ [c]) := by
  induction layout with
  | nil => exact .space space .nil
  | space first _ ih => exact .space first ih
  | token is _ ih =>
    rw [List.append_assoc]
    exact .token is ih

theorem Layout.of_append_space {whole : List Char} (layout : Layout list whole)
    (space : isSpace c = true) (ends : whole = text ++ [c]) : Layout list text := by
  induction layout generalizing text with
  | nil => simp at ends
  | @space d list whole first inner ih =>
    cases text with
    | nil =>
      obtain ⟨-, rfl⟩ := List.cons.inj ends
      exact inner
    | cons e text =>
      obtain ⟨rfl, shorter⟩ := List.cons.inj ends
      exact .space first (ih shorter)
  | @token token word list later is inner ih =>
    rcases List.eq_nil_or_concat later with rfl | ⟨front, last, rfl⟩
    · -- The token would end with the white space.
      obtain ⟨front, last, rfl, solid⟩ := is.solidEnd
      rw [List.append_nil] at ends
      obtain ⟨-, same⟩ := List.append_inj' ends rfl
      rw [List.singleton_inj.mp same, space] at solid
      cases solid
    · rw [List.concat_eq_append, ← List.append_assoc] at ends
      obtain ⟨rfl, same⟩ := List.append_inj' ends rfl
      obtain rfl := List.singleton_inj.mp same
      exact .token is (ih List.concat_eq_append)

/-! ## 3. Values -/

theorem parse?_append_space (space : isSpace c = true) (text : List Char) :
    parse? (.ofList (text ++ [c])) = parse? (.ofList text) := by
  refine Option.ext fun json => ?_
  simp only [parse?_eq_some_iff, String.toList_ofList]
  refine exists_congr fun document => and_congr_left fun _ => ?_
  exact ⟨fun layout => layout.of_append_space space rfl, fun layout => layout.append_space space⟩

end LogSearch.Json
