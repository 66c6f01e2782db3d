import LogSearch.Text.Scan
import Mathlib.Data.List.TakeWhile

/-!
# Trimmed texts

`strip p` takes a text apart into characters of the class `p`, a core that has none of them at
either end, and characters of the class again.

Results:
1. `strip_append`: characters of the class around a text do not matter.
2. `exists_strip`: what is taken away is of the class.
3. `bare_strip`, `strip_eq_self`: the result is bare, and a bare text is its own result.
4. `strip_eq_nil_iff`: nothing remains exactly of a text of the class.
-/

namespace LogSearch.Text

/-- No character of the class stands at either end of the text. -/
def Bare (p : Char → Bool) (text : List Char) : Prop :=
  (∀ c ∈ text.head?, p c = false) ∧ ∀ c ∈ text.getLast?, p c = false

instance (p : Char → Bool) (text : List Char) : Decidable (Bare p text) :=
  decidable_of_iff (text.head?.all (!p ·) = true ∧ text.getLast?.all (!p ·) = true) (by
    simp only [Bare, Option.all_eq_true, Option.mem_def, Bool.not_eq_true'])

variable {p : Char → Bool} {text : List Char}

/-! ## 1. What stands around a text -/

theorem strip_append {left right : List Char} (before : ∀ c ∈ left, p c = true)
    (after : ∀ c ∈ right, p c = true) : strip p (left ++ text ++ right) = strip p text := by
  unfold strip
  rw [List.append_assoc, List.dropWhile_append_of_pos before, List.dropWhile_append]
  cases text.dropWhile p with
  | nil =>
    rw [List.isEmpty_nil, if_pos rfl, List.dropWhile_eq_nil_iff.mpr after]
  | cons c rest =>
    rw [List.isEmpty_cons, if_neg Bool.false_ne_true, List.reverse_append,
      List.dropWhile_append_of_pos fun c member => after c (List.mem_reverse.mp member)]

theorem exists_strip (p : Char → Bool) (text : List Char) :
    ∃ left right, text = left ++ strip p text ++ right ∧
      (∀ c ∈ left, p c = true) ∧ ∀ c ∈ right, p c = true := by
  refine ⟨text.takeWhile p, ((text.dropWhile p).reverse.takeWhile p).reverse, ?_, ?_, ?_⟩
  · rw [strip, List.append_assoc, ← List.reverse_append, List.takeWhile_append_dropWhile,
      List.reverse_reverse, List.takeWhile_append_dropWhile]
  · exact List.all_eq_true.mp List.all_takeWhile
  · intro c member
    exact List.all_eq_true.mp List.all_takeWhile c (List.mem_reverse.mp member)

theorem strip_sublist (p : Char → Bool) (text : List Char) : (strip p text).Sublist text := by
  obtain ⟨left, right, parts, -, -⟩ := exists_strip p text
  have inner : (strip p text).Sublist (left ++ strip p text ++ right) :=
    (List.sublist_append_right left _).trans (List.sublist_append_left _ right)
  rwa [← parts] at inner

/-! ## 2. The core -/

theorem bare_strip (p : Char → Bool) (text : List Char) : Bare p (strip p text) := by
  have last : ∀ c ∈ (strip p text).getLast?, p c = false := by
    intro c member
    have stop := List.head?_dropWhile_not p (text.dropWhile p).reverse
    rw [strip, List.getLast?_reverse, Option.mem_def] at member
    rw [member] at stop
    exact stop
  refine ⟨fun c member => ?_, last⟩
  -- The core starts where the text does once its first characters of the class are gone.
  obtain ⟨right, parts⟩ : ∃ right, text.dropWhile p = strip p text ++ right := by
    refine ⟨((text.dropWhile p).reverse.takeWhile p).reverse, ?_⟩
    rw [strip, ← List.reverse_append, List.takeWhile_append_dropWhile, List.reverse_reverse]
  have stop := List.head?_dropWhile_not p text
  rw [parts, List.head?_append, Option.mem_def.mp member] at stop
  exact stop

theorem strip_eq_self (bare : Bare p text) : strip p text = text := by
  have first : text.dropWhile p = text := by
    cases text with
    | nil => rfl
    | cons c rest => rw [List.dropWhile_cons_of_neg (by simp [bare.1 c rfl])]
  have last : text.reverse.dropWhile p = text.reverse := by
    cases here : text.reverse with
    | nil => rfl
    | cons c rest =>
      have : p c = false := bare.2 c (by rw [← List.head?_reverse, here]; rfl)
      rw [List.dropWhile_cons_of_neg (by simp [this])]
  rw [strip, first, last, List.reverse_reverse]

@[simp] theorem strip_strip (p : Char → Bool) (text : List Char) :
    strip p (strip p text) = strip p text :=
  strip_eq_self (bare_strip p text)

theorem strip_eq_nil_iff : strip p text = [] ↔ ∀ c ∈ text, p c = true := by
  constructor
  · intro empty
    obtain ⟨left, right, parts, before, after⟩ := exists_strip p text
    rw [empty, List.append_nil] at parts
    intro c member
    rw [parts, List.mem_append] at member
    exact member.elim (before c) (after c)
  · intro inside
    have whole : strip p (text ++ [] ++ []) = strip p [] := strip_append inside (by simp)
    rw [List.append_nil, List.append_nil] at whole
    exact whole

/-! ## 3. White space -/

theorem trim_append {left right : List Char} (before : isBlankText left = true)
    (after : isBlankText right = true) : trim (left ++ text ++ right) = trim text :=
  strip_append (List.all_eq_true.mp before) (List.all_eq_true.mp after)

@[simp] theorem trim_trim (text : List Char) : trim (trim text) = trim text :=
  strip_strip isBlank text

theorem bare_trim (text : List Char) : Bare isBlank (trim text) :=
  bare_strip isBlank text

theorem trim_sublist (text : List Char) : (trim text).Sublist text :=
  strip_sublist isBlank text

theorem length_trim_le (text : List Char) : (trim text).length ≤ text.length :=
  (trim_sublist text).length_le

/-- Among the printable ASCII characters only the space is white space. -/
theorem toNat_of_isBlank {c : Char} (blank : isBlank c = true) : c.toNat ≤ 32 ∨ 127 < c.toNat := by
  simp only [isBlank, Ranges.has, blankRanges, List.any_cons, List.any_nil, Bool.or_eq_true,
    Bool.and_eq_true, decide_eq_true_eq, Bool.false_eq_true, or_false] at blank
  omega

theorem toNat_of_isAlphanum {c : Char} (alphanum : c.isAlphanum = true) :
    48 ≤ c.toNat ∧ c.toNat ≤ 122 := by
  have ranges : c.isAlphanum = ((decide (c.val ≥ 65 ∧ c.val ≤ 90)
      || decide (c.val ≥ 97) && decide (c.val ≤ 122)) || c.isDigit) := rfl
  have inside : 48 ≤ c.val ∧ c.val ≤ 122 := by
    simp only [ranges, Char.isDigit, Bool.or_eq_true, Bool.and_eq_true,
      decide_eq_true_eq] at alphanum
    grind
  exact inside

theorem not_isBlank_of_isAlphanum {c : Char} (alphanum : c.isAlphanum = true) :
    isBlank c = false := by
  refine Bool.eq_false_iff.mpr fun blank => ?_
  have outside := toNat_of_isBlank blank
  have inside := toNat_of_isAlphanum alphanum
  omega

theorem not_isBlank_of_isDigit {c : Char} (digit : c.isDigit = true) : isBlank c = false :=
  not_isBlank_of_isAlphanum (by rw [Char.isAlphanum, digit, Bool.or_true])

theorem trim_eq_nil_iff : trim text = [] ↔ isBlankText text = true := by
  rw [trim, strip_eq_nil_iff, isBlankText, List.all_eq_true]

end LogSearch.Text
