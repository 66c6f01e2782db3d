import LogSearch.Proofs.FreeText
import LogSearch.Proofs.Wildcards

/-!
# The case of ASCII letters

No clause sees the case of an ASCII letter, in itself or in a record. Around such a letter there may
be any other characters. A capital sigma does look at its neighbours, but a letter is one in either
case, so the sigma stays what it was.

* `Alike` relates texts that are equal but for the case of ASCII letters.
* `Value.Alike`, `Record.Alike` and `Clause.Alike` relate what is made of such texts in the same
  way.

Results:
1. `apply_toLower`: what does not see the case of the ASCII letters themselves never sees it.
2. `lowercase_map_toLower`, `Alike.lowercase_eq`: the lowercase of a whole text.
3. `splitOn_map`, `Alike.occursIn_eq`: the lines of a value and the pieces of a pattern.
4. `Record.Alike.get?`, `Record.Alike.text?`: the fields of a record.
5. `holds_eq_of_alike`: clauses.
-/

namespace LogSearch

namespace Text

/-- The texts are equal, but for the case of ASCII letters. -/
def Alike (text other : String) : Prop :=
  text.toList.map Char.toLower = other.toList.map Char.toLower

instance (text other : String) : Decidable (Alike text other) :=
  inferInstanceAs (Decidable (text.toList.map Char.toLower = other.toList.map Char.toLower))

/-! ## 1. Single characters -/

theorem toLower_of_le {c : Char} (high : 128 ≤ c.toNat) : c.toLower = c := by
  refine dif_neg ?_
  rintro ⟨-, last⟩
  have : c.toNat ≤ 90 := last
  omega

theorem apply_toLower {α : Type} (f : Char → α)
    (ascii : ∀ n : Fin 128, f (Char.ofNat n).toLower = f (Char.ofNat n)) (c : Char) :
    f c.toLower = f c := by
  by_cases low : c.toNat < 128
  · have here := ascii ⟨c.toNat, low⟩
    rwa [Char.ofNat_toNat] at here
  · rw [toLower_of_le (Nat.le_of_not_lt low)]

theorem isCased_toLower (c : Char) : isCased c.toLower = isCased c :=
  apply_toLower isCased (by decide) c

theorem isCaseIgnorable_toLower (c : Char) : isCaseIgnorable c.toLower = isCaseIgnorable c :=
  apply_toLower isCaseIgnorable (by decide) c

theorem lowercaseChar_toLower (c : Char) : lowercaseChar c.toLower = lowercaseChar c :=
  apply_toLower lowercaseChar (by decide) c

theorem foldCase_toLower (c : Char) : foldCase c.toLower = foldCase c :=
  apply_toLower foldCase (by decide) c

/-! ## 2. Lowercase -/

theorem meetsCased_map_toLower (text : List Char) :
    meetsCased (text.map Char.toLower) = meetsCased text := by
  induction text with
  | nil => rfl
  | cons c text ih =>
    rw [List.map_cons, meetsCased_cons, meetsCased_cons, isCaseIgnorable_toLower, isCased_toLower,
      ih]

theorem endsWord_map_toLower (before after : List Char) :
    endsWord (before.map Char.toLower) (after.map Char.toLower) = endsWord before after := by
  rw [endsWord, endsWord, meetsCased_map_toLower, meetsCased_map_toLower]

theorem lowercaseAt_toLower (before : List Char) (c : Char) (after : List Char) :
    lowercaseAt (before.map Char.toLower) c.toLower (after.map Char.toLower) =
      lowercaseAt before c after := by
  have sigma : (c.toLower = 'Σ') = (c = 'Σ') := apply_toLower (· = 'Σ') (by decide) c
  simp only [lowercaseAt, endsWord_map_toLower, lowercaseChar_toLower, sigma]

theorem lowercaseAfter_map_toLower (before text : List Char) :
    lowercaseAfter (before.map Char.toLower) (text.map Char.toLower) =
      lowercaseAfter before text := by
  induction text generalizing before with
  | nil => rfl
  | cons c text ih =>
    rw [List.map_cons, lowercaseAfter_cons, lowercaseAfter_cons, lowercaseAt_toLower,
      ← List.map_cons, ih]

theorem lowercase_map_toLower (text : List Char) :
    lowercase (text.map Char.toLower) = lowercase text :=
  lowercaseAfter_map_toLower [] text

theorem Alike.lowercase_eq {text other : String} (alike : Alike text other) :
    lowercase text.toList = lowercase other.toList := by
  rw [← lowercase_map_toLower text.toList, alike, lowercase_map_toLower]

theorem Alike.isEmpty_eq {text other : String} (alike : Alike text other) :
    text.isEmpty = other.isEmpty := by
  have same : text.toList = [] ↔ other.toList = [] := by
    rw [← List.map_eq_nil_iff, alike, List.map_eq_nil_iff]
  rw [Bool.eq_iff_iff, String.isEmpty_iff, String.isEmpty_iff, ← String.toList_eq_nil_iff, same,
    String.toList_eq_nil_iff]

/-! ## 3. Patterns -/

/-- The parts of a text are changed with the text, if only separators become separators. -/
theorem splitOn_map {f : Char → Char} {a : Char} (only : ∀ c, f c = a ↔ c = a)
    (text : List Char) : (text.map f).splitOn a = (text.splitOn a).map (·.map f) := by
  have free {part : List Char} (free : a ∉ part) : a ∉ part.map f := by
    rintro member
    obtain ⟨c, inside, image⟩ := List.mem_map.mp member
    exact free ((only c).mp image ▸ inside)
  refine splitOn_induction
    (motive := fun text parts => (text.map f).splitOn a = parts.map (·.map f)) ?_ ?_ text
  · intro part noMark
    exact List.splitOn_eq_singleton (free noMark)
  · intro part rest noMark ih
    rw [List.map_append, List.map_cons, (only a).mpr rfl,
      List.splitOn_append_cons_self_of_not_mem (free noMark), ih, List.map_cons]

/-- The parts of a text without letter case are those of the text in lowercase. -/
theorem foldedParts_map_toLower {a : Char} (only : ∀ c : Char, c.toLower = a ↔ c = a)
    (text : List Char) :
    ((text.map Char.toLower).splitOn a).map (·.map foldCase) =
      (text.splitOn a).map (·.map foldCase) := by
  have folds : foldCase ∘ Char.toLower = foldCase := funext foldCase_toLower
  rw [splitOn_map only, List.map_map]
  refine List.map_congr_left fun part _ => ?_
  rw [Function.comp_apply, List.map_map, folds]

variable {pattern other value otherValue : String}

theorem Alike.pieces_eq (alike : Alike pattern other) :
    Pattern.pieces pattern = Pattern.pieces other := by
  have star (c : Char) : c.toLower = '*' ↔ c = '*' :=
    iff_of_eq (apply_toLower (· = '*') (by decide) c)
  rw [Pattern.pieces, ← foldedParts_map_toLower star, alike, foldedParts_map_toLower star,
    Pattern.pieces]

theorem Alike.foldedLines_eq (alike : Alike value otherValue) :
    Pattern.foldedLines value = Pattern.foldedLines otherValue := by
  have lineFeed (c : Char) : c.toLower = '\n' ↔ c = '\n' :=
    iff_of_eq (apply_toLower (· = '\n') (by decide) c)
  rw [Pattern.foldedLines, ← foldedParts_map_toLower lineFeed, alike,
    foldedParts_map_toLower lineFeed, Pattern.foldedLines]

theorem Alike.occursIn_eq (alike : Alike pattern other) (alikeValue : Alike value otherValue) :
    Pattern.occursIn pattern value = Pattern.occursIn other otherValue := by
  rw [Pattern.occursIn, Pattern.occursIn, alike.pieces_eq, alikeValue.foldedLines_eq]

end Text

open Text

/-! ## 4. Records -/

/-- The values are the same integer, or texts that are alike. -/
inductive Value.Alike : Value → Value → Prop
  | int (n : Int64) : Alike (.int n) (.int n)
  | text {s t : String} : Text.Alike s t → Alike (.text s) (.text t)

theorem Value.Alike.toText {value other : Value} (alike : value.Alike other) :
    Text.Alike value.toText other.toText := by
  cases alike with
  | int n => exact rfl
  | text alike => exact alike

theorem Value.Alike.int?_eq {value other : Value} (alike : value.Alike other) :
    value.int? = other.int? := by
  cases alike with
  | int n => rfl
  | text alike => rfl

/-- The fields have the same name, and values that are alike. -/
def Record.AlikeField (field other : String × Value) : Prop :=
  field.1 = other.1 ∧ field.2.Alike other.2

/-- The records have the same names in the same order, with values that are alike. -/
def Record.Alike (record other : Record) : Prop :=
  List.Forall₂ Record.AlikeField record.fields other.fields

/-- A test that does not tell related values apart is passed by both or by none. -/
theorem any_eq_of_rel {α : Type} {related : α → α → Prop} {value? other? : Option α}
    (rel : Option.Rel related value? other?) {p q : α → Bool}
    (same : ∀ a b, related a b → p a = q b) : value?.any p = other?.any q := by
  cases rel with
  | some rel => exact same _ _ rel
  | none => rfl

namespace Record.Alike

variable {fields others : List (String × Value)} {record other : Record}

theorem lookup (alike : List.Forall₂ AlikeField fields others) (name : String) :
    Option.Rel Value.Alike (fields.lookup name) (others.lookup name) := by
  induction alike with
  | nil => exact .none
  | @cons field other _ _ both _ ih =>
    obtain ⟨names, values⟩ := both
    rw [List.lookup_cons, List.lookup_cons, names]
    split
    · exact .some values
    · exact ih

theorem any_eq (alike : List.Forall₂ AlikeField fields others) {p q : String × Value → Bool}
    (same : ∀ field other, AlikeField field other → p field = q other) :
    fields.any p = others.any q := by
  induction alike with
  | nil => rfl
  | cons both _ ih => rw [List.any_cons, List.any_cons, same _ _ both, ih]

theorem get? (alike : record.Alike other) (name : String) :
    Option.Rel Value.Alike (record.get? name) (other.get? name) :=
  lookup alike name

theorem text? (alike : record.Alike other) (name : String) :
    Option.Rel Text.Alike (record.text? name) (other.text? name) := by
  have values := alike.get? name
  rw [Record.text?, Record.text?]
  generalize record.get? name = value?, other.get? name = other? at values ⊢
  cases values with
  | some values => exact .some values.toText
  | none => exact .none

end Record.Alike

/-! ## 5. Clauses -/

/-- The clauses are of the same kind and about the same field, and what they ask for is alike. -/
inductive Clause.Alike : Clause → Clause → Prop
  | equals {field value value' : String} :
      Text.Alike value value' → Alike (.equals field value) (.equals field value')
  | wildcard {field pattern pattern' : String} :
      Text.Alike pattern pattern' → Alike (.wildcard field pattern) (.wildcard field pattern')
  | range (field : String) (min max : Int64) : Alike (.range field min max) (.range field min max)
  | freeText {text text' : String} :
      Text.Alike text text' → Alike (.freeText text) (.freeText text')

/-- Alike clauses hold of alike records together, whatever else stands in their texts. -/
theorem Clause.holds_eq_of_alike {clause clause' : Clause} {record record' : Record}
    (asked : clause.Alike clause') (stored : record.Alike record') :
    clause.holds record = clause'.holds record' := by
  cases asked with
  | equals alike =>
    refine any_eq_of_rel (stored.text? _) fun text text' texts => ?_
    rw [texts.lowercase_eq, alike.lowercase_eq]
  | wildcard alike =>
    exact any_eq_of_rel (stored.text? _) fun text text' texts => alike.occursIn_eq texts
  | range field min max =>
    rw [holds, holds, Option.any_bind, Option.any_bind]
    refine any_eq_of_rel (stored.get? field) fun value value' values => ?_
    rw [Function.comp_apply, Function.comp_apply, values.int?_eq]
  | freeText alike =>
    rw [holds, holds, alike.isEmpty_eq]
    congr 1
    refine Record.Alike.any_eq stored ?_
    rintro ⟨_, value⟩ ⟨_, value'⟩ ⟨-, values⟩
    have texts : Text.Alike value.toText value'.toText := values.toText
    simp only [alike.lowercase_eq, texts.lowercase_eq]

/-- A sigma after the only other letter, which is of the one case or of the other: it ends the word
in both records, in the value that is compared and in the text that is searched for. -/
theorem Clause.holds_eq_of_alike_sigma :
    let record : Record := .ofList [("city", .text "xΣ, K*"), ("hour", .int 3)]
    let other : Record := .ofList [("city", .text "XΣ, k*"), ("hour", .int 3)]
    record.Alike other ∧
    (Clause.Alike (.equals "city" "XΣ, K*") (.equals "city" "xΣ, k*") ∧
      (Clause.equals "city" "XΣ, K*").holds record = true ∧
      (Clause.equals "city" "xΣ, k*").holds other = true) ∧
    (Clause.Alike (.wildcard "city" "X*k") (.wildcard "city" "x*K") ∧
      (Clause.wildcard "city" "X*k").holds record = true ∧
      (Clause.wildcard "city" "x*K").holds other = true) ∧
    (Clause.Alike (.freeText "Xς") (.freeText "xς") ∧
      (Clause.freeText "Xς").holds record = true ∧ (Clause.freeText "xς").holds other = true) := by
  intro record other
  have stored : record.Alike other :=
    .cons ⟨rfl, .text (by decide)⟩ (.cons ⟨rfl, .int 3⟩ .nil)
  have equals : Clause.Alike (.equals "city" "XΣ, K*") (.equals "city" "xΣ, k*") :=
    .equals (by decide)
  have wildcard : Clause.Alike (.wildcard "city" "X*k") (.wildcard "city" "x*K") :=
    .wildcard (by decide)
  have freeText : Clause.Alike (.freeText "Xς") (.freeText "xς") := .freeText (by decide)
  have equalsHolds : (Clause.equals "city" "XΣ, K*").holds record = true := by decide +kernel
  have wildcardHolds : (Clause.wildcard "city" "X*k").holds record = true := by decide +kernel
  have freeTextHolds : (Clause.freeText "Xς").holds record = true := by decide +kernel
  refine ⟨stored, ⟨equals, equalsHolds, ?_⟩, ⟨wildcard, wildcardHolds, ?_⟩,
    ⟨freeText, freeTextHolds, ?_⟩⟩
  · rwa [← Clause.holds_eq_of_alike equals stored]
  · rwa [← Clause.holds_eq_of_alike wildcard stored]
  · rwa [← Clause.holds_eq_of_alike freeText stored]

end LogSearch
