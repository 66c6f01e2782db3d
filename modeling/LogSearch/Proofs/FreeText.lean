import LogSearch.Proofs.Occurrences
import LogSearch.Proofs.StoredValues

/-!
# Free text

Free text is searched for in lowercase, and both sides are lowercased as a whole. A piece of a text
need not have the same lowercase there as by itself: a capital sigma at an end of the piece may end
a word in the one and not in the other. No other character looks at its neighbours.

* `lowercaseWithin`: the lowercase of a piece at its place in a text.
* `KeepsSigmas`: every capital sigma ends a word at its place if it does in the piece by itself, and
  the other way round.
* `Place`: a place in a record where a piece stands.

Results:
1. `lowercase_append`: the lowercase of a text is that of its pieces at their places.
2. `lowercaseWithin_eq_iff`: a piece has its own lowercase exactly if `KeepsSigmas`.
3. `occurs_iff`: the search for one piece.
4. `Place.exists_infix_iff`, `holds_freeText_iff`: when a piece of a record is found in it.
-/

namespace LogSearch

namespace Text

/-! ## 1. Lowercase at a place -/

/-- The lowercase of a character between its neighbours. `before` holds the characters before it,
nearest first. -/
def lowercaseAt (before : List Char) (c : Char) (after : List Char) : List Char :=
  if c = 'Σ' ∧ endsWord before after then ['ς'] else lowercaseChar c

/-- The lowercase of a piece of a text. `before` holds the characters before it, nearest first. -/
def lowercaseWithin (before piece after : List Char) : List Char :=
  match piece with
  | [] => []
  | c :: piece => lowercaseAt before c (piece ++ after) ++ lowercaseWithin (c :: before) piece after

variable {before piece after : List Char} {c : Char}

theorem lowercaseAfter_cons :
    lowercaseAfter before (c :: after) =
      lowercaseAt before c after ++ lowercaseAfter (c :: before) after :=
  rfl

theorem lowercaseAfter_append :
    lowercaseAfter before (piece ++ after) =
      lowercaseWithin before piece after ++ lowercaseAfter (piece.reverse ++ before) after := by
  induction piece generalizing before with
  | nil => rfl
  | cons c piece ih =>
    rw [List.cons_append, lowercaseAfter_cons, lowercaseWithin, ih, List.append_assoc,
      List.reverse_cons, List.append_assoc, List.singleton_append]

theorem lowercase_append :
    lowercase (before ++ piece ++ after) =
      lowercaseWithin [] before (piece ++ after) ++
        (lowercaseWithin before.reverse piece after ++
          lowercaseAfter (piece.reverse ++ before.reverse) after) := by
  rw [lowercase, List.append_assoc, lowercaseAfter_append, lowercaseAfter_append, List.append_nil]

/-- By itself, a piece stands between nothing and nothing. -/
theorem lowercase_eq_lowercaseWithin : lowercase piece = lowercaseWithin [] piece [] := by
  have alone := @lowercaseAfter_append [] piece []
  rwa [List.append_nil, lowercaseAfter, List.append_nil] at alone

/-! ## 2. Capital sigmas -/

theorem lowercaseChar_sigma : lowercaseChar 'Σ' = ['σ'] := by
  decide +kernel

theorem length_lowercaseAt : (lowercaseAt before c after).length = (lowercaseChar c).length := by
  unfold lowercaseAt
  split
  · rename_i final
    rw [final.1, lowercaseChar_sigma, List.length_singleton, List.length_singleton]
  · rfl

/-- The neighbours of a piece do not decide how long its lowercase is. -/
theorem length_lowercaseWithin :
    (lowercaseWithin before piece after).length = (piece.flatMap lowercaseChar).length := by
  induction piece generalizing before with
  | nil => rfl
  | cons c piece ih =>
    rw [lowercaseWithin, List.length_append, length_lowercaseAt, ih, List.flatMap_cons,
      List.length_append]

theorem length_lowercaseWithin_eq :
    (lowercaseWithin before piece after).length = (lowercase piece).length := by
  rw [lowercase_eq_lowercaseWithin, length_lowercaseWithin, length_lowercaseWithin]

theorem lowercaseAt_eq_iff {before' after' : List Char} :
    lowercaseAt before c after = lowercaseAt before' c after' ↔
      (c = 'Σ' → endsWord before after = endsWord before' after') := by
  by_cases sigma : c = 'Σ'
  · subst sigma
    simp only [lowercaseAt, lowercaseChar_sigma, true_and, forall_const]
    cases endsWord before after <;> cases endsWord before' after' <;> decide
  · simp only [lowercaseAt, sigma, false_and, if_false, false_implies]

/-- Two places of a piece give it the same lowercase if they agree on each of its capital sigmas. -/
theorem lowercaseWithin_inj {before' after' : List Char} :
    lowercaseWithin before piece after = lowercaseWithin before' piece after' ↔
      ∀ left right, piece = left ++ 'Σ' :: right →
        endsWord (left.reverse ++ before) (right ++ after) =
          endsWord (left.reverse ++ before') (right ++ after') := by
  induction piece generalizing before before' with
  | nil => simp [lowercaseWithin]
  | cons c piece ih =>
    have sameLength : (lowercaseAt before c (piece ++ after)).length =
        (lowercaseAt before' c (piece ++ after')).length := by
      rw [length_lowercaseAt, length_lowercaseAt]
    have parts : lowercaseWithin before (c :: piece) after =
          lowercaseWithin before' (c :: piece) after' ↔
        lowercaseAt before c (piece ++ after) = lowercaseAt before' c (piece ++ after') ∧
          lowercaseWithin (c :: before) piece after =
            lowercaseWithin (c :: before') piece after' := by
      rw [lowercaseWithin, lowercaseWithin]
      exact ⟨fun same => List.append_inj same sameLength, fun ⟨same, rest⟩ => by rw [same, rest]⟩
    rw [parts, lowercaseAt_eq_iff, ih]
    -- A capital sigma is the first character or one of those behind it.
    constructor
    · rintro ⟨first, later⟩ left right whole
      cases left with
      | nil =>
        obtain ⟨rfl, rfl⟩ := List.cons.inj whole
        exact first rfl
      | cons d left =>
        obtain ⟨rfl, rest⟩ := List.cons.inj whole
        simpa using later left right rest
    · intro all
      refine ⟨?_, fun left right whole => ?_⟩
      · rintro rfl
        exact all [] piece rfl
      · simpa using all (c :: left) right (congrArg (c :: ·) whole)

/-- Each capital sigma of the piece ends a word of the text exactly if it ends one of the piece. -/
def KeepsSigmas (before piece after : List Char) : Prop :=
  ∀ left right, piece = left ++ 'Σ' :: right →
    endsWord (left.reverse ++ before.reverse) (right ++ after) = endsWord left.reverse right

theorem lowercaseWithin_eq_iff :
    lowercaseWithin before.reverse piece after = lowercase piece ↔
      KeepsSigmas before piece after := by
  rw [lowercase_eq_lowercaseWithin, lowercaseWithin_inj, KeepsSigmas]
  simp only [List.append_nil]

theorem KeepsSigmas.of_not_mem (noSigma : 'Σ' ∉ piece) : KeepsSigmas before piece after := by
  rintro left right rfl
  exact absurd (List.mem_append_right left List.mem_cons_self) noSigma

theorem meetsCased_cons {text : List Char} :
    meetsCased (c :: text) = if isCaseIgnorable c then meetsCased text else isCased c := by
  rw [meetsCased, List.dropWhile_cons]
  cases isCaseIgnorable c <;> rfl

/-- What lies far off is met only behind nothing but case-ignorable characters. -/
theorem meetsCased_append {near far : List Char} (apart : meetsCased far = false) :
    meetsCased (near ++ far) = meetsCased near := by
  induction near with
  | nil => exact apart
  | cons c near ih => rw [List.cons_append, meetsCased_cons, meetsCased_cons, ih]

/-- A piece that no cased letter adjoins consists of whole words. -/
theorem KeepsSigmas.of_apart (left : meetsCased before.reverse = false)
    (right : meetsCased after = false) : KeepsSigmas before piece after := by
  intro near next _
  rw [endsWord, meetsCased_append left, meetsCased_append right, endsWord]

/-! ## 3. The search for one piece -/

theorem occurs_iff {text : List Char} : occurs piece text = true ↔ piece <:+: text := by
  rw [occurs, Option.isSome_iff_exists]
  constructor
  · rintro ⟨rest, found⟩
    obtain ⟨before, rfl⟩ := eq_append_of_after? found
    exact ⟨before, rest, rfl⟩
  · rintro ⟨before, after, rfl⟩
    obtain ⟨rest, found, -⟩ := exists_after? before piece after
    exact ⟨rest, found⟩

end Text

open Text

/-! ## 4. Pieces of a record -/

/-- A place in a record where the piece stands: a field, and what comes before the piece and after
it in the field's text. -/
structure Place (record : Record) (piece : List Char) where
  field : String
  value : Value
  before : List Char
  after : List Char
  stored : (field, value) ∈ record.fields
  whole : value.toText.toList = before ++ piece ++ after

variable {record : Record} {piece : List Char}

/-- The lowercase of the piece stands in the lowercase of some field, but not at the place where the
piece was taken from. The neighbours never decide how long a lowercase is, so that place begins
after as many characters as the lowercase of what comes before has by itself. -/
def Place.Elsewhere (place : Place record piece) : Prop :=
  ∃ field value left right, (field, value) ∈ record.fields ∧
    lowercase value.toText.toList = left ++ lowercase piece ++ right ∧
    ¬ (field = place.field ∧ left.length = (lowercase place.before).length)

theorem Clause.holds_freeText_iff_exists (nonempty : piece ≠ []) :
    (Clause.freeText (.ofList piece)).holds record = true ↔
      ∃ field value, (field, value) ∈ record.fields ∧
        lowercase piece <:+: lowercase value.toText.toList := by
  have typed : (String.ofList piece).isEmpty = false := by
    rw [← Bool.not_eq_true, String.isEmpty_iff, ← String.toList_eq_nil_iff, String.toList_ofList]
    exact nonempty
  simp only [holds, typed, Bool.not_false, Bool.true_and, List.any_eq_true, String.toList_ofList,
    occurs_iff, Prod.exists]

theorem Place.keepsSigmas_of_lowercase (place : Place record piece) {left right : List Char}
    (found : lowercase place.value.toText.toList = left ++ lowercase piece ++ right)
    (here : left.length = (lowercase place.before).length) :
    KeepsSigmas place.before piece place.after := by
  rw [place.whole, lowercase_append, List.append_assoc] at found
  have front : (lowercaseWithin [] place.before (piece ++ place.after)).length = left.length := by
    rw [length_lowercaseWithin_eq, here]
  have rest := (List.append_inj found front).2
  exact lowercaseWithin_eq_iff.mp (List.append_inj rest length_lowercaseWithin_eq).1

theorem Place.infix_of_keepsSigmas (place : Place record piece)
    (keeps : KeepsSigmas place.before piece place.after) :
    lowercase piece <:+: lowercase place.value.toText.toList := by
  rw [place.whole, lowercase_append, lowercaseWithin_eq_iff.mpr keeps, ← List.append_assoc]
  exact ⟨_, _, rfl⟩

/-- The lowercase of the piece stands somewhere in the record if it stands at the place of the piece
or elsewhere. -/
theorem Place.exists_infix_iff (place : Place record piece) :
    (∃ field value, (field, value) ∈ record.fields ∧
      lowercase piece <:+: lowercase value.toText.toList) ↔
        KeepsSigmas place.before piece place.after ∨ place.Elsewhere := by
  constructor
  · rintro ⟨field, value, stored, left, right, found⟩
    by_cases here : field = place.field ∧ left.length = (lowercase place.before).length
    · obtain ⟨rfl, length⟩ := here
      -- No field is named twice, so this is the text that the piece was taken from.
      have same : value = place.value :=
        Option.some.inj ((lookup_of_mem record.distinct stored).symm.trans
          (lookup_of_mem record.distinct place.stored))
      exact .inl (place.keepsSigmas_of_lowercase (same ▸ found.symm) length)
    · exact .inr ⟨field, value, left, right, stored, found.symm, here⟩
  · rintro (keeps | ⟨field, value, left, right, stored, found, -⟩)
    · exact ⟨_, _, place.stored, place.infix_of_keepsSigmas keeps⟩
    · exact ⟨field, value, stored, left, right, found.symm⟩

/-- A piece of a record is found in it if its capital sigmas are the same at its place as in the
piece by itself, or if its lowercase happens to stand elsewhere in the record. So it is always found
if it has no capital sigma, and if it consists of whole words. -/
theorem Clause.holds_freeText_iff (place : Place record piece) (nonempty : piece ≠ []) :
    ((Clause.freeText (.ofList piece)).holds record = true ↔
      KeepsSigmas place.before piece place.after ∨ place.Elsewhere) ∧
    ('Σ' ∉ piece → (Clause.freeText (.ofList piece)).holds record = true) ∧
    (meetsCased place.before.reverse = false → meetsCased place.after = false →
      (Clause.freeText (.ofList piece)).holds record = true) := by
  have condition : (Clause.freeText (.ofList piece)).holds record = true ↔
      KeepsSigmas place.before piece place.after ∨ place.Elsewhere :=
    (holds_freeText_iff_exists nonempty).trans place.exists_infix_iff
  refine ⟨condition, ?plain, ?words⟩
  case plain =>
    intro noSigma
    exact condition.mpr (.inl (.of_not_mem noSigma))
  case words =>
    intro left right
    exact condition.mpr (.inl (.of_apart left right))

/-- A whole word is found, although its sigma would not be final before another letter. -/
theorem Clause.holds_freeText_iff_word :
    "ΟΔΟΣ".toList ≠ [] ∧ meetsCased " ΑΣΑ".toList = false ∧
    (Clause.freeText "ΟΔΟΣ").holds (.ofList [("city", .text "ΟΔΟΣ ΑΣΑ")]) = true := by
  have nonempty : "ΟΔΟΣ".toList ≠ [] := by decide
  have apart : meetsCased " ΑΣΑ".toList = false := by decide +kernel
  let place : Place (.ofList [("city", .text "ΟΔΟΣ ΑΣΑ")]) "ΟΔΟΣ".toList :=
    { field := "city", value := .text "ΟΔΟΣ ΑΣΑ", before := [], after := " ΑΣΑ".toList,
      stored := by decide, whole := by decide }
  exact ⟨nonempty, apart, (Clause.holds_freeText_iff place nonempty).2.2 rfl apart⟩

/-- The beginning of a word is not found where the word goes on, since its sigma is final in the
piece alone. A wildcard finds it. -/
theorem Clause.holds_freeText_sigma :
    ("city", .text "ΟΔΟΣΑ") ∈ (Record.ofList [("city", .text "ΟΔΟΣΑ")]).fields ∧
    "ΟΔΟΣΑ".toList = [] ++ "ΟΔΟΣ".toList ++ "Α".toList ∧ "ΟΔΟΣ".toList ≠ [] ∧
    (Clause.freeText "ΟΔΟΣ").holds (.ofList [("city", .text "ΟΔΟΣΑ")]) = false ∧
    (Clause.wildcard "city" "*ΟΔΟΣ*").holds (.ofList [("city", .text "ΟΔΟΣΑ")]) = true := by
  refine ⟨by decide, by decide, by decide, by decide +kernel, by decide +kernel⟩

end LogSearch
