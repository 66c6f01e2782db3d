import LogSearch.Proofs.Occurrences
import LogSearch.Proofs.Search
import LogSearch.Proofs.Shapes

/-!
# Finding a stored value

A field of a record is found by typing its name and the text of its value, as long as the grammar
of queries can tell the value from something else (`Typable`). A value with stars is then a pattern,
and a pattern matches its own text.

Results:
1. `Record.text?_of_mem`: a record gives back what is stored in it.
2. `Typable.parse`: the typed text is one clause, about the field and the whole value.
3. `Typable.exists_ofValue`: the record meets that clause.
4. `typable_of_plain`, `typable_int`: values that raise no question, among them all integers.
5. `queryPositions_typed`: the position of the record is found.
-/

namespace LogSearch

open Text Keyword Clause

/-! ## 1. Records -/

theorem Record.text?_of_mem {record : Record} {name : String} {value : Value}
    (member : (name, value) ∈ record.fields) : record.text? name = some value.toText := by
  rw [text?, get?, lookup_of_mem record.distinct member]
  rfl

/-! ## 2. The typed text -/

/-- A value that can be typed after the name of its field: `name:value` is a single clause, and all
of the value is a part of it. -/
structure Typable (compiler : Pattern.Compiler) (name value : String) : Prop where
  /-- The name is made of letters, digits and underscores. -/
  named : Run isNameChar name.toList
  /-- The value is not empty, and goes to the end of its line. -/
  line : Run (· ≠ '\n') value.toList
  /-- No quotation mark at an end of the value is taken off. -/
  unquoted : Bare isQuote value.toList
  /-- No white space after the value is taken off. -/
  ended : ∀ c ∈ value.toList.getLast?, isBlank c = false
  /-- The value is not taken for a range. -/
  noRange : ∀ low high, ¬ RangeValue low high value.toList
  /-- The text is not taken for several clauses. -/
  noAnd : ¬ HasSeparator andWord (name ++ ":" ++ value).toList
  noOr : ¬ HasSeparator orWord (name ++ ":" ++ value).toList
  /-- A value with stars compiles as a pattern. -/
  compiles : '*' ∈ value.toList → compiler.Accepts value

theorem not_isBlank_of_isNameChar {c : Char} (nameChar : isNameChar c = true) :
    isBlank c = false := by
  rw [isNameChar, Bool.or_eq_true, beq_iff_eq] at nameChar
  rcases nameChar with alphanum | rfl
  · exact not_isBlank_of_isAlphanum alphanum
  · decide

theorem toList_typed (name value : String) :
    (name ++ ":" ++ value).toList = name.toList ++ ':' :: value.toList := by
  simp

namespace Typable

variable {compiler : Pattern.Compiler} {name value : String}

theorem bare (typable : Typable compiler name value) :
    Bare isBlank (name.toList ++ ':' :: value.toList) := by
  constructor
  · obtain ⟨c, rest, whole, nameChar⟩ := typable.named.head
    rw [whole]
    rintro _ ⟨⟩
    exact not_isBlank_of_isNameChar nameChar
  · rw [List.getLast?_append_cons, List.getLast?_cons_of_ne_nil typable.line.1]
    exact typable.ended

theorem parse_clause (typable : Typable compiler name value) :
    Clause.parse compiler (name ++ ":" ++ value) =
      ofValue compiler name.toList value.toList := by
  rw [← String.ofList_toList (s := name ++ ":" ++ value), toList_typed,
    parse_field_colon compiler typable.named typable.line typable.noRange]

theorem parse (typable : Typable compiler name value) :
    Query.parse compiler (name ++ ":" ++ value) =
      .single <$> ofValue compiler name.toList value.toList := by
  have trimmed : trim (name ++ ":" ++ value).toList = (name ++ ":" ++ value).toList := by
    rw [toList_typed, trim, strip_eq_self typable.bare]
  rw [Query.parse_of_none (by rw [trimmed]; exact typable.noAnd)
      (by rw [trimmed]; exact typable.noOr), trimmed, String.ofList_toList, typable.parse_clause]

/-! ## 3. The clause -/

/-- A value without stars is compared with itself, and one with stars is matched with itself. -/
theorem exists_ofValue (typable : Typable compiler name value) {record : Record}
    (stored : record.text? name = some value) :
    ∃ clause, ofValue compiler name.toList value.toList = .ok clause ∧
      clause.holds record = true := by
  simp only [ofValue, strip_eq_self typable.unquoted, String.ofList_toList,
    List.contains_eq_mem, decide_eq_true_eq]
  by_cases star : '*' ∈ value.toList
  · rw [if_pos star]
    have oneLine : '\n' ∉ value.toList := fun member => by simpa using typable.line.2 _ member
    refine ⟨_, ofPattern_eq_ok_iff.mpr ⟨typable.compiles star, rfl⟩, ?_⟩
    rw [holds, stored, Option.any_some, Pattern.occursIn_self oneLine]
  · rw [if_neg star]
    refine ⟨_, rfl, ?_⟩
    rw [holds, stored, Option.any_some, beq_self_eq_true]

end Typable

/-! ## 4. Plain values -/

/-- A value made of the characters of names and of hyphens can be typed after any name. -/
theorem typable_of_plain (compiler : Pattern.Compiler) {name value : String}
    (named : Run isNameChar name.toList) (some : value.toList ≠ [])
    (plain : ∀ c ∈ value.toList, isNameChar c = true ∨ c = '-') :
    Typable compiler name value := by
  have absent (mark : Char) (other : ¬(isNameChar mark = true ∨ mark = '-')) :
      ∀ c ∈ value.toList, c ≠ mark := fun c member same => other (same ▸ plain c member)
  have solid : ∀ c ∈ value.toList, isBlank c = false := by
    intro c member
    rcases plain c member with nameChar | rfl
    · exact not_isBlank_of_isNameChar nameChar
    · decide
  have noQuote : ∀ c ∈ value.toList, isQuote c = false := by
    intro c member
    rw [isQuote, Bool.or_eq_false_iff, beq_eq_false_iff_ne, beq_eq_false_iff_ne]
    exact ⟨absent '"' (by decide) c member, absent '\'' (by decide) c member⟩
  have noSeparator (word : List Char) : ¬ HasSeparator word (name ++ ":" ++ value).toList := by
    intro has
    obtain ⟨c, member, blank⟩ := has.exists_blank
    rw [toList_typed, List.mem_append, List.mem_cons] at member
    rcases member with inName | rfl | inValue
    · rw [not_isBlank_of_isNameChar (named.2 c inName)] at blank
      cases blank
    · exact absurd blank (by decide)
    · rw [solid c inValue] at blank
      cases blank
  constructor
  case named => exact named
  case line => exact ⟨some, fun c member => decide_eq_true (absent '\n' (by decide) c member)⟩
  case unquoted =>
    exact ⟨fun c first => noQuote c (List.mem_of_mem_head? first),
      fun c last => noQuote c (List.mem_of_getLast? last)⟩
  case ended => exact fun c last => solid c (List.mem_of_getLast? last)
  case noRange =>
    intro low high shape
    exact absent '[' (by decide) '[' (List.mem_of_mem_head? shape.head?) rfl
  case noAnd => exact noSeparator andWord
  case noOr => exact noSeparator orWord
  case compiles => exact fun star => absurd rfl (absent '*' (by decide) '*' star)

/-- Every integer can be typed, the negative ones included. -/
theorem typable_decimalInt (compiler : Pattern.Compiler) {name : String}
    (named : Run isNameChar name.toList) (n : Int) :
    Typable compiler name (.ofList (decimalInt n)) := by
  have text : (String.ofList (decimalInt n)).toList = decimalInt n := String.toList_ofList
  refine typable_of_plain compiler named (by rw [text]; exact decimalInt_ne_nil n) ?_
  intro c member
  rw [text] at member
  rcases isDigit_of_mem_decimalInt member with digit | minus
  · exact .inl (by rw [isNameChar, Char.isAlphanum, digit, Bool.or_true, Bool.true_or])
  · exact .inr minus

theorem typable_int (compiler : Pattern.Compiler) {name : String}
    (named : Run isNameChar name.toList) (n : Int64) : Typable compiler name (Value.int n).toText :=
  typable_decimalInt compiler named n.toInt

/-! ## 5. The query -/

namespace Archive

/-- Every stored value is found by typing it, whatever other characters it holds. -/
theorem queryPositions_typed (archive : Archive) {position : Nat} {record : Record}
    {name : String} {value : Value} (here : archive.corpus.record? position = some record)
    (stored : (name, value) ∈ record.fields)
    (typable : Typable archive.compiler name value.toText)
    (short : (name ++ ":" ++ value.toText).length ≤ archive.settings.maxQueryLength) :
    ∃ positions, archive.queryPositions (name ++ ":" ++ value.toText) = .ok positions ∧
      position ∈ positions := by
  obtain ⟨clause, read, holds⟩ := typable.exists_ofValue (Record.text?_of_mem stored)
  have parsed : Query.parse archive.compiler (name ++ ":" ++ value.toText) =
      .ok (.single clause) := by
    rw [typable.parse, read]
    rfl
  refine ⟨_, queryPositions_eq_ok_iff.mpr ⟨short, _, parsed, rfl⟩, ?_⟩
  exact Corpus.mem_evaluate.mpr ⟨record, here, holds⟩

/-- A record whose values are hard to type. -/
def oddity : Record :=
  .ofList [("path", .text " *.log: [1 TO 2] \"x\\d+(a|b)*\" AND"), ("offset", .int (-42))]

/-- An archive with the hard record in second place. -/
def oddities : Archive :=
  ⟨⟨[.ofList [("user", .text "a")], oddity]⟩, {}, .lenient⟩

/-- A value with stars, colons, inner quotation marks, a range and a keyword is found in second
place, and so is a negative integer. -/
theorem queryPositions_typed_oddity :
    let path := Value.text " *.log: [1 TO 2] \"x\\d+(a|b)*\" AND"
    oddities.corpus.record? 1 = some oddity ∧
    (("path", path) ∈ oddity.fields ∧ Typable oddities.compiler "path" path.toText ∧
      ("path" ++ ":" ++ path.toText).length ≤ oddities.settings.maxQueryLength ∧
      ∃ positions, oddities.queryPositions ("path" ++ ":" ++ path.toText) = .ok positions ∧
        1 ∈ positions) ∧
    (("offset", Value.int (-42)) ∈ oddity.fields ∧
      Typable oddities.compiler "offset" (Value.int (-42)).toText ∧
      ("offset" ++ ":" ++ (Value.int (-42)).toText).length ≤ oddities.settings.maxQueryLength ∧
      ∃ positions, oddities.queryPositions ("offset" ++ ":" ++ (Value.int (-42)).toText) =
        .ok positions ∧ 1 ∈ positions) := by
  intro path
  have here : oddities.corpus.record? 1 = some oddity := rfl
  have pathTypable : Typable oddities.compiler "path" path.toText := by
    constructor
    case named => decide
    case line => decide
    case unquoted => decide
    case ended =>
      have last : path.toText.toList.getLast? = some 'D' := by decide +kernel
      rw [last]
      rintro _ ⟨⟩
      decide
    case noRange => exact fun low high shape => absurd shape.head? (by decide +kernel)
    case noAnd =>
      rw [hasSeparator_iff solid_andWord]
      decide +kernel
    case noOr =>
      rw [hasSeparator_iff solid_orWord]
      decide +kernel
    case compiles => exact fun _ => Pattern.Compiler.lenient_accepts _
  have offsetTypable :=
    typable_int oddities.compiler (by decide : Run isNameChar "offset".toList) (-42)
  have pathStored : ("path", path) ∈ oddity.fields := by decide +kernel
  have offsetStored : ("offset", Value.int (-42)) ∈ oddity.fields := by decide +kernel
  have pathShort : ("path" ++ ":" ++ path.toText).length ≤ oddities.settings.maxQueryLength := by
    decide +kernel
  have offsetShort : ("offset" ++ ":" ++ (Value.int (-42)).toText).length ≤
      oddities.settings.maxQueryLength := by decide +kernel
  exact ⟨here,
    ⟨pathStored, pathTypable, pathShort,
      queryPositions_typed oddities here pathStored pathTypable pathShort⟩,
    ⟨offsetStored, offsetTypable, offsetShort,
      queryPositions_typed oddities here offsetStored offsetTypable offsetShort⟩⟩

end Archive

end LogSearch
