import LogSearch.Proofs.FreeText
import LogSearch.Proofs.Wildcards

/-!
# Text clauses on ASCII

A value, a pattern and a free text are compared in three ways: a value and a free text by their
lowercase as a whole, a pattern character by character within a line. Where all is ASCII the three
agree. A text between two stars is found wherever it stands in the field, free text wherever it
stands in some field, and a value that is the whole text of a field stands in it.

Results:
1. `lowercase_of_ascii`, `map_foldCase_of_ascii`: on ASCII the lowercase is one of single letters,
   and so is case folding.
2. `stand_singleton_iff`, `occursIn_starred_iff`: a text between stars is found where it stands in
   any letter case, since it cannot stand across the end of a line.
3. `parse_starredText`: the typed text is a pattern of which nothing is taken off, if it compiles.
4. `textClauses_agree`: the three kinds of clauses.
-/

namespace LogSearch

namespace Text

/-! ## 1. ASCII -/

/-- A text of ASCII characters. -/
def IsAscii (text : List Char) : Prop :=
  ∀ c ∈ text, c.toNat < 128

instance (text : List Char) : Decidable (IsAscii text) :=
  decidable_of_iff (text.all (·.toNat < 128) = true) (by simp [IsAscii])

variable {text : List Char}

theorem lowercaseAt_of_ascii {c : Char} (ascii : c.toNat < 128) (before after : List Char) :
    lowercaseAt before c after = [c.toLower] := by
  have noSigma : c ≠ 'Σ' := by
    rintro rfl
    exact absurd ascii (by decide)
  rw [lowercaseAt, if_neg fun sigma => noSigma sigma.1, lowercaseChar, if_pos ascii]

theorem lowercaseAfter_of_ascii (ascii : IsAscii text) (before : List Char) :
    lowercaseAfter before text = text.map Char.toLower := by
  induction text generalizing before with
  | nil => rfl
  | cons c text ih =>
    rw [lowercaseAfter_cons, lowercaseAt_of_ascii (ascii c List.mem_cons_self),
      ih fun d member => ascii d (List.mem_cons_of_mem c member)]
    rfl

theorem lowercase_of_ascii (ascii : IsAscii text) : lowercase text = text.map Char.toLower :=
  lowercaseAfter_of_ascii ascii []

theorem map_foldCase_of_ascii (ascii : IsAscii text) :
    text.map foldCase = text.map Char.toLower :=
  List.map_congr_left fun c member => if_pos (ascii c member)

end Text

open Text

/-! ## 2. A text between stars -/

namespace Pattern

theorem stand_singleton_iff {piece line : List Char} :
    Stand [piece] line ↔ ∃ stretch, stretch <:+: line ∧ SameLetters piece stretch := by
  constructor
  · intro stand
    cases stand with
    | @cons _ stretch before after _ same _ => exact ⟨stretch, ⟨before, after, rfl⟩, same⟩
  · rintro ⟨stretch, ⟨before, after, rfl⟩, same⟩
    exact .cons same .nil

/-- The pattern that asks for a text anywhere. -/
def starred (text : String) : String :=
  "*" ++ text ++ "*"

theorem occursIn_starred {text : String} : occursIn (starred text) = occursIn text := by
  have front : MoreStars text.toList ("*" ++ text).toList := by
    rw [String.toList_append]
    exact .front
  have ends : (starred text).toList = ("*" ++ text).toList ++ ['*'] := String.toList_append
  have back : MoreStars ("*" ++ text).toList (starred text).toList := by
    rw [ends]
    exact .back
  rw [back.occursIn_eq, front.occursIn_eq]

theorem occursIn_starred_iff {text value : String} (plain : '*' ∉ text.toList)
    (oneLine : '\n' ∉ text.toList) :
    occursIn (starred text) value = true ↔
      text.toList.map foldCase <:+: value.toList.map foldCase := by
  simp only [occursIn_starred, occursIn_iff_stand, List.splitOn_eq_singleton plain,
    stand_singleton_iff, List.infix_map_iff]
  constructor
  · rintro ⟨line, member, stretch, inside, same⟩
    exact ⟨stretch, inside.trans (of_mem_splitOn member).2, same⟩
  · rintro ⟨stretch, inside, same⟩
    -- Only a line feed folds to one, so the stretch is part of one line.
    have noFeed : '\n' ∉ stretch := by
      intro member
      have folded := List.mem_map_of_mem (f := foldCase) member
      rw [← same] at folded
      obtain ⟨c, typed, fold⟩ := List.mem_map.mp folded
      exact oneLine (foldCase_eq_lineFeed_iff.mp fold ▸ typed)
    obtain ⟨line, member, within⟩ := exists_mem_splitOn noFeed inside
    exact ⟨line, member, stretch, within, same⟩

end Pattern

/-! ## 3. The typed text -/

namespace Clause

/-- The text of a field with a text between stars. -/
def starredText (field text : String) : String :=
  field ++ ":" ++ Pattern.starred text

theorem parse_starredText {compiler : Pattern.Compiler} {field text : String}
    (named : Run isNameChar field.toList) (oneLine : '\n' ∉ text.toList)
    (compiles : compiler.Accepts (Pattern.starred text)) :
    Clause.parse compiler (starredText field text) =
      .ok (.wildcard field (Pattern.starred text)) := by
  have pattern : (Pattern.starred text).toList = '*' :: (text.toList ++ ['*']) := by
    simp [Pattern.starred]
  have whole : starredText field text =
      .ofList (field.toList ++ ':' :: '*' :: (text.toList ++ ['*'])) := by
    rw [← String.toList_inj, String.toList_ofList, starredText, toList_typed, pattern]
  have bare : Bare isQuote (Pattern.starred text).toList := by
    rw [pattern]
    refine ⟨?_, ?_⟩
    · rintro _ ⟨⟩
      decide
    · rw [← List.cons_append, List.getLast?_concat]
      rintro _ ⟨⟩
      decide
  have starred : '*' ∈ (Pattern.starred text).toList := by
    rw [pattern]
    exact List.mem_cons_self
  rw [whole, parse_field_framed compiler named (by decide) (by decide) oneLine, ← pattern,
    ofValue_of_unquotes compiler (unquotes_iff.mpr (strip_eq_self bare).symm), if_pos starred,
    String.ofList_toList, String.ofList_toList]
  exact ofPattern_eq_ok_iff.mpr ⟨compiles, rfl⟩

end Clause

/-! ## 4. Agreement -/

open Clause

/-- A record of ASCII, with names that can be typed. -/
structure Record.Plain (record : Record) : Prop where
  named : ∀ name ∈ record.names, Run isNameChar name.toList
  ascii : ∀ field ∈ record.fields, IsAscii field.2.toText.toList

/-- A text of ASCII that can be typed between stars and asks for something. -/
structure Clause.Searchable (text : String) : Prop where
  ascii : IsAscii text.toList
  nonempty : text.toList ≠ []
  noStar : '*' ∉ text.toList
  oneLine : '\n' ∉ text.toList

/-- The text is read as a clause that holds of the record. -/
def Record.Meets (record : Record) (compiler : Pattern.Compiler) (text : String) : Prop :=
  ∃ clause, Clause.parse compiler text = .ok clause ∧ clause.holds record = true

/-- The text stands in the value, but for the case of ASCII letters. -/
def StandsIn (text value : String) : Prop :=
  text.toList.map Char.toLower <:+: value.toList.map Char.toLower

theorem Record.text?_eq_some_iff {record : Record} {name text : String} :
    record.text? name = some text ↔
      ∃ value, (name, value) ∈ record.fields ∧ value.toText = text := by
  rw [text?, Option.map_eq_some_iff]
  exact exists_congr fun value => and_congr_left fun _ => get?_eq_some_iff

theorem Record.mem_names_of_text? {record : Record} {field value : String}
    (found : record.text? field = some value) : field ∈ record.names := by
  obtain ⟨stored, member, -⟩ := Record.text?_eq_some_iff.mp found
  exact List.mem_map.mpr ⟨_, member, rfl⟩

theorem Record.Plain.isAscii {record : Record} (plain : record.Plain) {field value : String}
    (found : record.text? field = some value) : IsAscii value.toList := by
  obtain ⟨stored, member, rfl⟩ := Record.text?_eq_some_iff.mp found
  exact plain.ascii _ member

namespace Clause

variable {compiler : Pattern.Compiler} {record : Record} {text : String}

theorem meets_starredText_iff (plain : record.Plain) (searched : Searchable text)
    (compiles : compiler.Accepts (Pattern.starred text)) {field : String}
    (named : Run isNameChar field.toList) :
    record.Meets compiler (starredText field text) ↔
      ∃ value, record.text? field = some value ∧ StandsIn text value := by
  have read := parse_starredText named searched.oneLine compiles
  have meets : record.Meets compiler (starredText field text) ↔
      (Clause.wildcard field (Pattern.starred text)).holds record = true := by
    simp only [Record.Meets, read, Except.ok.injEq, exists_eq_left']
  rw [meets, holds, Option.any_eq_true]
  refine exists_congr fun value => and_congr_right fun found => ?_
  rw [Pattern.occursIn_starred_iff searched.noStar searched.oneLine, StandsIn,
    map_foldCase_of_ascii searched.ascii, map_foldCase_of_ascii (plain.isAscii found)]

theorem holds_freeText_iff_standsIn (plain : record.Plain) (searched : Searchable text) :
    (Clause.freeText text).holds record = true ↔
      ∃ field value, record.text? field = some value ∧ StandsIn text value := by
  have condition := @holds_freeText_iff_exists record text.toList searched.nonempty
  rw [String.ofList_toList, lowercase_of_ascii searched.ascii] at condition
  rw [condition]
  refine exists_congr fun field => ?_
  constructor
  · rintro ⟨value, member, stands⟩
    have found := Record.text?_of_mem member
    rw [lowercase_of_ascii (plain.isAscii found)] at stands
    exact ⟨_, found, stands⟩
  · rintro ⟨value, found, stands⟩
    have ascii := plain.isAscii found
    obtain ⟨stored, member, rfl⟩ := Record.text?_eq_some_iff.mp found
    exact ⟨stored, member, by rwa [lowercase_of_ascii ascii]⟩

/-- A value with the same lowercase is all of the field's text. -/
theorem standsIn_of_holds_equals (plain : record.Plain) (searched : Searchable text)
    {field : String} (same : (Clause.equals field text).holds record = true) :
    ∃ value, record.text? field = some value ∧ StandsIn text value := by
  rw [holds, Option.any_eq_true] at same
  obtain ⟨value, found, same⟩ := same
  rw [beq_iff_eq, lowercase_of_ascii searched.ascii,
    lowercase_of_ascii (plain.isAscii found)] at same
  exact ⟨value, found, [], [], by rw [List.nil_append, List.append_nil, same]⟩

/-- On a record of ASCII, a text between two stars that compiles is read as it is and asks for a
field in which the text stands. As free text it holds of the record if it does so between stars in
some field. If it is the value of a field, both of them hold. -/
theorem textClauses_agree (plain : record.Plain) (searched : Searchable text)
    (compiles : compiler.Accepts (Pattern.starred text)) :
    (∀ field : String, Run isNameChar field.toList →
      Clause.parse compiler (starredText field text) =
        .ok (.wildcard field (Pattern.starred text)) ∧
      (record.Meets compiler (starredText field text) ↔
        ∃ value, record.text? field = some value ∧ StandsIn text value)) ∧
    ((Clause.freeText text).holds record = true ↔
      ∃ field ∈ record.names, record.Meets compiler (starredText field text)) ∧
    ∀ field : String, (Clause.equals field text).holds record = true →
      record.Meets compiler (starredText field text) ∧
      (Clause.freeText text).holds record = true := by
  refine ⟨?between, ?anywhere, ?whole⟩
  case between =>
    intro field named
    exact ⟨parse_starredText named searched.oneLine compiles,
      meets_starredText_iff plain searched compiles named⟩
  case anywhere =>
    rw [holds_freeText_iff_standsIn plain searched]
    constructor
    · rintro ⟨field, value, found, stands⟩
      have member := Record.mem_names_of_text? found
      have named := plain.named field member
      exact ⟨field, member,
        (meets_starredText_iff plain searched compiles named).mpr ⟨value, found, stands⟩⟩
    · rintro ⟨field, member, meets⟩
      have named := plain.named field member
      exact ⟨field, (meets_starredText_iff plain searched compiles named).mp meets⟩
  case whole =>
    intro field same
    obtain ⟨value, found, stands⟩ := standsIn_of_holds_equals plain searched same
    have named := plain.named field (Record.mem_names_of_text? found)
    exact ⟨(meets_starredText_iff plain searched compiles named).mpr ⟨value, found, stands⟩,
      (holds_freeText_iff_standsIn plain searched).mpr ⟨field, value, found, stands⟩⟩

/-- The text has a quotation mark, a dot and an opening bracket. It stands behind the end of a line
in one field and is all of another one, and the number of a third field is found by its digits. -/
theorem textClauses_agree_lines :
    let record : Record :=
      .ofList [("path", .text "x\n/A.b[\""), ("agent", .text "a.B[\""), ("port", .int (-80))]
    let compiler := Pattern.Compiler.lenient
    record.Plain ∧ (Searchable "a.b[\"" ∧ Searchable "-8") ∧
    (compiler.Accepts (Pattern.starred "a.b[\"") ∧ compiler.Accepts (Pattern.starred "-8")) ∧
    record.Meets compiler "path:*a.b[\"*" ∧ (Clause.freeText "a.b[\"").holds record = true ∧
    (Clause.equals "agent" "a.b[\"").holds record = true ∧ record.Meets compiler "agent:*a.b[\"*" ∧
    record.Meets compiler "port:*-8*" ∧ ¬ record.Meets compiler "user:*-8*" := by
  intro record compiler
  have plain : record.Plain := ⟨by decide, by decide⟩
  have searched : Searchable "a.b[\"" := ⟨by decide, by decide, by decide, by decide⟩
  have digits : Searchable "-8" := ⟨by decide, by decide, by decide, by decide⟩
  have compiles : compiler.Accepts (Pattern.starred "a.b[\"") :=
    Pattern.Compiler.lenient_accepts _
  have digitsCompile : compiler.Accepts (Pattern.starred "-8") := Pattern.Compiler.lenient_accepts _
  obtain ⟨between, anywhere, whole⟩ := textClauses_agree plain searched compiles
  have onPath : record.Meets compiler "path:*a.b[\"*" :=
    (between "path" (by decide)).2.mpr ⟨"x\n/A.b[\"", by decide, "x\n/".toList, [], by decide⟩
  have isAgent : (Clause.equals "agent" "a.b[\"").holds record = true := by decide
  have onPort := (textClauses_agree plain digits digitsCompile).1 "port" (by decide)
  have onUser := (textClauses_agree plain digits digitsCompile).1 "user" (by decide)
  refine ⟨plain, ⟨searched, digits⟩, ⟨compiles, digitsCompile⟩, onPath,
    anywhere.mpr ⟨"path", by decide, onPath⟩, isAgent, (whole "agent" isAgent).1, ?_, ?_⟩
  · exact onPort.2.mpr ⟨"-80", by decide, [], ['0'], by decide⟩
  · intro meets
    obtain ⟨value, found, -⟩ := onUser.2.mp meets
    have absent : record.text? "user" = none := by decide
    rw [absent] at found
    cases found

end Clause

end LogSearch
