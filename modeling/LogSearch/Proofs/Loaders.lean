import LogSearch.Proofs.JsonLines
import LogSearch.Proofs.Trimming

/-!
# Lines and arrays

The values of an array can be written on lines, one on a line, with blank lines between them and any
ends of lines. Both sources give the same corpus, or the same error.

Results:
1. `parse?_of_blank`: no line with a value is blank, whatever white space a line may have.
2. `lines_append_lineFeed`, `readLine_of_onLine`: the lines of a source, and what one of them gives.
3. `readLines_of_written`: the records of the lines are those of the values, number by number.
4. `ofJsonLines_eq_ofJson`: the two loads.
-/

namespace LogSearch

open Text

/-! ## 1. Blank lines -/

namespace Json

/-- No token consists of white space, of which Unicode has more than JSON. -/
theorem Word.exists_not_isBlank {token : Token} {word : List Char} (is : Word token word) :
    ∃ c ∈ word, isBlank c = false := by
  cases is with
  | number spelled =>
    obtain ⟨c, rest, rfl, digit | rfl⟩ := spelled.head
    · exact ⟨c, List.mem_cons_self, not_isBlank_of_isDigit digit⟩
    · exact ⟨'-', List.mem_cons_self, rfl⟩
  | _ => exact ⟨_, List.mem_cons_self, rfl⟩

theorem Layout.eq_nil_of_blank {list : List Token} {text : List Char} (layout : Layout list text)
    (blank : isBlankText text = true) : list = [] := by
  rw [isBlankText, List.all_eq_true] at blank
  induction layout with
  | nil => rfl
  | space _ _ ih => exact ih fun c member => blank c (List.mem_cons_of_mem _ member)
  | token is =>
    obtain ⟨c, inside, solid⟩ := is.exists_not_isBlank
    rw [blank c (List.mem_append_left _ inside)] at solid
    cases solid

theorem parse?_of_blank {text : List Char} (blank : isBlankText text = true) :
    parse? (.ofList text) = none := by
  refine Option.eq_none_iff_forall_ne_some.mpr fun json read => ?_
  obtain ⟨document, layout, -⟩ := parse?_eq_some_iff.mp read
  rw [String.toList_ofList] at layout
  obtain ⟨token, rest, tokens, -⟩ := exists_tokens_eq_cons document
  rw [layout.eq_nil_of_blank blank] at tokens
  cases tokens

end Json

namespace Corpus

/-! ## Specification -/

/-- `OnLine line value?`: the line holds the value, or it is blank and holds none. -/
inductive OnLine (line : List Char) : Option Json → Prop
  | blank : isBlankText line = true → OnLine line none
  | value {json : Json} : Json.parse? (.ofList line) = some json → OnLine line (some json)

/-- `Written text values`: the text consists of lines that hold the values, in this order. Each line
ends with a line feed or with a carriage return and a line feed, and the last one need not end. -/
inductive Written : List Char → List Json → Prop
  | last {line : List Char} {value? : Option Json} :
      '\n' ∉ line → OnLine line value? → Written line value?.toList
  | next {line ending text : List Char} {value? : Option Json} {values : List Json} :
      '\n' ∉ line → OnLine line value? → ending = ['\n'] ∨ ending = ['\r', '\n'] →
      Written text values → Written (line ++ ending ++ text) (value?.toList ++ values)

/-! ## 2. Lines -/

theorem linesAfter_append {line : List UInt8} (whole : lineFeed ∉ line)
    (before bytes : List UInt8) :
    linesAfter before (line ++ bytes) = linesAfter (line.reverse ++ before) bytes := by
  induction line generalizing before with
  | nil => rfl
  | cons byte line ih =>
    rw [List.mem_cons, not_or] at whole
    rw [List.cons_append, linesAfter, if_neg (Ne.symm whole.1), ih whole.2, List.reverse_cons,
      List.append_assoc]
    rfl

theorem lines_append_lineFeed {line : List UInt8} (whole : lineFeed ∉ line) (bytes : List UInt8) :
    lines (line ++ lineFeed :: bytes) = dropReturn line :: lines bytes := by
  rw [lines, linesAfter_append whole, linesAfter, if_pos rfl, List.append_nil, List.reverse_reverse]
  rfl

/-- A line that ends in either way gives what it gives without its end. -/
theorem exists_lines_append_ending {line ending : List Char} (whole : '\n' ∉ line)
    (ends : ending = ['\n'] ∨ ending = ['\r', '\n']) (text : List Char) :
    ∃ bytes, lines (encodeUtf8 (.ofList (line ++ ending ++ text))) =
        bytes :: lines (encodeUtf8 (.ofList text)) ∧
      ∀ number, readLine number bytes = readLine number (encodeUtf8 (.ofList line)) := by
  have feed := lineFeed_not_mem_encodeUtf8 whole
  rw [encodeUtf8_append, encodeUtf8_append, List.append_assoc]
  rcases ends with rfl | rfl
  · refine ⟨_, lines_append_lineFeed feed _, fun number => readLine_dropReturn number _⟩
  · have both : lineFeed ∉ encodeUtf8 (.ofList line) ++ [carriageReturn] := by
      simpa [feed] using (by decide : ¬ lineFeed = carriageReturn)
    have cut := lines_append_lineFeed both (encodeUtf8 (.ofList text))
    rw [List.append_assoc] at cut
    refine ⟨_, cut, fun number => ?_⟩
    rw [readLine_dropReturn, readLine_append_return]

/-- A line gives the record of its value, if it has one. -/
theorem readLine_of_onLine {line : List Char} {value? : Option Json} (on : OnLine line value?)
    (number : Nat) :
    readLine number (encodeUtf8 (.ofList line)) = value?.mapM (Record.ofJson number) := by
  have decoded : decodeUtf8? (encodeUtf8 (.ofList line)) = some (.ofList line) :=
    decodeUtf8?_eq_some_iff.mpr rfl
  cases on with
  | blank white => exact readLine_of_blank ⟨_, decoded, by rwa [String.toList_ofList]⟩
  | value parsed =>
    have solid : ¬ isBlankText line = true := by
      intro white
      rw [Json.parse?_of_blank white] at parsed
      cases parsed
    simp only [readLine, decoded, String.toList_ofList, if_neg solid, parsed]
    rfl

/-! ## 3. Records -/

theorem readLines_cons_of_onLine {line : List UInt8} {value? : Option Json} {number : Nat}
    (read : readLine number line = value?.mapM (Record.ofJson number))
    {lines : List (List UInt8)} {values : List Json}
    (rest : ∀ number, readLines number lines = readItems number values) :
    readLines number (line :: lines) = readItems number (value?.toList ++ values) := by
  rw [readLines, read]
  cases value? with
  | none => exact rest number
  | some json =>
    simp only [Option.mapM_some, Option.toList_some, List.singleton_append, readItems,
      rest (number + 1)]
    cases Record.ofJson number json <;> rfl

theorem readLines_of_written {text : List Char} {values : List Json} (written : Written text values)
    (number : Nat) :
    readLines number (lines (encodeUtf8 (.ofList text))) = readItems number values := by
  induction written generalizing number with
  | @last line value? whole on =>
    have one := linesAfter_append (lineFeed_not_mem_encodeUtf8 whole) [] []
    rw [List.append_nil, List.append_nil] at one
    rw [lines, one, ← sameRecords_last _ number, List.reverse_reverse,
      ← List.append_nil value?.toList]
    exact readLines_cons_of_onLine (readLine_of_onLine on number) fun number => rfl
  | @next line ending text value? values whole on ends _ ih =>
    obtain ⟨bytes, cut, same⟩ := exists_lines_append_ending whole ends text
    rw [cut]
    exact readLines_cons_of_onLine ((same number).trans (readLine_of_onLine on number)) ih

/-! ## 4. Sources -/

/-- Values give the same corpus, or the same error about the same record and field, whether they are
the items of an array or are written on lines, with blank lines between them and any ends of lines.
-/
theorem ofJsonLines_eq_ofJson {text : List Char} {values : List Json}
    (written : Written text values) :
    ofJsonLines (encodeUtf8 (.ofList text)) = ofJson (.array values) := by
  rw [ofJsonLines, readLines_of_written written, ofJson]

/-- A blank line, an object, an empty line, and an array on a line without end, which is reported as
the second record. -/
theorem ofJsonLines_eq_ofJson_blank :
    let object := "\x7b\"a\": \"b\"\x7d\t"
    let text := ['\u3000'] ++ ['\n'] ++
      (object.toList ++ ['\r', '\n'] ++ ([] ++ ['\r', '\n'] ++ "[]\r".toList))
    let values := [.object [("a", .string "b")], .array []]
    Written text values ∧
    ofJsonLines (encodeUtf8 (.ofList text)) = .error (.notAnObject 1) := by
  intro object text values
  have objectTokens : Json.tokens? object.toList =
      some [.openObject, .string [.char 'a'], .colon, .string [.char 'b'], .closeObject] := by
    decide +kernel
  have arrayTokens : Json.tokens? "[]\r".toList = some [.openArray, .closeArray] := by
    decide +kernel
  have first : OnLine object.toList (some (.object [("a", .string "b")])) :=
    .value (by rw [String.ofList_toList, Json.parse?, objectTokens]; rfl)
  have second : OnLine "[]\r".toList (some (.array [])) :=
    .value (by rw [String.ofList_toList, Json.parse?, arrayTokens]; rfl)
  have white : OnLine ['\u3000'] none := .blank (by decide)
  have empty : OnLine [] none := .blank rfl
  have last : Written "[]\r".toList [.array []] := .last (by decide) second
  have inner : Written ([] ++ ['\r', '\n'] ++ "[]\r".toList) [.array []] :=
    .next (by decide) empty (.inr rfl) last
  have written : Written text values :=
    .next (by decide) white (.inl rfl) (.next (by decide) first (.inr rfl) inner)
  exact ⟨written, (ofJsonLines_eq_ofJson written).trans rfl⟩

end Corpus

end LogSearch
