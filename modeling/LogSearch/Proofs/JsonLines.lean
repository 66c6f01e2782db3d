import LogSearch.Corpus.Loading
import LogSearch.Proofs.Checked
import LogSearch.Proofs.Encoding
import LogSearch.Proofs.TrailingSpace

/-!
# Loading line by line

What a line gives does not depend on how it ends, and a source cut at a line feed is loaded part by
part. Only the numbers of the records are carried over.

Results:
1. `readLine_dropReturn`, `readLine_of_blank`: a carriage return at the end of a line, blank lines.
2. `readLines_later`, `readLines_append`: the count of the records that came before.
3. `linesAfter_append_lineFeed`, `sameRecords_append`: the seam between two parts.
4. `ofJsonLines_compositional`: the answer to a source from those to its parts.
-/

namespace LogSearch

open Text

/-- The error as it is reported after `count` more records. -/
def LoadError.later (count : Nat) : LoadError → LoadError
  | .unreadable fault => .unreadable fault
  | .badSettings fault => .badSettings fault
  | .notJson record => .notJson (record + count)
  | .notAnObject record => .notAnObject (record + count)
  | .unsupportedValue record field => .unsupportedValue (record + count) field
  | .notAnArray => .notAnArray

theorem LoadError.later_zero (error : LoadError) : error.later 0 = error := by
  cases error <;> rfl

namespace Corpus

variable {number : Nat} {line bytes : List UInt8}

/-! ## 1. One line -/

/-- A line of white space only. -/
def IsBlankLine (line : List UInt8) : Prop :=
  ∃ text, decodeUtf8? line = some text ∧ isBlankText text.toList = true

theorem isBlankLine_nil : IsBlankLine [] :=
  ⟨.ofList [], decodeUtf8?_eq_some_iff.mpr rfl, rfl⟩

theorem readLine_of_blank (blank : IsBlankLine line) : readLine number line = .ok none := by
  obtain ⟨text, decoded, white⟩ := blank
  simp only [readLine, decoded, white, if_true]

theorem readLine_append_return (number : Nat) (line : List UInt8) :
    readLine number (line ++ [carriageReturn]) = readLine number line := by
  rw [readLine, readLine, decodeUtf8?_append_return]
  cases decodeUtf8? line with
  | none => rfl
  | some text =>
    have white : isBlankText (text.toList ++ ['\r']) = isBlankText text.toList := by
      rw [isBlankText, List.all_append]
      exact Bool.and_true _
    have same := Json.parse?_append_space (c := '\r') rfl text.toList
    rw [String.ofList_toList] at same
    simp only [Option.map_some, String.toList_ofList, white, same]

theorem readLine_dropReturn (number : Nat) (line : List UInt8) :
    readLine number (dropReturn line) = readLine number line := by
  unfold dropReturn
  split
  · rename_i ends
    obtain ⟨shorter, rfl⟩ := List.getLast?_eq_some_iff.mp ends
    rw [List.dropLast_concat, readLine_append_return]
  · rfl

/-! ## 2. The count of records -/

theorem ofJson_later (number count : Nat) (json : Json) :
    Record.ofJson (number + count) json =
      (Record.ofJson number json).mapError (LoadError.later count) := by
  cases json with
  | object members =>
    rw [Record.ofJson, Record.ofJson]
    cases Record.readFields members <;> rfl
  | _ => rfl

theorem readLine_later (number count : Nat) (line : List UInt8) :
    readLine (number + count) line = (readLine number line).mapError (LoadError.later count) := by
  rw [readLine, readLine]
  cases decodeUtf8? line with
  | none => rfl
  | some text =>
    dsimp only
    split
    · rfl
    · cases Json.parse? text with
      | none => rfl
      | some json =>
        simp only [ofJson_later number count json]
        cases Record.ofJson number json <;> rfl

theorem readLines_later (number count : Nat) (lines : List (List UInt8)) :
    readLines (number + count) lines =
      (readLines number lines).mapError (LoadError.later count) := by
  induction lines generalizing number with
  | nil => rfl
  | cons line lines ih =>
    rw [readLines, readLines, readLine_later]
    rcases readLine number line with error | _ | record
    · rfl
    · exact ih number
    · have rest := ih (number + 1)
      rw [Nat.add_right_comm] at rest
      simp only [Except.mapError, bind, Except.bind, rest]
      cases readLines (number + 1) lines <;> rfl

theorem readLines_append (number : Nat) (first second : List (List UInt8)) :
    readLines number (first ++ second) = (do
      let records ← readLines number first
      return records ++ (← readLines (number + records.length) second)) := by
  induction first generalizing number with
  | nil =>
    simp only [bind, Except.bind, readLines, List.length_nil, Nat.add_zero, List.nil_append]
    cases readLines number second <;> rfl
  | cons line first ih =>
    rw [List.cons_append, readLines, readLines]
    rcases readLine number line with error | _ | record
    · rfl
    · exact ih number
    · -- The record is counted before the first part goes on, and as one of its records after it.
      have rest := ih (number + 1)
      simp only [bind, Except.bind, rest]
      rcases readLines (number + 1) first with error | records
      · rfl
      · simp only [pure, Except.pure, List.length_cons, Nat.add_assoc, Nat.add_comm 1]
        cases readLines (number + (records.length + 1)) second <;> rfl

theorem readLines_of_blank {lines : List (List UInt8)} (blank : ∀ line ∈ lines, IsBlankLine line)
    (number : Nat) : readLines number lines = .ok [] := by
  induction lines with
  | nil => rfl
  | cons line lines ih =>
    rw [readLines, readLine_of_blank (blank line List.mem_cons_self)]
    exact ih fun other member => blank other (List.mem_cons_of_mem _ member)

/-! ## 3. The seam -/

/-- Lines that cannot be told apart by what is loaded from them. -/
def SameRecords (lines others : List (List UInt8)) : Prop :=
  ∀ number, readLines number lines = readLines number others

theorem SameRecords.cons {lines others : List (List UInt8)} (same : SameRecords lines others)
    (line : List UInt8) : SameRecords (line :: lines) (line :: others) := by
  intro number
  rw [readLines, readLines, same number, same (number + 1)]

theorem linesAfter_append_lineFeed (before first second : List UInt8) :
    linesAfter before (first ++ lineFeed :: second) =
      linesAfter before (first ++ [lineFeed]) ++ lines second := by
  induction first generalizing before with
  | nil =>
    rw [List.nil_append, List.nil_append, linesAfter, linesAfter, if_pos rfl, if_pos rfl]
    rfl
  | cons byte first ih =>
    rw [List.cons_append, List.cons_append, linesAfter, linesAfter]
    split
    · rw [ih, List.cons_append]
    · exact ih _

/-- Bytes that do not matter at the end of a line do not matter at the end of the source. -/
theorem sameRecords_append {idle : List UInt8}
    (last : ∀ before, SameRecords (linesAfter before idle) (linesAfter before []))
    (before bytes : List UInt8) :
    SameRecords (linesAfter before (bytes ++ idle)) (linesAfter before bytes) := by
  induction bytes generalizing before with
  | nil => exact last before
  | cons byte bytes ih =>
    rw [List.cons_append, linesAfter, linesAfter]
    split
    · exact (ih []).cons _
    · exact ih _

theorem sameRecords_singleton {line other : List UInt8}
    (same : ∀ number, readLine number line = readLine number other) :
    SameRecords [line] [other] := by
  intro number
  simp only [readLines, same number]

/-- The last line may be taken for a line even if it is empty, since it is blank then. -/
theorem sameRecords_last (before : List UInt8) :
    SameRecords [before.reverse] (linesAfter before []) := by
  cases before with
  | nil =>
    refine readLines_of_blank fun line member => ?_
    rw [List.mem_singleton.mp member]
    exact isBlankLine_nil
  | cons byte before => exact fun number => rfl

theorem sameRecords_lineFeed (before : List UInt8) :
    SameRecords (linesAfter before [lineFeed]) (linesAfter before []) := by
  intro number
  rw [← sameRecords_last before number]
  exact sameRecords_singleton (fun number => readLine_dropReturn number before.reverse) number

theorem sameRecords_return (before : List UInt8) :
    SameRecords (linesAfter before [carriageReturn]) (linesAfter before []) := by
  intro number
  rw [← sameRecords_last before number]
  have ended : linesAfter before [carriageReturn] = [before.reverse ++ [carriageReturn]] := by
    rw [← List.reverse_cons]
    rfl
  rw [ended]
  exact sameRecords_singleton (fun number => readLine_append_return number before.reverse) number

/-! ## 4. Sources -/

theorem ofJsonLines_append_idle {idle : List UInt8}
    (last : ∀ before, SameRecords (linesAfter before idle) (linesAfter before []))
    (bytes : List UInt8) : ofJsonLines (bytes ++ idle) = ofJsonLines bytes := by
  rw [ofJsonLines, lines, sameRecords_append last [] bytes 0]
  rfl

/-- What two sources give one after the other. -/
theorem ofJsonLines_append (first second : List UInt8) :
    ofJsonLines (first ++ lineFeed :: second) =
      match ofJsonLines first, ofJsonLines second with
      | .error error, _ => .error error
      | .ok corpus, .ok more => .ok ⟨corpus.records ++ more.records⟩
      | .ok corpus, .error error => .error (error.later corpus.size) := by
  have seam : readLines 0 (lines (first ++ lineFeed :: second)) = (do
      let records ← readLines 0 (lines first)
      return records ++ (← readLines (0 + records.length) (lines second))) := by
    rw [lines, linesAfter_append_lineFeed, readLines_append,
      sameRecords_append sameRecords_lineFeed [] first 0]
    rfl
  rw [ofJsonLines, ofJsonLines, ofJsonLines, seam]
  rcases readLines 0 (lines first) with error | records
  · rfl
  · simp only [bind, Except.bind, readLines_later]
    rcases readLines 0 (lines second) with error | more
    · rfl
    · rfl

theorem ofJsonLines_of_blank (blank : ∀ line ∈ lines bytes, IsBlankLine line) :
    ofJsonLines bytes = .ok ⟨[]⟩ := by
  rw [ofJsonLines, readLines_of_blank blank]
  rfl

/-- Loading is compositional: of two sources with a line feed between them, the first one is
answered as if it were alone. If it loads, so is the second one, whose records come after those of
the first.

Lines of white space before, between or after the sources do not matter. Neither does a line feed at
the end, or a carriage return before a line feed. -/
theorem ofJsonLines_compositional (first second : List UInt8) :
    (ofJsonLines (first ++ lineFeed :: second) =
      match ofJsonLines first, ofJsonLines second with
      | .error error, _ => .error error
      | .ok corpus, .ok more => .ok ⟨corpus.records ++ more.records⟩
      | .ok corpus, .error error => .error (error.later corpus.size)) ∧
    (∀ blank, (∀ line ∈ lines blank, IsBlankLine line) →
      ofJsonLines (blank ++ lineFeed :: second) = ofJsonLines second ∧
      ofJsonLines (first ++ lineFeed :: (blank ++ lineFeed :: second)) =
        ofJsonLines (first ++ lineFeed :: second) ∧
      ofJsonLines (first ++ lineFeed :: blank) = ofJsonLines first) ∧
    ofJsonLines (first ++ [lineFeed]) = ofJsonLines first ∧
    ofJsonLines (first ++ carriageReturn :: lineFeed :: second) =
      ofJsonLines (first ++ lineFeed :: second) := by
  refine ⟨ofJsonLines_append first second, fun blank white => ?_,
    ofJsonLines_append_idle sameRecords_lineFeed first, ?_⟩
  · have nothing := ofJsonLines_of_blank white
    have before : ofJsonLines (blank ++ lineFeed :: second) = ofJsonLines second := by
      rw [ofJsonLines_append, nothing]
      rcases ofJsonLines second with error | corpus
      · exact congrArg Except.error error.later_zero
      · rfl
    refine ⟨before, ?_, ?_⟩
    · rw [ofJsonLines_append first, ofJsonLines_append first, before]
    · rw [ofJsonLines_append, nothing]
      rcases ofJsonLines first with error | corpus
      · rfl
      · simp only [List.append_nil]
  · rw [ofJsonLines_append first, ← ofJsonLines_append_idle sameRecords_return first,
      ← ofJsonLines_append, List.append_assoc]
    rfl

/-- An object, then lines of white space, one with a carriage return, then an array, which is
reported as the second record. -/
theorem ofJsonLines_compositional_white :
    let object := encodeUtf8 "\x7b\"a\": 1\x7d"
    let array := encodeUtf8 "[]"
    let white := encodeUtf8 "\u3000\n\r\n"
    let corpus : Corpus := ⟨[.ofList [("a", .int 1)]]⟩
    (∀ line ∈ lines white, IsBlankLine line) ∧
    ofJsonLines (white ++ lineFeed :: array) = .error (.notAnObject 0) ∧
    ofJsonLines (object ++ lineFeed :: (white ++ lineFeed :: array)) = .error (.notAnObject 1) ∧
    ofJsonLines (object ++ lineFeed :: white) = .ok corpus := by
  intro object array white corpus
  have loaded : ofJsonLines object = .ok corpus := by decide +kernel
  have refused : ofJsonLines array = .error (.notAnObject 0) := by decide +kernel
  have parts : lines white = [encodeUtf8 "\u3000", []] := by decide +kernel
  have blank : ∀ line ∈ lines white, IsBlankLine line := by
    rw [parts]
    intro line member
    rcases List.mem_cons.mp member with rfl | member
    · exact ⟨"\u3000", decodeUtf8?_eq_some_iff.mpr rfl, by decide⟩
    · rw [List.mem_singleton.mp member]
      exact isBlankLine_nil
  obtain ⟨append, around, -⟩ := ofJsonLines_compositional object array
  obtain ⟨before, between, after⟩ := around white blank
  rw [loaded, refused] at append
  exact ⟨blank, before.trans refused, between.trans append, after.trans loaded⟩

end Corpus

end LogSearch
