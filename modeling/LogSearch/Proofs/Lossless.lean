import LogSearch.Console.Listing
import LogSearch.Proofs.Printing
import LogSearch.Proofs.Search
import LogSearch.Proofs.TrailingSpace
import Mathlib.Data.List.Basic

/-!
# Lossless output

The console's JSON output holds all of an outcome. It is one JSON text, and the reader that reads
records from JSON gives the outcome back, member by member and in order.

Results:
1. `Entry.printable_toJson`, `Outcome.printable_toJson`: the JSON form of an outcome can be read
   back, if the number of results fits in 64 bits.
2. `Outcome.toJson_injective`: the JSON form tells a missing text from every text.
3. `Console.output_lossless`: what is printed, and what is read from it; different outcomes are
   printed differently.
-/

namespace LogSearch

/-! ## 1. Printable outcomes -/

theorem Json.printable_ofText? (limit : Nat) (text : Option String) :
    Printable limit (.ofText? text) := by
  cases text with
  | none => exact .null
  | some s => exact .string

theorem Entry.printable_toJson (limit : Nat) (entry : Entry) :
    Json.Printable (limit + 1) entry.toJson := by
  refine .object (by simp) ?_
  simp only [List.forall_mem_cons]
  exact ⟨Json.printable_ofText? _ _, Json.printable_ofText? _ _, Json.printable_ofText? _ _,
    Json.printable_ofText? _ _, Json.printable_ofText? _ _, Json.printable_ofText? _ _,
    Json.printable_ofText? _ _, by simp⟩

/-- The brackets of an outcome, of the list of its results, and of a result. -/
theorem Outcome.printable_toJson (limit : Nat) {outcome : Outcome}
    (counted : (outcome.totalMatches : Int) ≤ Int64.maxValue.toInt) :
    Json.Printable (limit + 3) outcome.toJson := by
  have total : (outcome.totalMatches : Int).natAbs < UInt64.size := by
    have largest : Int64.maxValue.toInt < (UInt64.size : Int) := by decide
    omega
  refine .object (by simp) ?_
  simp only [List.forall_mem_cons]
  refine ⟨.string, .integer total, .array ?_, .bool, .string, by simp⟩
  intro item member
  obtain ⟨entry, -, rfl⟩ := List.mem_map.mp member
  exact entry.printable_toJson limit

/-! ## 2. JSON forms -/

theorem Json.ofText?_eq_elim (text : Option String) :
    Json.ofText? text = text.elim .null .string := by
  cases text with
  | none => rfl
  | some s => rfl

theorem Json.ofText?_injective {text other : Option String}
    (same : Json.ofText? text = .ofText? other) : text = other := by
  cases text with
  | none =>
    cases other with
    | none => rfl
    | some s => cases same
  | some s =>
    cases other with
    | none => cases same
    | some t =>
      obtain rfl := Json.string.inj same
      rfl

theorem Json.Numeral.ofInt_injective {n m : Int} (same : ofInt n = ofInt m) : n = m := by
  have denoted := integer?_ofInt n
  rw [same, integer?_ofInt] at denoted
  exact (Option.some.inj denoted).symm

theorem Entry.toJson_injective {entry other : Entry} (same : entry.toJson = other.toJson) :
    entry = other := by
  simp only [toJson, Json.object.injEq, List.cons.injEq, Prod.mk.injEq, true_and, and_true] at same
  obtain ⟨timestamp, level, user, action, status, ip, details⟩ := same
  cases entry
  cases other
  simp only [mk.injEq]
  exact ⟨Json.ofText?_injective timestamp, Json.ofText?_injective level,
    Json.ofText?_injective user, Json.ofText?_injective action, Json.ofText?_injective status,
    Json.ofText?_injective ip, Json.ofText?_injective details⟩

theorem Outcome.toJson_injective {outcome other : Outcome}
    (same : outcome.toJson = other.toJson) : outcome = other := by
  simp only [toJson, Json.object.injEq, List.cons.injEq, Prod.mk.injEq, true_and, and_true,
    Json.string.injEq, Json.number.injEq, Json.array.injEq, Json.bool.injEq] at same
  obtain ⟨query, total, results, correct, feedback⟩ := same
  cases outcome
  cases other
  simp only [mk.injEq]
  refine ⟨query, Int.ofNat.inj (Json.Numeral.ofInt_injective total), ?_, correct, feedback⟩
  exact List.map_injective_iff.mpr (fun _ _ => Entry.toJson_injective) results

/-! ## 3. The output -/

namespace Console

theorem parse?_render {json : Json} (printable : Json.Printable Json.nestingLimit json)
    (time : String) : Json.parse? ((Line.text json.print).render time) = some json := by
  have line : (Line.text json.print).render time =
      .ofList (json.print.toList ++ ['\n']) := by
    rw [Line.render, String.ofList_append, String.ofList_toList]
  rw [line, Json.parse?_append_space (by decide), String.ofList_toList, Json.parse?_print printable]

/-- For every outcome with no more results than the largest integer:

* Where JSON is asked for, its printed form is all that is put out.
* That is a JSON text, with the line feed that ends it. It means an object of five members in this
  order, with the values of the outcome. A result is an object of seven members, each a null or a
  text as the field is absent or present.
* Another outcome is printed differently. -/
theorem output_lossless (outcome : Outcome)
    (counted : (outcome.totalMatches : Int) ≤ Int64.maxValue.toInt) :
    let orNull (text : Option String) : Json := text.elim .null .string
    (∀ (display : Display) (query : String) (mission : Option String), display.json = true →
      display.archive.search query mission display.maxResults = outcome →
      display.run query mission = [.text outcome.toJson.print]) ∧
    (∃ total : Json.Numeral, total.int64?.map Int64.toInt = some (outcome.totalMatches : Int) ∧
      ∀ time, Json.parse? ((Line.text outcome.toJson.print).render time) = some (.object
        [("query", .string outcome.query),
         ("total_matches", .number total),
         ("results", .array (outcome.results.map fun entry => .object
           [("timestamp", orNull entry.timestamp), ("level", orNull entry.level),
            ("user", orNull entry.user), ("action", orNull entry.action),
            ("status", orNull entry.status), ("ip", orNull entry.ip),
            ("details", orNull entry.details)])),
         ("is_correct", .bool outcome.isCorrect),
         ("feedback", .string outcome.feedback)])) ∧
    ∀ other : Outcome, (other.totalMatches : Int) ≤ Int64.maxValue.toInt → other ≠ outcome →
      ∀ time, (Line.text other.toJson.print).render time ≠
        (Line.text outcome.toJson.print).render time := by
  intro orNull
  refine ⟨?shown, ⟨.ofInt outcome.totalMatches, ?total, fun time => ?read⟩, ?differs⟩
  case shown =>
    rintro display query mission json rfl
    rw [Display.run, if_pos json]
  case total =>
    have lowest : Int64.minValue.toInt ≤ 0 := by decide
    exact Json.Numeral.int64?_ofInt (by omega) counted
  case read =>
    have entries : Entry.toJson = fun entry => Json.object
        [("timestamp", orNull entry.timestamp), ("level", orNull entry.level),
         ("user", orNull entry.user), ("action", orNull entry.action),
         ("status", orNull entry.status), ("ip", orNull entry.ip),
         ("details", orNull entry.details)] := by
      funext entry
      simp only [Entry.toJson, Json.ofText?_eq_elim]
      rfl
    rw [parse?_render (outcome.printable_toJson 124 counted), Outcome.toJson, entries]
  case differs =>
    intro other otherCounted different time same
    have read := parse?_render (outcome.printable_toJson 124 counted) time
    rw [← same, parse?_render (other.printable_toJson 124 otherCounted)] at read
    exact different (Outcome.toJson_injective (Option.some.inj read))

/-- An outcome with marks of JSON in its texts, with an empty text and with missing ones. -/
def marked (timestamp : Option String) : Outcome where
  query := "a\"b\\c\n\x01\x7F é😀"
  totalMatches := 2
  results :=
    [⟨timestamp, none, some "", some "\t\x08\x0C\r/", none, none, some "\x7b\x7d[],: "⟩,
     ⟨none, none, none, none, none, none, none⟩]
  isCorrect := true
  feedback := "\u2028"

/-- The marks are read as they were, and a text that says `null` is told from a missing one. The
output of a search is printed that way. -/
theorem output_lossless_marked :
    let named := marked (some "null")
    let missing := marked none
    let display : Display := ⟨Archive.narrowTwins, 7, true⟩
    let found := display.archive.search "user:a" none 7
    ((named.totalMatches : Int) ≤ Int64.maxValue.toInt ∧
      ∃ total : Json.Numeral, total.int64?.map Int64.toInt = some 2 ∧
        Json.parse? ((Line.text named.toJson.print).render "1s") = some (.object
          [("query", .string "a\"b\\c\n\x01\x7F é😀"),
           ("total_matches", .number total),
           ("results", .array
             [.object
               [("timestamp", .string "null"), ("level", .null), ("user", .string ""),
                ("action", .string "\t\x08\x0C\r/"), ("status", .null), ("ip", .null),
                ("details", .string "\x7b\x7d[],: ")],
              .object
               [("timestamp", .null), ("level", .null), ("user", .null), ("action", .null),
                ("status", .null), ("ip", .null), ("details", .null)]]),
           ("is_correct", .bool true),
           ("feedback", .string "\u2028")])) ∧
    ((missing.totalMatches : Int) ≤ Int64.maxValue.toInt ∧ missing ≠ named ∧
      (Line.text missing.toJson.print).render "1s" ≠ (Line.text named.toJson.print).render "1s") ∧
    (display.json = true ∧ (found.totalMatches : Int) ≤ Int64.maxValue.toInt ∧
      display.run "user:a" none = [.text found.toJson.print]) := by
  intro named missing display found
  have counted : (named.totalMatches : Int) ≤ Int64.maxValue.toInt := by decide
  have missingCounted : (missing.totalMatches : Int) ≤ Int64.maxValue.toInt := by decide
  have foundCounted : (found.totalMatches : Int) ≤ Int64.maxValue.toInt := by decide +kernel
  have different : missing ≠ named := by decide
  obtain ⟨-, ⟨total, value, read⟩, differs⟩ := output_lossless named counted
  obtain ⟨shown, -⟩ := output_lossless found foundCounted
  exact ⟨⟨counted, total, value, read "1s"⟩,
    ⟨missingCounted, different, differs missing missingCounted different "1s"⟩,
    ⟨rfl, foundCounted, shown display "user:a" none rfl rfl⟩⟩

end Console

end LogSearch
