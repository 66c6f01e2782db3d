import LogSearch.Archive

/-!
# Listings

What the console prints for a search: a table of the results with the verdict, or the outcome as
JSON.

* Times are kept apart from the text, since they are no part of the answer.
* A time is shown in the largest unit of which it has at least one, with two decimal places.
-/

namespace LogSearch.Console

open Text

/-! ## Times -/

namespace Elapsed

/-- A multiple of a unit of `size` nanoseconds, rounded to two decimal places. -/
def inUnit (nanoseconds size : Nat) (unit : String) : String :=
  let hundredths := (200 * nanoseconds + size) / (2 * size)
  decimalText (hundredths / 100) ++ "." ++ decimalText (hundredths % 100 / 10)
    ++ decimalText (hundredths % 10) ++ unit

/-- The text of a time. -/
def render (nanoseconds : Nat) : String :=
  if nanoseconds < 1000 then inUnit nanoseconds 1 "ns"
  else if nanoseconds < 1000000 then inUnit nanoseconds 1000 "µs"
  else if nanoseconds < 1000000000 then inUnit nanoseconds 1000000 "ms"
  else inUnit nanoseconds 1000000000 "s"

example : render 1234 = "1.23µs" ∧ render 5 = "5.00ns" := by decide +kernel

end Elapsed

/-! ## Lines -/

/-- A piece of output that ends a line. -/
inductive Line where
  | text (s : String)
  /-- The number of records that were loaded, with the time it took. -/
  | loaded (records : Nat)
  /-- The time that a search took. -/
  | elapsed
deriving DecidableEq, Repr

/-- The printed form of a line, where `time` is the time to show. -/
def Line.render (time : String) : Line → String
  | .text s => s ++ "\n"
  | .loaded records => "Loaded " ++ decimalText records ++ " records in " ++ time ++ "\n"
  | .elapsed => "(" ++ time ++ ")\n"

/-! ## Listings -/

/-- A text filled up with spaces to a width. A longer text is not cut. -/
def padRight (width : Nat) (s : String) : String :=
  s ++ .ofList (List.replicate (width - s.length) ' ')

/-- The row of an entry, with a dash for each missing field. -/
def row (number : Nat) (entry : Entry) : String :=
  let show? (field : Option String) := field.getD "-"
  " ".intercalate
    [decimalText number ++ ":", show? entry.timestamp, padRight 5 (show? entry.level),
     padRight 10 (show? entry.user), padRight 15 (show? entry.action),
     padRight 8 (show? entry.status), padRight 15 (show? entry.ip), show? entry.details]

/-- The rows of the results, numbered from one. -/
def rows (entries : List Entry) : List String :=
  entries.zipIdx.map fun (entry, place) => row (place + 1) entry

/-- The listing of an outcome. -/
def listing (outcome : Outcome) : List String :=
  ("Query: " ++ outcome.query) :: ("Found " ++ decimalText outcome.totalMatches ++ " results")
    :: rows outcome.results
    ++ ["[" ++ (if outcome.isCorrect then "correct" else "not yet") ++ "] " ++ outcome.feedback]

/-- How searches are run and shown. -/
structure Display where
  archive : Archive
  maxResults : Nat
  json : Bool

/-- The output of one search. -/
def Display.run (display : Display) (query : String) (mission : Option String) : List Line :=
  let outcome := display.archive.search query mission display.maxResults
  if display.json then [.text outcome.toJson.print]
  else (listing outcome).map .text ++ [.elapsed]

end LogSearch.Console
