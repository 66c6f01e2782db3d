import LogSearch.Json.Printer
import LogSearch.Record

/-!
# Outcomes

The answer to a search, and its JSON form.
-/

namespace LogSearch

/-- The answer to a search. -/
structure Outcome where
  /-- The query without the white space around it. -/
  query : String
  /-- The number of results given. -/
  totalMatches : Nat
  results : List Entry
  isCorrect : Bool
  feedback : String
deriving DecidableEq, Repr

/-- An outcome without results. -/
def Outcome.empty (query feedback : String) : Outcome :=
  ⟨query, 0, [], false, feedback⟩

/-! ## JSON form -/

/-- A text that may be missing. -/
def Json.ofText? : Option String → Json
  | none => .null
  | some s => .string s

/-- The JSON form of an entry, with a null for each missing field. -/
def Entry.toJson (entry : Entry) : Json :=
  .object
    [("timestamp", .ofText? entry.timestamp), ("level", .ofText? entry.level),
     ("user", .ofText? entry.user), ("action", .ofText? entry.action),
     ("status", .ofText? entry.status), ("ip", .ofText? entry.ip),
     ("details", .ofText? entry.details)]

/-- The JSON form of an outcome. -/
def Outcome.toJson (outcome : Outcome) : Json :=
  .object
    [("query", .string outcome.query),
     ("total_matches", .number (.ofInt outcome.totalMatches)),
     ("results", .array (outcome.results.map Entry.toJson)),
     ("is_correct", .bool outcome.isCorrect),
     ("feedback", .string outcome.feedback)]

end LogSearch
