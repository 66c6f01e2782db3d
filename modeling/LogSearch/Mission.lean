import LogSearch.Record
import LogSearch.Text.Case

/-!
# Missions

A search may be run for a mission. The mission's rule says whether the search solves it, and what
the player is then told; without a rule, any match will do.

* `isCorrect` applies the rule to the lowercase of the query, so letter case does not count.
* `assess` also writes the feedback: on no results, on a solved mission, or on results that do not
  solve it.
-/

namespace LogSearch

open Text

/-! ## Repeated addresses -/

/-- The counts with one more for a text. A text that is not among them comes last. -/
def tally : List (String × Nat) → String → List (String × Nat)
  | [], text => [(text, 1)]
  | (seen, count) :: counts, text =>
    if seen = text then (seen, count + 1) :: counts else (seen, count) :: tally counts text

/-- Of two texts with their counts, the one that counts more; of two equal ones, the first. -/
def moreFrequent : Option (String × Nat) → String × Nat → Option (String × Nat)
  | none, next => some next
  | some best, next => if next.2 ≤ best.2 then some best else some next

/-- The text that occurs most often, with its count; of several, the one seen first. -/
def mostFrequent (texts : List String) : Option (String × Nat) :=
  (texts.foldl tally []).foldl moreFrequent none

/-- The address that most entries share, with the number of those. -/
def mostCommonIp (entries : List Entry) : Option (String × Nat) :=
  mostFrequent (entries.filterMap Entry.ip)

namespace Mission

/-! ## Rules -/

/-- How a mission is judged. -/
structure Rule where
  id : String
  /-- Whether a query, in lowercase, with this number of matches solves the mission. -/
  accepts : String → Nat → Bool
  /-- What the player is told on solving it with these results. -/
  congratulate : List Entry → String

/-- Whether `word` stands somewhere in the query. -/
def mentions (query word : String) : Bool :=
  occurs word.toList query.toList

/-- The player looks for failed logins: the query must name the status and that it is `failed`. -/
def failedLogins : Rule where
  id := "mission03"
  accepts query count :=
    0 < count &&
      (mentions query "status:failed" || (mentions query "status" && mentions query "failed"))
  congratulate entries :=
    let found := "🎯 Found " ++ decimalText entries.length ++ " failed events! "
    let compare := found ++ "Compare their users and IPs for anything that repeats."
    match mostCommonIp entries with
    | some (ip, count) =>
      if 1 < count then
        found ++ "Notice the IP " ++ ip ++ " appears " ++ decimalText count
          ++ " times. That's a pattern worth investigating!"
      else compare
    | none => compare

/-- The player looks for administration at night: the query must name it and an hour. -/
def afterHoursAdmin : Rule where
  id := "mission06"
  accepts query count :=
    0 < count && mentions query "admin" &&
      ["hour", "23", "02", "03", "night"].any (mentions query)
  congratulate entries :=
    "🌙 Found " ++ decimalText entries.length
      ++ " after-hours admin accesses! This is suspicious behavior that a real analyst would escalate."

/-- All missions that have a rule. -/
def rules : List Rule :=
  [failedLogins, afterHoursAdmin]

/-- The rule of a mission. -/
def rule? (mission : String) : Option Rule :=
  rules.find? (·.id == mission)

/-! ## Verdicts -/

/-- Whether a query with this number of matches solves the mission. -/
def isCorrect (query : String) (mission : Option String) (count : Nat) : Bool :=
  match mission.bind rule? with
  | some rule => rule.accepts (.ofList (lowercase query.toList)) count
  | none => 0 < count

/-- The judgement on a search. -/
structure Verdict where
  isCorrect : Bool
  feedback : String
deriving DecidableEq, Repr

/-- The feedback on a blank query. -/
def blankFeedback : String :=
  "Enter a search query. Example: status:failed"

/-- The feedback on a query that is refused for a reason. -/
def refusedFeedback (reason : String) : String :=
  "Query error: " ++ reason ++ ". Check your syntax!"

/-- The feedback on a search without results, which lists the fields that can be searched. -/
def nothingFoundFeedback (fields : List String) : String :=
  "No results found. Try adjusting your query. Available fields: " ++ ", ".intercalate fields

/-- The feedback on a search that solves the mission. -/
def solvedFeedback (mission : Option String) (entries : List Entry) : String :=
  match mission.bind rule? with
  | some rule => rule.congratulate entries
  | none => "✅ Found " ++ decimalText entries.length ++ " matching entries."

/-- The feedback on results that do not solve the mission. -/
def reviewFeedback (entries : List Entry) : String :=
  "Found " ++ decimalText entries.length
    ++ " results. Review them to see if they match what you're looking for."

/-- Judges a search by its results; `fields` are the fields that can be searched. -/
def assess (query : String) (mission : Option String) (entries : List Entry)
    (fields : List String) : Verdict :=
  let correct := isCorrect query mission entries.length
  { isCorrect := correct
    feedback :=
      if entries.isEmpty then nothingFoundFeedback fields
      else if correct then solvedFeedback mission entries
      else reviewFeedback entries }

end Mission

end LogSearch
