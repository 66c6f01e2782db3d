import LogSearch.Corpus.Loading
import LogSearch.Json.Basic

/-!
# Settings

The limits on a search and the source of the records.

* Settings are read from a JSON object, member by member. What it leaves out keeps its default, and
  unknown keys are passed over whatever their values are.
* They are also read from an array of the values in the order of `Settings`, of which the last ones
  may be left out.
* A known key that occurs twice, or whose value is of the wrong kind, is refused.
-/

namespace LogSearch

open Json (Document StringPart)

/-- The limits on a search and the source of the records. -/
structure Settings where
  /-- No search gives more results. -/
  maxResultsCeiling : Nat := 100
  /-- The number of results when none is asked for. -/
  defaultMaxResults : Nat := 100
  /-- A longer query is refused. -/
  maxQueryLength : Nat := 1000
  /-- The file of the records; without one, the training corpus is searched. -/
  corpusPath : Option String := none
deriving DecidableEq, Repr

namespace Settings

/-- The number of results to give: the one asked for, but at least one and at most the ceiling.
A ceiling of zero counts as one. -/
def clampResults (settings : Settings) (requested : Nat) : Nat :=
  min (max requested 1) (max settings.maxResultsCeiling 1)

/-! ## Values -/

/-- A count is a plain integer. -/
def readCount? : Document → Option Nat
  | .number n => n.count?
  | _ => none

/-- A path is a string, or null for none. -/
def readPath? : Document → Option (Option String)
  | .null => some none
  | .string parts => (Json.decode? parts).map (some ∘ String.ofList)
  | _ => none

/-! ## Layouts -/

/-- The names of the members of an object. -/
def readNames? : List (List StringPart × Document) → Option (List (String × Document))
  | [] => some []
  | (name, value) :: members => do
    return (.ofList (← Json.decode? name), value) :: (← readNames? members)

/-- The fields that were given so far. -/
structure Draft where
  maxResultsCeiling : Option Nat := none
  defaultMaxResults : Option Nat := none
  maxQueryLength : Option Nat := none
  corpusPath : Option (Option String) := none
deriving DecidableEq, Repr

/-- Reads a member into the field of this name. A member of another name leaves the field as it is;
a field is given only once. -/
def fill? {α : Type} (name : String) (read? : Document → Option α) (field : Option α)
    (member : String × Document) : Option (Option α) :=
  if member.1 = name then
    match field with
    | none => some <$> read? member.2
    | some _ => none
  else some field

/-- Reads a member. -/
def Draft.add? (draft : Draft) (member : String × Document) : Option Draft := do
  return {
    maxResultsCeiling :=
      ← fill? "max_results_ceiling" readCount? draft.maxResultsCeiling member
    defaultMaxResults :=
      ← fill? "default_max_results" readCount? draft.defaultMaxResults member
    maxQueryLength := ← fill? "max_query_chars" readCount? draft.maxQueryLength member
    corpusPath := ← fill? "corpus_path" readPath? draft.corpusPath member }

/-- The settings with these fields, and the defaults for the others. -/
def Draft.settings (draft : Draft) : Settings :=
  let defaults : Settings := {}
  { maxResultsCeiling := draft.maxResultsCeiling.getD defaults.maxResultsCeiling
    defaultMaxResults := draft.defaultMaxResults.getD defaults.defaultMaxResults
    maxQueryLength := draft.maxQueryLength.getD defaults.maxQueryLength
    corpusPath := draft.corpusPath.getD defaults.corpusPath }

/-- The settings of an object. -/
def ofMembers? (members : List (String × Document)) : Option Settings := do
  return (← members.foldlM Draft.add? {}).settings

/-- The field that the item in this place gives. There may be no such item. -/
def item? {α : Type} (items : List Document) (place : Nat) (read? : Document → Option α) :
    Option (Option α) :=
  match items[place]? with
  | none => some none
  | some value => some <$> read? value

/-- The settings of an array. -/
def ofItems? (items : List Document) : Option Settings := do
  guard (items.length ≤ 4)
  let draft : Draft := {
    maxResultsCeiling := ← item? items 0 readCount?
    defaultMaxResults := ← item? items 1 readCount?
    maxQueryLength := ← item? items 2 readCount?
    corpusPath := ← item? items 3 readPath? }
  return draft.settings

/-- The settings of a document. -/
def ofDocument? : Document → Option Settings
  | .object members => do ofMembers? (← readNames? members)
  | .array items => ofItems? items
  | _ => none

/-- Reads settings. -/
def parse (text : String) : Except ReadFault Settings :=
  match (Json.Document.parse? text.toList).bind ofDocument? with
  | some settings => .ok settings
  | none => .error .invalidData

end Settings

end LogSearch
