import LogSearch.Json.Document

/-!
# JSON values

What a JSON text means, and the reading of it.

* A string is a text of whole characters, a number fits in floating point, and an object has each
  key once: a repeated key keeps its first place and its last value.
* Brackets are nested at most `nestingLimit` deep.
-/

namespace LogSearch

/-- A JSON value. The keys of an object are in order. -/
inductive Json where
  | null
  | bool (b : Bool)
  | number (n : Json.Numeral)
  | string (s : String)
  | array (items : List Json)
  | object (members : List (String × Json))

namespace Json

/-- The members with each key once, at its first place and with its last value. -/
def keepLast {α : Type} : List (String × α) → List (String × α)
  | [] => []
  | (key, value) :: rest =>
    (key, ((keepLast rest).lookup key).getD value) :: (keepLast rest).filter (·.1 ≠ key)

mutual

/-- The meaning of a document, if it has one. -/
def ofDocument? : Document → Option Json
  | .null => some .null
  | .bool b => some (.bool b)
  | .number n => if n.isFinite then some (.number n) else none
  | .string parts => (decode? parts).map fun s => .string (.ofList s)
  | .array items => .array <$> ofItems? items
  | .object members => (.object ∘ keepLast) <$> ofMembers? members

/-- The meanings of the items of an array. -/
def ofItems? : List Document → Option (List Json)
  | [] => some []
  | item :: items => do return (← ofDocument? item) :: (← ofItems? items)

/-- The meanings of the members of an object, as they are written. -/
def ofMembers? : List (List StringPart × Document) → Option (List (String × Json))
  | [] => some []
  | (key, value) :: members => do
    return (.ofList (← decode? key), ← ofDocument? value) :: (← ofMembers? members)

end

/-- How deep brackets may be nested. -/
def nestingLimit : Nat := 127

/-- The value of a text. -/
def parse? (text : String) : Option Json := do
  let tokens ← tokens? text.toList
  if nestingWithin nestingLimit 0 tokens then ofDocument? (← Document.ofTokens? tokens) else none

end Json

end LogSearch
