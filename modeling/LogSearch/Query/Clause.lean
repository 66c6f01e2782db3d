import LogSearch.Query.Pattern
import LogSearch.Record

/-!
# Clauses

A clause is a condition on one record.

* `field:value` asks for a field with this text, whatever the letter case.
* `field:part*part` asks for a field whose text holds the parts in this order.
* `field:[min TO max]` asks for an integer field within the bounds, both included.
* Any other text is searched for in every field.

`Clause.parse` tries a range first, then a field with a value; what is left is free text. A value
with stars is a wildcard pattern, which the compiler may refuse.
-/

namespace LogSearch

open Text

/-! ## Errors -/

/-- Why a query is refused. -/
inductive QueryError where
  /-- The query has `length` characters, more than the `limit`. -/
  | tooLong (length limit : Nat)
  /-- A clause has the right shape and a content that cannot be used. -/
  | malformedClause (fragment reason : String)
  /-- A wildcard pattern does not compile. -/
  | badPattern (reason : String)
deriving DecidableEq, Repr

/-- The wording of an error. -/
def QueryError.message : QueryError → String
  | .tooLong length limit =>
    "query is " ++ decimalText length ++ " characters long, the limit is " ++ decimalText limit
  | .malformedClause fragment reason =>
    "malformed clause \x60" ++ fragment ++ "\x60: " ++ reason
  | .badPattern reason => "invalid wildcard pattern: " ++ reason

/-! ## Conditions -/

/-- A condition on one record. -/
inductive Clause where
  /-- The field's text is `value`, but for letter case. -/
  | equals (field value : String)
  /-- The field's text holds the wildcard pattern. -/
  | wildcard (field pattern : String)
  /-- The field is an integer from `min` to `max`. -/
  | range (field : String) (min max : Int64)
  /-- Some field's text holds `text`, but for letter case. The empty text is never found. -/
  | freeText (text : String)
deriving DecidableEq, Repr

namespace Clause

/-- Whether a record meets the condition. A record without the field does not. -/
def holds (clause : Clause) (record : Record) : Bool :=
  match clause with
  | .equals field value =>
    (record.text? field).any fun text => lowercase text.toList == lowercase value.toList
  | .wildcard field pattern => (record.text? field).any (Pattern.occursIn pattern)
  | .range field min max =>
    ((record.get? field).bind Value.int?).any fun n => min ≤ n && n ≤ max
  | .freeText text =>
    !text.isEmpty && record.fields.any fun (_, value) =>
      occurs (lowercase text.toList) (lowercase value.toText.toList)

/-! ## Grammar -/

/-- The characters of field names in queries. -/
def isNameChar (c : Char) : Bool :=
  c.isAlphanum || c == '_'

/-- A quotation mark around a value. -/
def isQuote (c : Char) : Bool :=
  c == '"' || c == '\''

/-- The parts of `field:[low TO high]` at the front of the text: the field and the digits of the two
bounds. White space is required on both sides of `TO`, and what follows the bracket does not count.
-/
def rangeParts? (text : List Char) : Option (List Char × List Char × List Char) := do
  let (field, text) ← run? isNameChar text
  let text ← literal? [':', '['] text
  let (low, text) ← run? Char.isDigit text
  let (_, text) ← run? isBlank text
  let text ← literal? ['T', 'O'] text
  let (_, text) ← run? isBlank text
  let (high, text) ← run? Char.isDigit text
  let _ ← literal? [']'] text
  return (field, low, high)

/-- The parts of `field:value`: the field, and the value up to the end of the line. -/
def valueParts? (text : List Char) : Option (List Char × List Char) := do
  let (field, text) ← run? isNameChar text
  let text ← literal? [':'] text
  let (value, _) ← run? (· ≠ '\n') text
  return (field, value)

/-- Reads the bound of a range. No stored integer lies beyond the largest one, so a larger bound is
held there. -/
def readBound (fragment : String) (digits : List Char) : Except QueryError Int64 :=
  match readInt64 digits with
  | .ok n => .ok n
  | .error .tooLarge => .ok Int64.maxValue
  | .error fault =>
    .error <| .malformedClause fragment <|
      "range bound \x60" ++ .ofList digits ++ "\x60 is not a usable integer ("
        ++ fault.message ++ ")"

/-- The condition on a field with a wildcard pattern, unless the pattern is refused. -/
def ofPattern (compiler : Pattern.Compiler) (field pattern : String) : Except QueryError Clause :=
  match compiler.refusal? pattern with
  | none => .ok (.wildcard field pattern)
  | some reason => .error (.badPattern reason)

theorem ofPattern_eq_ok_iff {compiler : Pattern.Compiler} {field pattern : String}
    {clause : Clause} :
    ofPattern compiler field pattern = .ok clause ↔
      compiler.Accepts pattern ∧ clause = .wildcard field pattern := by
  rw [ofPattern, Pattern.Compiler.Accepts]
  cases compiler.refusal? pattern with
  | none => simp [eq_comm]
  | some reason => simp

/-- The condition on a field with a value, of which the quotation marks at both ends are no part. -/
def ofValue (compiler : Pattern.Compiler) (field value : List Char) : Except QueryError Clause :=
  let value := String.ofList (strip isQuote value)
  if value.toList.contains '*' then ofPattern compiler (.ofList field) value
  else .ok (.equals (.ofList field) value)

/-- Reads a clause. -/
def parse (compiler : Pattern.Compiler) (text : String) : Except QueryError Clause :=
  match rangeParts? text.toList with
  | some (field, low, high) => do
    let min ← readBound text low
    let max ← readBound text high
    return .range (.ofList field) min max
  | none =>
    match valueParts? text.toList with
    | some (field, value) => ofValue compiler field value
    | none => .ok (.freeText text)

end Clause

end LogSearch
