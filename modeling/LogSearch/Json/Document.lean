import LogSearch.Json.Token

/-!
# JSON documents

The structure of a JSON text, before its strings and numbers are given a meaning.

* A document is built token by token. Between two tokens, `Progress` holds the arrays and objects
  that are still open and says which tokens may come next.
* `Document.parse?` accepts every text of the grammar, however deep, also where a string holds half
  a character or a number is too large to be held.
-/

namespace LogSearch.Json

/-- A document as written. A key may occur twice in an object. -/
inductive Document where
  | null
  | bool (b : Bool)
  | number (n : Numeral)
  | string (parts : List StringPart)
  | array (items : List Document)
  | object (members : List (List StringPart × Document))

/-- An open array or object with what it holds so far, last first. An object waits for the value
of `key`. -/
inductive Container where
  | array (items : List Document)
  | object (members : List (List StringPart × Document)) (key : List StringPart)

/-- What was read, and so what may come next. The containers around the place are listed from the
inside out. -/
inductive Progress where
  /-- A value must come. -/
  | value (outer : List Container)
  /-- An array was opened: a value or the end must come. -/
  | firstItem (outer : List Container)
  /-- An object was opened, or a comma was read in one: a key must come. The end may come only if
  there are no members. -/
  | nextKey (members : List (List StringPart × Document)) (outer : List Container)
  /-- A key was read: a colon must come. -/
  | nextColon (members : List (List StringPart × Document)) (key : List StringPart)
    (outer : List Container)
  /-- A value was read in a container: a comma or the end must come. -/
  | afterValue (last : Document) (inner : Container) (outer : List Container)
  /-- The document is complete. -/
  | done (document : Document)

namespace Progress

/-- The value is read, in these containers. -/
def complete (document : Document) : List Container → Progress
  | [] => .done document
  | inner :: outer => .afterValue document inner outer

/-- A value starts, in these containers. -/
def start (outer : List Container) : Token → Option Progress
  | .null => some (complete .null outer)
  | .bool b => some (complete (.bool b) outer)
  | .number n => some (complete (.number n) outer)
  | .string parts => some (complete (.string parts) outer)
  | .openArray => some (.firstItem outer)
  | .openObject => some (.nextKey [] outer)
  | _ => none

/-- Reads a token. -/
def step : Progress → Token → Option Progress
  | .value outer, token => start outer token
  | .firstItem outer, .closeArray => some (complete (.array []) outer)
  | .firstItem outer, token => start (.array [] :: outer) token
  | .nextKey [] outer, .closeObject => some (complete (.object []) outer)
  | .nextKey members outer, .string name => some (.nextColon members name outer)
  | .nextColon members name outer, .colon => some (.value (.object members name :: outer))
  | .afterValue last (.array items) outer, .comma => some (.value (.array (last :: items) :: outer))
  | .afterValue last (.array items) outer, .closeArray =>
    some (complete (.array (last :: items).reverse) outer)
  | .afterValue last (.object members name) outer, .comma =>
    some (.nextKey ((name, last) :: members) outer)
  | .afterValue last (.object members name) outer, .closeObject =>
    some (complete (.object ((name, last) :: members).reverse) outer)
  | _, _ => none

/-- The document, once it is complete. -/
def document? : Progress → Option Document
  | .done document => some document
  | _ => none

end Progress

/-- The document that the tokens form. -/
def Document.ofTokens? (tokens : List Token) : Option Document := do
  let progress ← tokens.foldlM Progress.step (.value [])
  progress.document?

/-- The document of a text. -/
def Document.parse? (text : List Char) : Option Document := do
  Document.ofTokens? (← tokens? text)

end LogSearch.Json
