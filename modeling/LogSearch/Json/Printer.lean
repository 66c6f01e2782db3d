import LogSearch.Json.Basic

/-!
# Printing JSON

The printed form of a value, for people to read: one item or member a line, indented by two spaces
for each bracket around it. Empty arrays and objects stay on one line.
-/

namespace LogSearch.Json

/-! ## Strings -/

/-- A hexadecimal digit. -/
def hexDigit (n : Nat) : Char :=
  if n < 10 then .ofNat ('0'.toNat + n) else .ofNat ('a'.toNat + (n - 10))

/-- A character within a string. Quotation marks, backslashes and control characters are escaped. -/
def escape (c : Char) : List Char :=
  if c = '"' then ['\\', '"']
  else if c = '\\' then ['\\', '\\']
  else if c = '\x08' then ['\\', 'b']
  else if c = '\x0C' then ['\\', 'f']
  else if c = '\n' then ['\\', 'n']
  else if c = '\r' then ['\\', 'r']
  else if c = '\t' then ['\\', 't']
  else if c.toNat < 0x20 then
    ['\\', 'u', '0', '0', hexDigit (c.toNat / 16), hexDigit (c.toNat % 16)]
  else [c]

/-- A string with its quotation marks. -/
def writeString (s : String) : List Char :=
  '"' :: s.toList.flatMap escape ++ ['"']

/-! ## Values -/

/-- The start of a line within `depth` brackets. -/
def newLine (depth : Nat) : List Char :=
  '\n' :: List.replicate (2 * depth) ' '

mutual

/-- The text of a value within `depth` brackets. -/
def write (depth : Nat) : Json → List Char
  | .null => ['n', 'u', 'l', 'l']
  | .bool true => ['t', 'r', 'u', 'e']
  | .bool false => ['f', 'a', 'l', 's', 'e']
  | .number n => n.write
  | .string s => writeString s
  | .array [] => ['[', ']']
  | .array (item :: items) =>
    '[' :: newLine (depth + 1) ++ write (depth + 1) item ++ writeItems (depth + 1) items
      ++ newLine depth ++ [']']
  | .object [] => ['\x7b', '\x7d']
  | .object ((key, value) :: members) =>
    '\x7b' :: newLine (depth + 1) ++ writeString key ++ [':', ' '] ++ write (depth + 1) value
      ++ writeMembers (depth + 1) members ++ newLine depth ++ ['\x7d']

/-- The text of the items after the first. -/
def writeItems (depth : Nat) : List Json → List Char
  | [] => []
  | item :: items => ',' :: newLine depth ++ write depth item ++ writeItems depth items

/-- The text of the members after the first. -/
def writeMembers (depth : Nat) : List (String × Json) → List Char
  | [] => []
  | (key, value) :: members =>
    ',' :: newLine depth ++ writeString key ++ [':', ' '] ++ write depth value
      ++ writeMembers depth members

end

/-- The printed form of a value. -/
def print (json : Json) : String :=
  .ofList (write 0 json)

end LogSearch.Json
