import LogSearch.Corpus.Basic
import LogSearch.Json.Basic
import LogSearch.Text.Scan

/-!
# Loading a corpus

A corpus is loaded from a JSON array of objects, or from lines that hold one object each.

* A member whose value is a text or a 64-bit integer becomes a field; any other value is refused.
* Loading is all or nothing: the first fault, in the order of the source, is the answer.
* Blank lines are skipped, and do not count as records.
* `Text.lines` cuts bytes into lines. A line ends with a line feed, or with a carriage return and a
  line feed.
-/

namespace LogSearch

open Text

/-! ## Text as bytes -/

namespace Text

/-- The byte at the end of a line. -/
def lineFeed : UInt8 := 10

/-- A byte that may stand before a line feed and then belongs to the end of the line. -/
def carriageReturn : UInt8 := 13

/-- The line without a carriage return at its end. -/
def dropReturn (line : List UInt8) : List UInt8 :=
  if line.getLast? = some carriageReturn then line.dropLast else line

/-- The lines of the bytes, where `before` holds what was read of the first one, nearest first. -/
def linesAfter (before : List UInt8) : List UInt8 → List (List UInt8)
  | [] => if before.isEmpty then [] else [before.reverse]
  | byte :: bytes =>
    if byte = lineFeed then dropReturn before.reverse :: linesAfter [] bytes
    else linesAfter (byte :: before) bytes

/-- The lines of the bytes, without the bytes that end them. What follows the last line feed is a
line if it is not empty. -/
def lines (bytes : List UInt8) : List (List UInt8) :=
  linesAfter [] bytes

/-- The text that the bytes encode in UTF-8. -/
def decodeUtf8? (bytes : List UInt8) : Option String :=
  String.fromUTF8? ⟨bytes.toArray⟩

example : lines [97, 13, 13, 10, 10, 98, 13] = [[97, 13], [], [98, 13]] := by decide

end Text

/-! ## Faults -/

/-- Why a file gives no text. -/
inductive ReadFault where
  | notFound
  | isDirectory
  | notDirectory
  /-- The bytes are not what they should be, such as text that is not UTF-8. -/
  | invalidData
  /-- Any other refusal of the system. -/
  | refused
deriving DecidableEq, Repr

/-- The wording of a fault. -/
def ReadFault.message : ReadFault → String
  | .notFound => "no such file"
  | .isDirectory => "is a directory"
  | .notDirectory => "not a directory"
  | .invalidData => "invalid data"
  | .refused => "cannot be read"

/-- Why no corpus is loaded. Records are numbered from zero. -/
inductive LoadError where
  /-- The source of the records cannot be read. -/
  | unreadable (fault : ReadFault)
  /-- The settings, which name the source of the records, cannot be read. -/
  | badSettings (fault : ReadFault)
  /-- A line is not JSON. -/
  | notJson (record : Nat)
  /-- A record is not an object. -/
  | notAnObject (record : Nat)
  /-- A member of a record is neither a text nor an integer. -/
  | unsupportedValue (record : Nat) (field : String)
  /-- The source is not an array. -/
  | notAnArray
deriving DecidableEq, Repr

/-- The wording of an error. -/
def LoadError.message : LoadError → String
  | .unreadable fault => "IO error: " ++ fault.message
  | .badSettings fault => "config error: " ++ fault.message
  | .notJson record => "invalid JSON on record " ++ decimalText record
  | .notAnObject record => "record " ++ decimalText record ++ " is not a JSON object"
  | .unsupportedValue record field =>
    "record " ++ decimalText record ++ ": field \x60" ++ field
      ++ "\x60 must be an integer or a string"
  | .notAnArray => "corpus source must be a JSON array of objects"

/-! ## Records -/

/-- The field value that a JSON value stands for. -/
def Value.ofJson? : Json → Option Value
  | .string s => some (.text s)
  | .number n => n.int64?.map .int
  | _ => none

/-- The fields that the members stand for, or the name of the first one that stands for none. -/
def Record.readFields : List (String × Json) → Except String (List (String × Value))
  | [] => .ok []
  | (name, json) :: members =>
    match Value.ofJson? json with
    | none => .error name
    | some value => ((name, value) :: ·) <$> readFields members

/-- The record that a JSON value stands for. Errors carry its number. -/
def Record.ofJson (number : Nat) : Json → Except LoadError Record
  | .object members =>
    match Record.readFields members with
    | .ok fields => .ok (.ofList fields)
    | .error name => .error (.unsupportedValue number name)
  | _ => .error (.notAnObject number)

namespace Corpus

/-! ## A JSON array -/

/-- The records of the items, of which the first has this number. -/
def readItems (number : Nat) : List Json → Except LoadError (List Record)
  | [] => .ok []
  | item :: items => do
    let record ← Record.ofJson number item
    return record :: (← readItems (number + 1) items)

/-- Loads the records of a JSON array. -/
def ofJson : Json → Except LoadError Corpus
  | .array items => Corpus.mk <$> readItems 0 items
  | _ => .error .notAnArray

/-! ## JSON lines -/

/-- The record of a line, or nothing if the line is blank. -/
def readLine (number : Nat) (line : List UInt8) : Except LoadError (Option Record) :=
  match decodeUtf8? line with
  | none => .error (.unreadable .invalidData)
  | some text =>
    if isBlankText text.toList then .ok none
    else
      match Json.parse? text with
      | none => .error (.notJson number)
      | some json => some <$> Record.ofJson number json

/-- The records of the lines, of which the first to come has this number. -/
def readLines (number : Nat) : List (List UInt8) → Except LoadError (List Record)
  | [] => .ok []
  | line :: lines => do
    match ← readLine number line with
    | none => readLines number lines
    | some record => return record :: (← readLines (number + 1) lines)

/-- Loads the records of JSON lines. -/
def ofJsonLines (bytes : List UInt8) : Except LoadError Corpus :=
  Corpus.mk <$> readLines 0 (lines bytes)

end Corpus

end LogSearch
