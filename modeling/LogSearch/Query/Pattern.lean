import LogSearch.Text.Case
import LogSearch.Text.Scan

/-!
# Wildcard patterns

A pattern is a text in which each `*` stands for any run of characters within a line. It may match
anywhere in a value, and letter case does not count: characters are compared by their case folding.

* Cut at its stars, a pattern is a list of pieces. It matches a value if some line of the value
  holds all pieces, one after another.
* A pattern is compiled before it is matched, and the compiler may refuse it. Which patterns are
  refused, and for what reason, is left open.
-/

namespace LogSearch.Pattern

open Text

/-! ## Compilation -/

/-- What compiles patterns. It may refuse a pattern, and then gives the reason. -/
structure Compiler where
  refusal? : String → Option String

namespace Compiler

/-- The pattern compiles. -/
def Accepts (compiler : Compiler) (pattern : String) : Prop :=
  compiler.refusal? pattern = none

/-- The compiler that refuses nothing, for examples. -/
def lenient : Compiler where
  refusal? _ := none

theorem lenient_accepts (pattern : String) : lenient.Accepts pattern :=
  rfl

end Compiler

/-! ## Matching -/

/-- The texts between the stars, with letter case removed. -/
def pieces (pattern : String) : List (List Char) :=
  (pattern.toList.splitOn '*').map (·.map foldCase)

/-- The lines of a value, with letter case removed. -/
def foldedLines (value : String) : List (List Char) :=
  (value.toList.splitOn '\n').map (·.map foldCase)

/-- Whether the pattern stands somewhere in the value, within one line. -/
def occursIn (pattern value : String) : Bool :=
  (foldedLines value).any (occurInOrder (pieces pattern))

end LogSearch.Pattern
