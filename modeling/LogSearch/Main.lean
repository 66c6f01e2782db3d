import LogSearch.Console.Run

/-!
# The console

Reads the command line, the files and the input, and prints what `Console` answers.
-/

namespace LogSearch.Console

/-- Stands for the compiler of the matching library, whose limit is on the memory of a compiled
pattern. Only the stars are counted here, each at a kibibyte. -/
def patternCompiler : Pattern.Compiler where
  refusal? pattern :=
    if pattern.toList.count '*' * 1024 ≤ 10 * 1024 * 1024 then none
    else some "Compiled regex exceeds size limit of 10485760 bytes."

/-- Reads a file. -/
def readFile (path : String) : IO (Except ReadFault (List UInt8)) := do
  try
    return .ok (← IO.FS.readBinFile path).toList
  catch
    | .noFileOrDirectory .. => return .error .notFound
    | .inappropriateType .. => return .error .isDirectory
    | _ => return .error .refused

/-- Prints lines, with the time since `start`. -/
def printLines (start : Nat) (lines : List Line) : IO Unit := do
  let time := Elapsed.render ((← IO.monoNanosNow) - start)
  IO.print ("".intercalate (lines.map (Line.render time)))

/-- The next line of the input; nothing at its end. -/
def nextLine (input : IO.FS.Stream) : IO (Option InputLine) := do
  try
    let line ← input.getLine
    return if line.isEmpty then none else some (.ofString line)
  catch _ => return some .undecodable

/-- Answers the lines of the input. The result is the exit status. -/
partial def converse (display : Display) (mission : Option String) (input : IO.FS.Stream) :
    IO UInt32 := do
  match ← nextLine input with
  | none | some .undecodable => return 0
  | some .broken => IO.eprintln "error: a backspace cuts a character in two"; return 101
  | some (.text line) =>
    let start ← IO.monoNanosNow
    match display.respond mission line with
    | none => return 0
    | some (output, mission) =>
      printLines start output
      converse display mission input

end LogSearch.Console

open LogSearch Console in
/-- Runs the console on the system's files and input. -/
def main (arguments : List String) : IO UInt32 := do
  let some options := Options.parse? arguments
    | IO.eprintln "error: the arguments cannot be read"; return 2
  let start ← IO.monoNanosNow
  match ← options.load patternCompiler readFile with
  | .error error =>
    IO.eprintln (error.message ++ "\n\nCaused by:\n    " ++ error.cause)
    return 1
  | .ok archive =>
    printLines start (opening archive)
    let display := options.display archive
    match options.query with
    | some query =>
      printLines (← IO.monoNanosNow) (display.run query options.mission)
      return 0
    | none =>
      printLines start [.text welcome]
      converse display options.mission (← IO.getStdin)
