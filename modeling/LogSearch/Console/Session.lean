import LogSearch.Console.Editing
import LogSearch.Console.Listing

/-!
# Sessions

An interactive session reads one command a line.

* `quit` or `q` ends it, `mission ID` sets the mission for the searches that follow, and `mission`
  alone clears it. Any other line is a query; a blank one is passed over.
* The input also ends at a line that is not UTF-8.
* Backspaces are applied before a line is read. A line that they would leave with half a character
  breaks the input off.
-/

namespace LogSearch.Console

open Text

/-! ## Commands -/

/-- What a line asks for. -/
inductive Command where
  | nothing
  | quit
  | setMission (mission : Option String)
  | search (query : String)
deriving DecidableEq, Repr

/-- The word that starts a mission command. -/
def missionWord : List Char := ['m', 'i', 's', 's', 'i', 'o', 'n']

/-- Reads a line. The white space around it does not count. -/
def Command.parse (line : String) : Command :=
  let text := trim line.toList
  if text.isEmpty then .nothing
  else if text = ['q', 'u', 'i', 't'] ∨ text = ['q'] then .quit
  else if text = missionWord then .setMission none
  else
    match literal? (missionWord ++ [' ']) text with
    | some mission => .setMission (some (.ofList (trim mission)))
    | none => .search (.ofList text)

/-! ## Transcripts -/

/-- The first line of a session. -/
def welcome : String :=
  "Welcome to loghunt. Type a query, \"mission <id>\" to pick a mission, or \"quit\" to exit."

/-- What a line prints, and the mission in force after it; nothing if the line ends the session. -/
def Display.respond (display : Display) (mission : Option String) (line : String) :
    Option (List Line × Option String) :=
  match Command.parse line with
  | .nothing => some ([], mission)
  | .quit => none
  | .setMission mission => some ([], mission)
  | .search query => some (display.run query mission ++ [.text ""], mission)

/-- What the lines print, where `mission` is in force at the start. -/
def Display.respondAll (display : Display) (mission : Option String) : List String → List Line
  | [] => []
  | line :: lines =>
    match display.respond mission line with
    | none => []
    | some (output, mission) => output ++ respondAll display mission lines

/-- What a session prints. -/
def Display.session (display : Display) (mission : Option String) (lines : List String) :
    List Line :=
  .text welcome :: display.respondAll mission lines

/-! ## Input -/

/-- What the next line of the input is. -/
inductive InputLine where
  | text (line : String)
  /-- The line is not UTF-8. -/
  | undecodable
  /-- A backspace would cut a character in two. -/
  | broken
deriving DecidableEq, Repr

/-- The line that remains of a text. -/
def InputLine.ofString (line : String) : InputLine :=
  match edited? line.toList with
  | some line => .text (.ofList line)
  | none => .broken

/-- The line that remains of bytes. -/
def InputLine.ofBytes (line : List UInt8) : InputLine :=
  match decodeUtf8? line with
  | some line => .ofString line
  | none => .undecodable

/-- The lines of an input, and whether it breaks off after them. -/
structure Input where
  lines : List String
  isBroken : Bool
deriving DecidableEq, Repr

/-- The lines up to the first that has no text. -/
def Input.ofLines : List InputLine → Input
  | [] | .undecodable :: _ => ⟨[], false⟩
  | .broken :: _ => ⟨[], true⟩
  | .text line :: rest =>
    let input := ofLines rest
    { input with lines := line :: input.lines }

/-- The lines of an input that is given by its bytes. -/
def Input.ofBytes (input : List UInt8) : Input :=
  .ofLines ((input.splitOn lineFeed).map .ofBytes)

/-- Whether the input breaks off before a line ends the session. -/
def Input.breaksSession (input : Input) : Bool :=
  input.isBroken && !input.lines.any (Command.parse · = .quit)

end LogSearch.Console
