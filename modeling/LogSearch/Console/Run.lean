import LogSearch.Console.Options
import LogSearch.Console.Session
import LogSearch.Folder

/-!
# Runs of the console

From the command line to the output and the exit status, over files that are given as a folder and
with a compiler of the wildcard patterns.
-/

namespace LogSearch.Console

/-- Why no archive is loaded. -/
inductive StartError where
  | settings (path : String) (fault : ReadFault)
  | corpus (error : LoadError)
deriving DecidableEq, Repr

/-- The wording of an error. -/
def StartError.message : StartError → String
  | .settings path _ => "Error: reading config " ++ path
  | .corpus _ => "Error: loading corpus"

/-- What lies behind an error. -/
def StartError.cause : StartError → String
  | .settings _ fault => fault.message
  | .corpus error => error.message

/-- The settings that the options ask for, where `read` reads a file. -/
def Options.settings {m : Type → Type} [Monad m]
    (read : String → m (Except ReadFault (List UInt8))) (options : Options) :
    m (Except StartError Settings) := do
  let settings ← match options.config with
    | none => pure (.ok {})
    | some path => return (← Settings.readFile read path).mapError (.settings path)
  return settings

/-- Loads the archive that the options ask for, where `read` reads a file. -/
def Options.load {m : Type → Type} [Monad m] (compiler : Pattern.Compiler)
    (read : String → m (Except ReadFault (List UInt8))) (options : Options) :
    m (Except StartError Archive) := do
  match ← options.settings read with
  | .error error => return .error error
  | .ok settings =>
    let settings := { settings with corpusPath := options.corpus.or settings.corpusPath }
    return (← Archive.load compiler read settings).mapError .corpus

/-- How searches are shown. -/
def Options.display (options : Options) (archive : Archive) : Display where
  archive := archive
  maxResults := options.maxResults.getD archive.settings.defaultMaxResults
  json := options.json

/-- The end of a run. -/
inductive Ending where
  /-- The command line cannot be read. -/
  | badUsage
  | failed (error : StartError)
  | finished (output : List Line)
  /-- The input broke off. -/
  | aborted (output : List Line)
deriving DecidableEq, Repr

/-- The exit status. -/
def Ending.status : Ending → Nat
  | .badUsage => 2
  | .failed _ => 1
  | .finished _ => 0
  | .aborted _ => 101

/-- What comes before the answers. -/
def opening (archive : Archive) : List Line :=
  [.loaded archive.corpus.size, .text ""]

/-- Runs the console. -/
def run (compiler : Pattern.Compiler) (folder : Folder) (arguments : List String)
    (input : List UInt8) : Ending :=
  match Options.parse? arguments with
  | none => .badUsage
  | some options =>
    match Id.run (options.load compiler fun path => pure (folder.read path)) with
    | .error error => .failed error
    | .ok archive =>
      let display := options.display archive
      match options.query with
      | some query => .finished (opening archive ++ display.run query options.mission)
      | none =>
        let input := Input.ofBytes input
        let output := opening archive ++ display.session options.mission input.lines
        if input.breaksSession then .aborted output else .finished output

end LogSearch.Console
