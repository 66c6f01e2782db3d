import LogSearch.Text.Decimal

/-!
# Command line

The options of the console.

* An option with a value is written `-q VALUE`, `-qVALUE`, `-q=VALUE`, `--query VALUE` or
  `--query=VALUE`. A value that is an argument of its own must not look like an option.
* Each option may be given once, and there are no other arguments.
-/

namespace LogSearch.Console

open Text

/-- What the command line asks for. -/
structure Options where
  /-- The query to run; without one, queries are read from the input. -/
  query : Option String := none
  mission : Option String := none
  maxResults : Option Nat := none
  /-- The file of the settings. -/
  config : Option String := none
  /-- The file of the records, whatever the settings say. -/
  corpus : Option String := none
  /-- Outcomes are printed as JSON. -/
  json : Bool := false
deriving DecidableEq, Repr

/-- The options that have a value. -/
inductive OptionName where
  | query
  | mission
  | maxResults
  | config
  | corpus
deriving DecidableEq, Repr

/-- The option of a letter. -/
def OptionName.ofLetter? : Char → Option OptionName
  | 'q' => some .query
  | 'm' => some .mission
  | 'n' => some .maxResults
  | 'c' => some .config
  | _ => none

/-- The option of a word. -/
def OptionName.ofWord? : String → Option OptionName
  | "query" => some .query
  | "mission" => some .mission
  | "max-results" => some .maxResults
  | "config" => some .config
  | "corpus" => some .corpus
  | _ => none

/-! ## Arguments -/

/-- An argument that is an option. -/
inductive Argument where
  /-- The end of the options. -/
  | stop
  | json
  /-- An option with its value, or with the value still to come. -/
  | valued (name : OptionName) (value : Option String)
deriving DecidableEq, Repr

/-- Reads an option by its word, with the value after an equals sign if there is one. -/
def Argument.ofWord? (text : List Char) : Option Argument :=
  let word := String.ofList (text.takeWhile (· ≠ '='))
  match text.dropWhile (· ≠ '=') with
  | [] =>
    if word = "json" then some .json
    else (OptionName.ofWord? word).map (.valued · none)
  | _ :: value => (OptionName.ofWord? word).map (.valued · (some (.ofList value)))

/-- Reads an option by its letter, with the value that follows it if there is one. -/
def Argument.ofLetter? (letter : Char) (text : List Char) : Option Argument :=
  let value := match text with
    | [] => none
    | '=' :: value => some (.ofList value)
    | value => some (.ofList value)
  (OptionName.ofLetter? letter).map (.valued · value)

/-- Reads an argument. -/
def Argument.parse? (text : String) : Option Argument :=
  match text.toList with
  | ['-', '-'] => some .stop
  | '-' :: '-' :: word => ofWord? word
  | '-' :: letter :: text => ofLetter? letter text
  | _ => none

/-- Whether an argument looks like an option, and so is no value. A lone `-` is a value. -/
def looksLikeOption (text : String) : Bool :=
  match text.toList with
  | '-' :: _ :: _ => true
  | _ => false

/-! ## Values -/

/-- Reads a count that fits in 64 bits: digits, perhaps after a plus sign. -/
def readCount? (text : String) : Option Nat :=
  let digits := match text.toList with
    | '+' :: digits => digits
    | digits => digits
  if digits.isEmpty || !digits.all Char.isDigit then none
  else
    let count := cappedValue UInt64.size digits
    if count < UInt64.size then some count else none

namespace Options

/-- Gives an option its value. An option is not given twice, and a path is not empty. -/
def assign (options : Options) (name : OptionName) (value : String) : Option Options :=
  match name with
  | .query => if options.query.isSome then none else some { options with query := value }
  | .mission => if options.mission.isSome then none else some { options with mission := value }
  | .maxResults =>
    if options.maxResults.isSome then none
    else (readCount? value).map fun count => { options with maxResults := count }
  | .config =>
    if options.config.isSome || value.isEmpty then none else some { options with config := value }
  | .corpus =>
    if options.corpus.isSome || value.isEmpty then none else some { options with corpus := value }

/-- Reads the arguments that follow those read before. -/
def parseAfter? (options : Options) : List String → Option Options
  | [] => some options
  | argument :: arguments =>
    match Argument.parse? argument with
    | none => none
    | some .stop => if arguments.isEmpty then some options else none
    | some .json =>
      if options.json then none else parseAfter? { options with json := true } arguments
    | some (.valued name (some value)) =>
      match options.assign name value with
      | none => none
      | some options => parseAfter? options arguments
    | some (.valued name none) =>
      match arguments with
      | [] => none
      | value :: arguments =>
        if looksLikeOption value then none
        else
          match options.assign name value with
          | none => none
          | some options => parseAfter? options arguments

/-- Reads a command line. -/
def parse? (arguments : List String) : Option Options :=
  parseAfter? {} arguments

end Options

end LogSearch.Console
