import LogSearch.Mission
import LogSearch.Outcome
import LogSearch.Query.Basic
import LogSearch.Settings

/-!
# Archives

An archive is a corpus with the settings under which it is searched, and with the compiler of the
wildcard patterns.

* `Corpus.evaluate` gives the positions of the records that meet a query. A single clause and `AND`
  give them in the order of the corpus; `OR` gives those of its first clause first.
* `Archive.search` never fails. It answers a blank or refused query with an outcome without results.
-/

namespace LogSearch

open Text

/-! ## Evaluation -/

namespace Corpus

/-- The positions of the records that meet a clause, in order. -/
def positions (corpus : Corpus) (clause : Clause) : List Nat :=
  (corpus.records.zipIdx.filter fun (record, _) => clause.holds record).map Prod.snd

/-- The found positions that each of the clauses gives, too. Once none is left, no further clause is
looked at. -/
def narrow (corpus : Corpus) (found : List Nat) : List Clause → List Nat
  | [] => found
  | clause :: clauses =>
    if found.isEmpty then found
    else narrow corpus (found.filter (corpus.positions clause).contains) clauses

/-- The found positions with those that a clause gives after them, each once. -/
def widen (corpus : Corpus) (found : List Nat) (clause : Clause) : List Nat :=
  (corpus.positions clause).foldl addNew found

/-- The positions of the records that meet a query. -/
def evaluate (corpus : Corpus) : Query → List Nat
  | .single clause => corpus.positions clause
  | .allOf [] => []
  | .allOf (clause :: clauses) => corpus.narrow (corpus.positions clause) clauses
  | .anyOf clauses => clauses.foldl corpus.widen []

/-- The entries of the records at these positions. -/
def entries (corpus : Corpus) (positions : List Nat) : List Entry :=
  (positions.filterMap corpus.record?).map Entry.ofRecord

end Corpus

/-! ## Search -/

/-- A corpus and what is needed to search it. -/
structure Archive where
  corpus : Corpus
  settings : Settings
  compiler : Pattern.Compiler

namespace Archive

/-- The positions of the records that meet a query. The query may have as many characters as the
settings allow, the white space around it included. -/
def queryPositions (archive : Archive) (query : String) : Except QueryError (List Nat) :=
  if query.length > archive.settings.maxQueryLength then
    .error (.tooLong query.length archive.settings.maxQueryLength)
  else
    archive.corpus.evaluate <$> Query.parse archive.compiler query

/-- The entries of the records that meet a query. -/
def queryEntries (archive : Archive) (query : String) : Except QueryError (List Entry) :=
  archive.corpus.entries <$> archive.queryPositions query

/-- Searches for a mission and judges the result. At most `maxResults` results are given, within the
bounds of the settings. -/
def search (archive : Archive) (query : String) (mission : Option String) (maxResults : Nat) :
    Outcome :=
  let query := String.ofList (trim query.toList)
  if query.isEmpty then .empty query Mission.blankFeedback
  else
    match archive.queryPositions query with
    | .error error => .empty query (Mission.refusedFeedback error.message)
    | .ok found =>
      let results := archive.corpus.entries (found.take (archive.settings.clampResults maxResults))
      let verdict := Mission.assess query mission results archive.corpus.fieldNames
      ⟨query, results.length, results, verdict.isCorrect, verdict.feedback⟩

/-! ## Loading -/

/-- The training corpus under the default settings. -/
def training (compiler : Pattern.Compiler) : Archive :=
  ⟨Corpus.training, {}, compiler⟩

/-- Loads the archive that the settings describe, where `read` reads a file. -/
def load {m : Type → Type} [Monad m] (compiler : Pattern.Compiler)
    (read : String → m (Except ReadFault (List UInt8))) (settings : Settings) :
    m (Except LoadError Archive) :=
  match settings.corpusPath with
  | none => return .ok ⟨Corpus.training, settings, compiler⟩
  | some path => do
    match ← read path with
    | .error fault => return .error (.unreadable fault)
    | .ok bytes => return (⟨·, settings, compiler⟩) <$> Corpus.ofJsonLines bytes

end Archive

/-- Reads settings from a file, where `read` reads a file. -/
def Settings.readFile {m : Type → Type} [Monad m]
    (read : String → m (Except ReadFault (List UInt8))) (path : String) :
    m (Except ReadFault Settings) := do
  match ← read path with
  | .error fault => return .error fault
  | .ok bytes =>
    match decodeUtf8? bytes with
    | none => return .error .invalidData
    | some text => return Settings.parse text

/-- Loads the archive that a file of settings describes, where `read` reads a file. -/
def Archive.loadFile {m : Type → Type} [Monad m] (compiler : Pattern.Compiler)
    (read : String → m (Except ReadFault (List UInt8))) (path : String) :
    m (Except LoadError Archive) := do
  match ← Settings.readFile read path with
  | .error fault => return .error (.badSettings fault)
  | .ok settings => Archive.load compiler read settings

end LogSearch
